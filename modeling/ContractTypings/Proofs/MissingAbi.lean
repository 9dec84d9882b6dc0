import ContractTypings.Proofs.ArtifactShapes
import ContractTypings.Proofs.DictionaryEntries
import ContractTypings.Proofs.Loading
import ContractTypings.Proofs.RunPhases

namespace ContractTypings

open Abi Json Decoder Natspec

theorem exists_value {ε α : Type} {r : Except ε α} (h : r.toOption.isSome = true) :
    ∃ v, r = .ok v := by
  cases r with
  | error e => cases h
  | ok v => exact ⟨v, rfl⟩

namespace Json

def Members.named : Members → List (String × Tree)
  | .closed | .cut => []
  | .cons none _ rest => rest.named
  | .cons (some key) value rest => (key, value) :: rest.named

theorem named_ofList (ms : List (String × Tree)) : (Members.ofList ms).named = ms := by
  induction ms with
  | nil => rfl
  | cons m ms ih => exact congrArg (m :: ·) ih

theorem mem_valuesOf_ofList {key : String} {t : Tree} {ms : List (String × Tree)}
    (h : (key, t) ∈ ms) : t ∈ valuesOf key (.ofList ms) := by
  induction ms with
  | nil => cases h
  | cons m ms ih =>
    rw [Members.ofList, valuesOf]
    rcases List.mem_cons.mp h with rfl | h
    · simp
    · split
      · exact List.mem_cons_of_mem _ (ih h)
      · exact ih h

theorem Members.find?_load {room : Nat} (key : String) {ms : Members} {d d' : Dictionary Value}
    (h : ms.load? room d = some d') :
    d'.entries.find? (·.1 == key) =
      (valuesOf key ms).getLast?.elim (d.entries.find? (·.1 == key)) fun t =>
        (t.load? room).map (key, ·) := by
  obtain ⟨loaded, rfl, rfl, hl⟩ := ms.load?_eq_some h
  clear h
  induction loaded generalizing d with
  | nil => rfl
  | cons m loaded ih =>
    obtain ⟨hm, hl⟩ := List.forall_mem_cons.mp hl
    have hinsert : (d.insert m.key m.value).entries.find? (·.1 == key) =
        if m.key = key then some (key, m.value) else d.entries.find? (·.1 == key) :=
      Dictionary.find?_insertSorted key m.key m.value d.entries
    rw [List.map_cons, List.foldl_cons, ih hl, hinsert, List.map_cons, Members.ofList, valuesOf]
    by_cases hk : m.key = key
    · rw [if_pos hk, if_pos (congrArg some hk), List.getLast?_cons]
      cases (valuesOf key _).getLast? with
      | none => simp [hm]
      | some t => rfl
    · have hne : some m.key ≠ some key := fun h => hk (Option.some.inj h)
      rw [if_neg hk, if_neg hne]

end Json

namespace Artifact

def holdsItems : Tree → Bool
  | .object ms => (valuesOf "abi" ms).getLast?.any Tree.isArray
  | _ => false

def holdsAbi : Tree → Bool
  | .array _ => true
  | .object ms =>
    (valuesOf "abi" ms).any Tree.isArray || (valuesOf "compilerOutput" ms).any holdsItems
  | _ => false

def fault? {α : Type} : Except Fault α → Option Fault
  | .error fault => some fault
  | .ok _ => none

def sectionFault? (key : String) (t : Tree) : Option Fault :=
  match key with
  | "devdoc" => fault? (optional DevDoc.decoder .text (maxNesting - 1) t)
  | "userdoc" => fault? (optional UserDoc.decoder .text (maxNesting - 1) t)
  | _ => none

def docFault? : Tree → Option Fault
  | .object ms => ms.named.findSome? fun m => sectionFault? m.1 m.2
  | _ => none

theorem itemsOf_of_not_array {room : Nat} {t : Tree} {v : Value} (hl : t.load? room = some v)
    (ha : t.isArray = false) : itemsOf v = .ok none := by
  rcases Tree.load?_cases hl with ⟨hc, rfl⟩ | ⟨_, _, _, -, rfl, -, -⟩ | ⟨_, _, _, -, -, rfl, -⟩
  · cases v with
    | array vs => cases hc
    | _ => rfl
  · cases ha
  · rfl

theorem compilerItemsOf_of_lacking {room : Nat} {t : Tree} {v : Value} (hl : t.load? room = some v)
    (ha : holdsItems t = false) : compilerItemsOf v = .ok none := by
  rcases Tree.load?_cases hl with ⟨hc, rfl⟩ | ⟨_, _, _, -, -, rfl, -⟩ | ⟨m, ms, d, -, rfl, rfl, hd⟩
  · cases v with
    | object ms => cases hc
    | _ => rfl
  · rfl
  · have hfind := Members.find?_load "abi" hd
    rw [holdsItems] at ha
    rw [compilerItemsOf]
    cases hlast : (valuesOf "abi" ms).getLast? with
    | none =>
      rw [hlast] at hfind
      rw [hfind]
      rfl
    | some t' =>
      rw [hlast] at ha
      rw [hlast, Option.elim_some] at hfind
      rw [hfind]
      cases ht' : t'.load? m with
      | none => rfl
      | some w => exact itemsOf_of_not_array ht' ha

structure Sections.Lacking (s : Sections) : Prop where
  abi : s.abi = none
  compilerAbi : s.compilerAbi = none

theorem fault?_eq_some_iff {α : Type} {x : Except Fault α} {fault : Fault} :
    fault? x = some fault ↔ x = .error fault := by
  cases x <;> simp [fault?]

theorem fault?_eq_none_iff {α : Type} {x : Except Fault α} : fault? x = none ↔ ∃ a, x = .ok a := by
  cases x <;> simp [fault?]

section

variable {s : Sections} {t : Tree} {v : Value} {key : String}

theorem readMember_fault {fault : Fault} (h : sectionFault? key t = some fault) :
    readMember .text (maxNesting - 1) s key t = .error fault := by
  unfold sectionFault? at h
  split at h
  · rw [readMember, fault?_eq_some_iff.mp h]
    rfl
  · rw [readMember, fault?_eq_some_iff.mp h]
    rfl
  · cases h

theorem readMember_lacking (hs : s.Lacking) (hl : t.load? (maxNesting - 1) = some v)
    (ha : key = "abi" → t.isArray = false) (hc : key = "compilerOutput" → holdsItems t = false)
    (h : sectionFault? key t = none) :
    ∃ s', readMember .text (maxNesting - 1) s key t = .ok s' ∧ s'.Lacking := by
  unfold readMember
  split
  · rw [loaded_eq_ok_iff.mpr hl]
    refine ⟨{ s with abi := none }, ?_, rfl, hs.compilerAbi⟩
    have hnone : itemsOf v = .ok none := itemsOf_of_not_array hl (ha rfl)
    change (itemsOf v >>= _) = _
    rw [hnone]
    rfl
  · rw [loaded_eq_ok_iff.mpr hl]
    refine ⟨{ s with compilerAbi := none }, ?_, hs.abi, rfl⟩
    have hnone : compilerItemsOf v = .ok none := compilerItemsOf_of_lacking hl (hc rfl)
    change (compilerItemsOf v >>= _) = _
    rw [hnone]
    rfl
  · obtain ⟨devDoc, hd⟩ := fault?_eq_none_iff.mp h
    exact ⟨{ s with devDoc }, by rw [hd]; rfl, hs.abi, hs.compilerAbi⟩
  · obtain ⟨userDoc, hd⟩ := fault?_eq_none_iff.mp h
    exact ⟨{ s with userDoc }, by rw [hd]; rfl, hs.abi, hs.compilerAbi⟩
  · exact ⟨s, by rw [if_pos (t.isWhole_of_load? hl)], hs⟩

theorem readMembers_lacking {ms : List (String × Tree)} (hs : s.Lacking)
    (hl : ∀ m ∈ ms, ∃ v, m.2.load? (maxNesting - 1) = some v)
    (ha : ∀ m ∈ ms, m.1 = "abi" → m.2.isArray = false)
    (hc : ∀ m ∈ ms, m.1 = "compilerOutput" → holdsItems m.2 = false) :
    match ms.findSome? fun m => sectionFault? m.1 m.2 with
    | some fault => readMembers .text (maxNesting - 1) s (.ofList ms) = .error fault
    | none => ∃ s', readMembers .text (maxNesting - 1) s (.ofList ms) = .ok s' ∧ s'.Lacking := by
  induction ms generalizing s with
  | nil => exact ⟨s, rfl, hs⟩
  | cons m ms ih =>
    obtain ⟨key, t⟩ := m
    obtain ⟨⟨v, hv⟩, hl⟩ := List.forall_mem_cons.mp hl
    obtain ⟨hat, ha⟩ := List.forall_mem_cons.mp ha
    obtain ⟨hct, hc⟩ := List.forall_mem_cons.mp hc
    rw [List.findSome?_cons, Members.ofList, readMembers]
    cases hf : sectionFault? key t with
    | some fault =>
      rw [readMember_fault hf]
      rfl
    | none =>
      obtain ⟨s', hr, hs'⟩ := readMember_lacking hs hv hat hct hf
      rw [hr]
      exact ih hs' hl ha hc

end

theorem decoder_object {ms : List (String × Tree)}
    (hl : ∀ m ∈ ms, ∃ v, m.2.load? (maxNesting - 1) = some v)
    (ha : ∀ m ∈ ms, m.1 = "abi" → m.2.isArray = false)
    (hc : ∀ m ∈ ms, m.1 = "compilerOutput" → holdsItems m.2 = false) :
    match docFault? (.object (.ofList ms)) with
    | some fault => decoder .text maxNesting (.object (.ofList ms)) = .error fault
    | none => ∃ a, decoder .text maxNesting (.object (.ofList ms)) = .ok a ∧ a.abi = none := by
  have hdecoder : decoder .text maxNesting (.object (.ofList ms)) =
      (readMembers .text (maxNesting - 1) {} (.ofList ms)).map ofSections := rfl
  have hrun := readMembers_lacking (s := {}) ⟨rfl, rfl⟩ hl ha hc
  rw [docFault?, named_ofList, hdecoder]
  cases hf : ms.findSome? fun m => sectionFault? m.1 m.2 with
  | some fault =>
    simp only [hf] at hrun ⊢
    rw [hrun]
    rfl
  | none =>
    simp only [hf] at hrun ⊢
    obtain ⟨s, hs, hlacking⟩ := hrun
    refine ⟨ofSections s, by rw [hs]; rfl, ?_⟩
    rw [ofSections, hlacking.abi, hlacking.compilerAbi]
    rfl

theorem document_of_loaded {text : String} {v : Value} (h : loaded.run text = .ok v) :
    ∃ t, Document.ofText text = ⟨t, true⟩ ∧ t.load? maxNesting = some v := by
  obtain ⟨w, hw, hended⟩ := bind_eq_ok_iff.mp h
  have hl := loaded_eq_ok_iff.mp hw
  split at hended
  next he =>
    obtain rfl := Except.ok.inj hended
    exact ⟨(Document.ofText text).tree, by rw [← he], hl⟩
  · cases hended

theorem read_of_lacking {text : String} {v : Value} (hl : loaded.run text = .ok v)
    (hn : holdsAbi (Document.ofText text).tree = false) :
    match docFault? (Document.ofText text).tree with
    | some fault => read text = .error fault
    | none => ∃ a, read text = .ok a ∧ a.abi = none := by
  obtain ⟨t, hdocument, ht⟩ := document_of_loaded hl
  rw [hdocument] at hn
  rw [hdocument, read, run_of_ended hdocument]
  dsimp only at hn ⊢
  cases t with
  | array es => cases hn
  | object ms =>
    obtain ⟨d, hd, -⟩ := Option.map_eq_some_iff.mp ht
    obtain ⟨members, rfl, -, hmembers⟩ := ms.load?_eq_some hd
    obtain ⟨ha, hc⟩ := Bool.or_eq_false_iff.mp hn
    have hload : ∀ m ∈ members.map fun m => (m.key, m.tree),
        ∃ v, m.2.load? (maxNesting - 1) = some v := by
      intro m hm
      obtain ⟨member, hmember, rfl⟩ := List.mem_map.mp hm
      exact ⟨member.value, hmembers member hmember⟩
    apply decoder_object hload
    · intro m hm hk
      simpa using List.any_eq_false.mp ha _ (mem_valuesOf_ofList (hk ▸ hm))
    · intro m hm hk
      simpa using List.any_eq_false.mp hc _ (mem_valuesOf_ofList (hk ▸ hm))
  | null => exact ⟨{}, rfl, rfl⟩
  | bool b => exact ⟨{}, rfl, rfl⟩
  | number n =>
    obtain ⟨n, rfl, -⟩ := Option.map_eq_some_iff.mp ht
    exact ⟨{}, rfl, rfl⟩
  | string s =>
    obtain ⟨s, rfl, -⟩ := Option.map_eq_some_iff.mp ht
    exact ⟨{}, rfl, rfl⟩
  | broken => cases ht

end Artifact

namespace Generator

open Artifact

theorem transform_of_lacking {text : String} {v : Value} (hl : loaded.run text = .ok v)
    (hn : holdsAbi (Document.ofText text).tree = false) (g : Generator) (t : FileTree) (p : Path) :
    g.transform t p text =
      match docFault? (Document.ofText text).tree with
      | none => .ok none
      | some fault => .error (faultIn p fault) := by
  have hread := read_of_lacking hl hn
  cases hf : docFault? (Document.ofText text).tree with
  | some fault =>
    simp only [hf] at hread
    simp only [transform, transformAt, hread]
  | none =>
    simp only [hf] at hread
    obtain ⟨a, ha, habi⟩ := hread
    have hnone : a.nonEmptyAbi? = none := by
      rw [nonEmptyAbi?, habi]
      rfl
    simp only [transform, transformAt, ha, hnone]

theorem moduleOf_eq_transform {g : Generator} {t : FileTree} {seen : List Path} {p : Path}
    {contents : String} (hg : MadeOn t g) (hp : p ∈ g.config.allFiles)
    (hs : seen.any (·.same (g.config.resolve t p)) = false)
    (hr : t.readText (g.config.resolve t p) = .ok contents) :
    g.moduleOf t seen p = g.transform t p contents := by
  obtain ⟨e, -, -, he⟩ := Config.exists_get?_layout (t := t) hp
  have hl : (g.layout t).get? (g.config.resolve t p) = some e.2 := by
    rw [hg.layout_eq]
    exact he
  simp [moduleOf, transform, placeOf, hl, hs, hr]

/-- A document within the limits that holds no ABI is skipped, and no run stops at it, whatever else
it holds, as long as each of its documentation sections can be read as one. Else the first that
cannot is what it is refused for. -/
theorem transform_missing_abi {text : String} {v : Value} (hl : loaded.run text = .ok v)
    (hn : holdsAbi (Document.ofText text).tree = false) :
    (∀ (g : Generator) (t : FileTree) (p : Path), g.transform t p text =
      match docFault? (Document.ofText text).tree with
      | none => .ok none
      | some fault => .error (faultIn p fault)) ∧
    (docFault? (Document.ofText text).tree = none →
      ∀ (g : Generator) (t : FileTree) (seen : List Path) (p : Path), MadeOn t g →
        p ∈ g.config.allFiles → seen.any (·.same (g.config.resolve t p)) = false →
        t.readText (g.config.resolve t p) = .ok text → g.moduleOf t seen p = .ok none) := by
  refine ⟨transform_of_lacking hl hn, ?_⟩
  intro hf g t seen p hg hp hs hr
  rw [moduleOf_eq_transform hg hp hs hr, transform_of_lacking hl hn, hf]

theorem transform_missing_abi_vault :
    let text := "\x7b\"compilerOutput\": \x7b\"abi\": [1], \"abi\": 2\x7d, \"devdoc\": null, " ++
      "\"userdoc\": \x7b\"methods\": \x7b\"f()\": \"!\"\x7d\x7d, \"abi\": \x7b\x7d\x7d"
    (∃ v, loaded.run text = .ok v) ∧ holdsAbi (Document.ofText text).tree = false ∧
      ∀ (g : Generator) (t : FileTree) (p : Path), g.transform t p text = .ok none := by
  intro text
  obtain ⟨v, hl⟩ := exists_value (by decide +kernel : (loaded.run text).toOption.isSome = true)
  have hn : holdsAbi (Document.ofText text).tree = false := by decide +kernel
  have hf : docFault? (Document.ofText text).tree = none := by decide +kernel
  refine ⟨⟨v, hl⟩, hn, ?_⟩
  intro g t p
  rw [(transform_missing_abi hl hn).1, hf]

/-- A number in place of a documentation section, in a document without an ABI. -/
theorem transform_numeric_devdoc :
    let text := "\x7b\"devdoc\":42\x7d"
    (∃ v, loaded.run text = .ok v) ∧ holdsAbi (Document.ofText text).tree = false ∧
      ∀ (g : Generator) (t : FileTree) (p : Path), g.transform t p text =
        .error (.malformedArtifact p (.wrongType (.number (.natural 42)) (.record "DevDoc"))) := by
  intro text
  obtain ⟨v, hl⟩ := exists_value (by decide +kernel : (loaded.run text).toOption.isSome = true)
  have hn : holdsAbi (Document.ofText text).tree = false := by decide +kernel
  have hf : docFault? (Document.ofText text).tree =
      some (.mismatch (.wrongType (.number (.natural 42)) (.record "DevDoc"))) := by
    decide +kernel
  refine ⟨⟨v, hl⟩, hn, ?_⟩
  intro g t p
  rw [transform_of_lacking hl hn, hf]
  rfl

end Generator

end ContractTypings
