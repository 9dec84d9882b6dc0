import ContractTypings.Artifact
import ContractTypings.Proofs.ItemDecoding
import ContractTypings.Proofs.NestedText

namespace ContractTypings

open Abi Json Decoder

def Json.Tree.isArray : Tree → Bool
  | .array _ => true
  | _ => false

theorem Json.Tree.eq_array_of_isArray {t : Tree} (h : t.isArray = true) : ∃ es, t = .array es := by
  cases t with
  | array es => exact ⟨es, rfl⟩
  | _ => cases h

namespace Artifact

def shapes (array : String) : List String :=
  [array, memberText "abi" array, memberText "compilerOutput" (memberText "abi" array)]

/-- The items that are read from an array inside of an artifact object: the array is loaded first,
in the room that the artifact leaves for it. -/
def HeldItems (es : Elements) (items : Items) : Prop :=
  ∃ v, (Tree.array es).load? (maxNesting - 1) = some v ∧ Items.decoder.runValue v = .ok items

theorem loaded_eq_ok_iff {source : Source} {room : Nat} {t : Tree} {v : Value} :
    loaded source room t = .ok v ↔ t.load? room = some v := by
  unfold loaded
  cases t.load? room with
  | none => exact ⟨nofun, nofun⟩
  | some v' =>
    constructor
    · exact fun h => congrArg some (Except.ok.inj h)
    · exact fun h => congrArg Except.ok (Option.some.inj h)

theorem itemsOf_array {room : Nat} {es : Elements} {v : Value} {abi : Option Items}
    (hl : (Tree.array es).load? room = some v) (h : itemsOf v = .ok abi) :
    ∃ items, abi = some items ∧ Items.decoder.runValue v = .ok items := by
  rcases Tree.load?_cases hl with ⟨ht, -⟩ | ⟨_, _, vs, -, -, rfl, -⟩ | ⟨_, _, _, -, ht, -, -⟩
  · cases ht
  · obtain ⟨items, hitems, rfl⟩ := map_eq_ok_iff.mp h
    exact ⟨items, rfl, hitems⟩
  · cases ht

theorem readMembers_single {room : Nat} {key : String} {t : Tree} {a : Artifact}
    (h : decoder .text (room + 1) (.object (.cons (some key) t .closed)) = .ok a) :
    ∃ s, readMember .text room {} key t = .ok s ∧ ofSections s = a := by
  obtain ⟨s, hs, rfl⟩ := map_eq_ok_iff.mp h
  obtain ⟨s', hs', hclosed⟩ := bind_eq_ok_iff.mp hs
  obtain rfl := Except.ok.inj hclosed
  exact ⟨s', hs', rfl⟩

section

variable {text : String} {es : Elements} (hw : (Document.ofText text).isWhole = true)
  (ht : (Document.ofText text).tree = .array es)

include hw ht

theorem read_array {a : Artifact} :
    read text = .ok a ↔
      ∃ items, Items.decoder .text maxNesting (.array es) = .ok items ∧
        { abi := some items } = a := by
  have hended : (Document.ofText text).ended = true := (Bool.and_eq_true_iff.mp hw).2
  have hdocument : Document.ofText text = ⟨.array es, true⟩ := by rw [← ht, ← hended]
  rw [read, run_of_ended hdocument]
  change ((Items.decoder .text maxNesting (.array es)) >>= fun items => Except.ok (some items)).map
    (fun abi => ({ abi } : Artifact)) = .ok a ↔ _
  simp only [map_eq_ok_iff, bind_eq_ok_iff]
  constructor
  · rintro ⟨_, ⟨items, hitems, habi⟩, rfl⟩
    obtain rfl := Except.ok.inj habi
    exact ⟨items, hitems, rfl⟩
  · rintro ⟨items, hitems, rfl⟩
    exact ⟨some items, ⟨items, hitems, rfl⟩, rfl⟩

theorem ofText_abi :
    Document.ofText (memberText "abi" text) =
      ⟨.object (.cons (some "abi") (.array es) .closed), true⟩ := by
  have hn : ∀ n, (Document.ofText text).tree ≠ .number n := by
    intro n
    rw [ht]
    exact nofun
  rw [Document.ofText_memberText (by decide) hw hn, ht]

theorem ofText_compilerOutput :
    Document.ofText (memberText "compilerOutput" (memberText "abi" text)) =
      ⟨.object (.cons (some "compilerOutput")
        (.object (.cons (some "abi") (.array es) .closed)) .closed), true⟩ := by
  have habi := ofText_abi hw ht
  have hn : ∀ n, (Document.ofText (memberText "abi" text)).tree ≠ .number n := by
    intro n
    rw [habi]
    exact nofun
  have hwhole : (Document.ofText (memberText "abi" text)).isWhole = true := by
    have hes : (Document.ofText text).tree.isWhole = true := (Bool.and_eq_true_iff.mp hw).1
    rw [ht] at hes
    rw [habi, Document.isWhole, Tree.isWhole, Members.isWhole, hes]
    rfl
  rw [Document.ofText_memberText (by decide) hwhole hn, habi]

theorem read_abi {a : Artifact} (h : read (memberText "abi" text) = .ok a) :
    ∃ items, a.abi = some items ∧ HeldItems es items := by
  rw [read, run_of_ended (ofText_abi hw ht)] at h
  obtain ⟨s, hs, rfl⟩ := readMembers_single h
  obtain ⟨v, hv, hs⟩ := bind_eq_ok_iff.mp hs
  obtain ⟨abi, habi, hs⟩ := bind_eq_ok_iff.mp hs
  obtain rfl := Except.ok.inj hs
  have hl := loaded_eq_ok_iff.mp hv
  obtain ⟨items, rfl, hitems⟩ := itemsOf_array hl habi
  exact ⟨items, rfl, v, hl, hitems⟩

theorem read_compilerOutput {a : Artifact}
    (h : read (memberText "compilerOutput" (memberText "abi" text)) = .ok a) :
    ∃ items, a.abi = some items ∧ HeldItems es items := by
  rw [read, run_of_ended (ofText_compilerOutput hw ht)] at h
  obtain ⟨s, hs, rfl⟩ := readMembers_single h
  obtain ⟨v, hv, hs⟩ := bind_eq_ok_iff.mp hs
  obtain ⟨abi, habi, hs⟩ := bind_eq_ok_iff.mp hs
  obtain rfl := Except.ok.inj hs
  have hl := loaded_eq_ok_iff.mp hv
  obtain ⟨d, hd, rfl⟩ := Option.map_eq_some_iff.mp hl
  obtain ⟨inner, hinner, hd⟩ := Option.bind_eq_some_iff.mp hd
  obtain rfl := Option.some.inj hd
  obtain ⟨items, rfl, hitems⟩ := itemsOf_array hinner habi
  exact ⟨items, rfl, inner, Tree.load?_succ _ hinner, hitems⟩

theorem items_of_shape {s : String} {a : Artifact} (hs : s ∈ shapes text) (h : read s = .ok a) :
    ∃ items, a.abi = some items ∧
      (Items.decoder .text maxNesting (.array es) = .ok items ∨ HeldItems es items) := by
  simp only [shapes, List.mem_cons, List.not_mem_nil, or_false] at hs
  rcases hs with rfl | rfl | rfl
  · obtain ⟨items, hitems, rfl⟩ := (read_array hw ht).mp h
    exact ⟨items, rfl, Or.inl hitems⟩
  · obtain ⟨items, ha, hitems⟩ := read_abi hw ht h
    exact ⟨items, ha, Or.inr hitems⟩
  · obtain ⟨items, ha, hitems⟩ := read_compilerOutput hw ht h
    exact ⟨items, ha, Or.inr hitems⟩

end

theorem HeldItems.of_text {es : Elements} {items : Items} (h : HeldItems es items)
    (hr : CanRead Items.decoder (maxNesting - 1) maxNesting (.array es)) :
    Items.decoder .text maxNesting (.array es) = .ok items := by
  obtain ⟨v, hl, hv⟩ := h
  exact Items.faithful_decoder hl hv hr

theorem HeldItems.unique {es : Elements} {items items' : Items} (h : HeldItems es items)
    (h' : HeldItems es items') : items = items' := by
  obtain ⟨v, hl, hv⟩ := h
  obtain ⟨v', hl', hv'⟩ := h'
  obtain rfl := Option.some.inj (hl.symm.trans hl')
  exact Except.ok.inj (hv.symm.trans hv')

/-- Two artifacts around one array have the same ABI, and if no object in the array repeats a key,
the array can be read by itself where it can be read inside of an artifact. -/
theorem shapes_agree {text : String} (hw : (Document.ofText text).isWhole = true)
    (ha : (Document.ofText text).tree.isArray = true) :
    (∀ s ∈ shapes text, ∀ s' ∈ shapes text, ∀ a a', read s = .ok a → read s' = .ok a' →
        ∃ items, a.abi = some items ∧ a'.abi = some items) ∧
      ((Document.ofText text).tree.hasDistinctKeys = true →
        ∀ s ∈ shapes text, (∃ a, read s = .ok a) → ∃ a, read text = .ok a) := by
  obtain ⟨es, ht⟩ := Tree.eq_array_of_isArray ha
  refine ⟨?_, ?_⟩
  · intro s hs s' hs' a a' h h'
    obtain ⟨items, ha, hi⟩ := items_of_shape hw ht hs h
    obtain ⟨items', ha', hi'⟩ := items_of_shape hw ht hs' h'
    have heq : items = items' := by
      rcases hi with hi | hi
      · rcases hi' with hi' | hi'
        · exact Except.ok.inj (hi.symm.trans hi')
        · exact Except.ok.inj (hi.symm.trans (hi'.of_text (Or.inl ⟨items, hi⟩)))
      · rcases hi' with hi' | hi'
        · exact Except.ok.inj ((hi.of_text (Or.inl ⟨items', hi'⟩)).symm.trans hi')
        · exact hi.unique hi'
    exact ⟨items, ha, heq ▸ ha'⟩
  · rintro hk s hs ⟨a, h⟩
    obtain ⟨items, -, hi⟩ := items_of_shape hw ht hs h
    have hitems : Items.decoder .text maxNesting (.array es) = .ok items := by
      rcases hi with hi | hi
      · exact hi
      · exact hi.of_text (Or.inr ⟨by decide, ht ▸ hk⟩)
    exact ⟨_, (read_array hw ht).mpr ⟨items, hitems, rfl⟩⟩

theorem shapes_agree_positional :
    let text :=
      "[\x7b\"inputs\": [[null, \"by\", \"address\"]], \"gas\": 1, \"type\": \"event\"\x7d]"
    ∃ a a', read text = .ok a ∧
      read (memberText "compilerOutput" (memberText "abi" text)) = .ok a' ∧
      ∃ items, a.abi = some items ∧ a'.abi = some items := by
  intro text
  have hw : (Document.ofText text).isWhole = true := by decide +kernel
  have ha : (Document.ofText text).tree.isArray = true := by decide +kernel
  have hk : (Document.ofText text).tree.hasDistinctKeys = true := by decide +kernel
  have hok :
      (read (memberText "compilerOutput" (memberText "abi" text))).toOption.isSome = true := by
    decide +kernel
  obtain ⟨hagree, hcover⟩ := shapes_agree hw ha
  have hmem : memberText "compilerOutput" (memberText "abi" text) ∈ shapes text := by simp [shapes]
  obtain ⟨a', ha'⟩ : ∃ a', read (memberText "compilerOutput" (memberText "abi" text)) = .ok a' := by
    cases hr : read (memberText "compilerOutput" (memberText "abi" text)) with
    | error e =>
      rw [hr] at hok
      cases hok
    | ok a' => exact ⟨a', rfl⟩
  obtain ⟨a, h⟩ := hcover hk _ hmem ⟨a', ha'⟩
  exact ⟨a, a', h, ha', hagree _ List.mem_cons_self _ hmem a a' h ha'⟩

end Artifact

end ContractTypings
