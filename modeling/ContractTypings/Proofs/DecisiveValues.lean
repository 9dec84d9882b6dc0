import ContractTypings.Proofs.MissingAbi
import ContractTypings.Proofs.ObjectText

namespace ContractTypings

open Abi Json Decoder Natspec

namespace Json

def Members.last? (key : String) (ms : Members) : Option Tree := (valuesOf key ms).getLast?

theorem Members.last?_cons (key k : String) (t : Tree) (rest : Members) :
    (Members.cons (some k) t rest).last? key =
      (rest.last? key).or (if k = key then some t else none) := by
  rw [Members.last?, valuesOf]
  by_cases h : k = key
  · rw [if_pos (congrArg some h), if_pos h, List.getLast?_cons]
    change some ((rest.last? key).getD t) = _
    cases rest.last? key <;> rfl
  · have hne : some k ≠ some key := fun he => h (Option.some.inj he)
    rw [if_neg hne, if_neg h, Option.or_none]
    rfl

def Tree.elements? : Tree → Option Elements
  | .array es => some es
  | _ => none

def Tree.members? : Tree → Option Members
  | .object ms => some ms
  | _ => none

theorem valuesOf_ofList (key : String) (ms : List (String × Tree)) :
    valuesOf key (.ofList ms) = (ms.filter fun m => m.1 = key).map Prod.snd := by
  induction ms with
  | nil => rfl
  | cons m ms ih =>
    obtain ⟨k, t⟩ := m
    rw [Members.ofList, valuesOf, ih]
    by_cases h : k = key
    · simp [h]
    · simp [h]

def MemberText.last? (key : String) (members : List MemberText) : Option String :=
  (members.filter fun m => m.key = key).getLast?.map MemberText.valueText

theorem last?_objectText (key : String) (members : List MemberText) :
    (Members.ofList (members.map fun m => (m.key, m.tree))).last? key =
      (MemberText.last? key members).map fun text => (Document.ofText text).tree := by
  rw [Members.last?, valuesOf_ofList, List.filter_map, List.map_map, List.getLast?_map,
    MemberText.last?, Option.map_map]
  rfl

theorem Members.exists_load {room : Nat} {key : String} {t : Tree} : (ms : Members) →
    {d d' : Dictionary Value} → ms.load? room d = some d' → t ∈ valuesOf key ms →
    ∃ v, t.load? room = some v
  | .closed, _, _, _, ht => absurd ht List.not_mem_nil
  | .cut, _, _, _, ht => absurd ht List.not_mem_nil
  | .cons k value rest, _, _, h, ht => by
    obtain ⟨k, rfl, h⟩ := Option.bind_eq_some_iff.mp h
    obtain ⟨v, hv, h⟩ := Option.bind_eq_some_iff.mp h
    rw [valuesOf] at ht
    split at ht
    · rcases List.mem_cons.mp ht with rfl | ht
      · exact ⟨v, hv⟩
      · exact rest.exists_load h ht
    · exact rest.exists_load h ht

theorem Tree.eq_array_of_elements? {t : Tree} {es : Elements} (h : t.elements? = some es) :
    t = .array es := by
  cases t with
  | array es' => exact congrArg Tree.array (Option.some.inj h)
  | _ => cases h

theorem Tree.eq_object_of_members? {t : Tree} {ms : Members} (h : t.members? = some ms) :
    t = .object ms := by
  cases t with
  | object ms' => exact congrArg Tree.object (Option.some.inj h)
  | _ => cases h

theorem Tree.isArray_eq_false {t : Tree} (h : t.elements? = none) : t.isArray = false := by
  cases t with
  | array es => cases h
  | _ => rfl

end Json

namespace Artifact

def abiArray? (ms : Members) : Option Elements := (ms.last? "abi").bind Tree.elements?

def compilerArray? (ms : Members) : Option Elements :=
  ((ms.last? "compilerOutput").bind Tree.members?).bind abiArray?

def decisiveKeys : List String := ["abi", "compilerOutput", "devdoc", "userdoc"]

/-- The value after a reading that starts from another: it is read from the last of the trees that
are met, and stays as it was if none is met. -/
def LastRead {α : Type} (read : Tree → Except Fault α) (before : α) : Option Tree → α → Prop
  | none, after => after = before
  | some t, after => read t = .ok after

namespace LastRead

variable {α : Type} {read : Tree → Except Fault α} {a b c : α} {first last : Option Tree}

theorem trans (h : LastRead read a first b) (h' : LastRead read b last c) :
    LastRead read a (last.or first) c := by
  cases last with
  | none =>
    obtain rfl : c = b := h'
    exact h
  | some t => exact h'

theorem unique (h : LastRead read a last b) (h' : LastRead read a last c) : b = c := by
  cases last with
  | none => exact Eq.trans h (Eq.symm h')
  | some t => exact Except.ok.inj ((Eq.symm h).trans h')

end LastRead

def readAbi (room : Nat) (t : Tree) : Except Fault (Option Items) := do
  itemsOf (← loaded .text room t)

def readCompilerAbi (room : Nat) (t : Tree) : Except Fault (Option Items) := do
  compilerItemsOf (← loaded .text room t)

structure Sections.ReadFrom (room : Nat) (ms : Members) (s s' : Sections) : Prop where
  abi : LastRead (readAbi room) s.abi (ms.last? "abi") s'.abi
  compilerAbi :
    LastRead (readCompilerAbi room) s.compilerAbi (ms.last? "compilerOutput") s'.compilerAbi
  devDoc : LastRead (optional DevDoc.decoder .text room) s.devDoc (ms.last? "devdoc") s'.devDoc
  userDoc : LastRead (optional UserDoc.decoder .text room) s.userDoc (ms.last? "userdoc") s'.userDoc

theorem Sections.ReadFrom.cons {room : Nat} {key : String} {t : Tree} {rest : Members}
    {s s₁ s₂ : Sections} (h : ReadFrom room (.cons (some key) t .closed) s s₁)
    (hr : ReadFrom room rest s₁ s₂) : ReadFrom room (.cons (some key) t rest) s s₂ := by
  have hlast (k : String) : (Members.cons (some key) t rest).last? k =
      (rest.last? k).or ((Members.cons (some key) t .closed).last? k) := by
    rw [Members.last?_cons, Members.last?_cons]
    rfl
  constructor
  · rw [hlast]
    exact h.abi.trans hr.abi
  · rw [hlast]
    exact h.compilerAbi.trans hr.compilerAbi
  · rw [hlast]
    exact h.devDoc.trans hr.devDoc
  · rw [hlast]
    exact h.userDoc.trans hr.userDoc

theorem readFrom_readMember {room : Nat} {s s' : Sections} {key : String} {t : Tree}
    (h : readMember .text room s key t = .ok s') :
    Sections.ReadFrom room (.cons (some key) t .closed) s s' := by
  unfold readMember at h
  split at h
  · obtain ⟨v, hv, h⟩ := bind_eq_ok_iff.mp h
    obtain ⟨abi, habi, h⟩ := bind_eq_ok_iff.mp h
    obtain rfl := Except.ok.inj h
    exact ⟨bind_eq_ok_iff.mpr ⟨v, hv, habi⟩, rfl, rfl, rfl⟩
  · obtain ⟨v, hv, h⟩ := bind_eq_ok_iff.mp h
    obtain ⟨abi, habi, h⟩ := bind_eq_ok_iff.mp h
    obtain rfl := Except.ok.inj h
    exact ⟨rfl, bind_eq_ok_iff.mpr ⟨v, hv, habi⟩, rfl, rfl⟩
  · obtain ⟨devDoc, hd, rfl⟩ := map_eq_ok_iff.mp h
    exact ⟨rfl, rfl, hd, rfl⟩
  · obtain ⟨userDoc, hd, rfl⟩ := map_eq_ok_iff.mp h
    exact ⟨rfl, rfl, rfl, hd⟩
  next habi hcompiler hdev huser =>
    have hnone {k : String} (hk : key ≠ k) :
        (Members.cons (some key) t .closed).last? k = none := by
      rw [Members.last?_cons, if_neg hk]
      rfl
    split at h
    · obtain rfl := Except.ok.inj h
      constructor
      · rw [hnone habi]
        rfl
      · rw [hnone hcompiler]
        rfl
      · rw [hnone hdev]
        rfl
      · rw [hnone huser]
        rfl
    · cases h

theorem readFrom_readMembers {room : Nat} : (ms : Members) → {s s' : Sections} →
    readMembers .text room s ms = .ok s' → Sections.ReadFrom room ms s s'
  | .closed, _, _, h => by
    obtain rfl := Except.ok.inj h
    exact ⟨rfl, rfl, rfl, rfl⟩
  | .cut, _, _, h => by cases h
  | .cons none _ _, _, _, h => by cases h
  | .cons (some key) t rest, s, s', h => by
    obtain ⟨s₁, hs₁, h⟩ := bind_eq_ok_iff.mp h
    exact (readFrom_readMember hs₁).cons (readFrom_readMembers rest h)

theorem Sections.ReadFrom.unique {room : Nat} {ms ms' : Members} {s s₁ s₂ : Sections}
    (h : ReadFrom room ms s s₁) (h' : ReadFrom room ms' s s₂)
    (hlast : ∀ key ∈ decisiveKeys, ms.last? key = ms'.last? key) : s₁ = s₂ := by
  simp only [decisiveKeys, List.forall_mem_cons] at hlast
  obtain ⟨habi, hcompiler, hdev, huser, -⟩ := hlast
  obtain ⟨abi, compilerAbi, devDoc, userDoc⟩ := s₁
  obtain ⟨abi', compilerAbi', devDoc', userDoc'⟩ := s₂
  rw [Sections.mk.injEq]
  refine ⟨?_, ?_, ?_, ?_⟩
  · exact h.abi.unique (habi ▸ h'.abi)
  · exact h.compilerAbi.unique (hcompiler ▸ h'.compilerAbi)
  · exact h.devDoc.unique (hdev ▸ h'.devDoc)
  · exact h.userDoc.unique (huser ▸ h'.userDoc)

section

variable {last : Option Tree} {abi : Option Items}

theorem readAbi_of_array {es : Elements} (h : readAbi (maxNesting - 1) (.array es) = .ok abi) :
    ∃ items, abi = some items ∧ HeldItems es items := by
  obtain ⟨v, hv, h⟩ := bind_eq_ok_iff.mp h
  have hl := loaded_eq_ok_iff.mp hv
  obtain ⟨items, rfl, hitems⟩ := itemsOf_array hl h
  exact ⟨items, rfl, v, hl, hitems⟩

theorem readAbi_of_lacking {t : Tree} {room : Nat} (ht : t.elements? = none)
    (h : readAbi room t = .ok abi) : abi = none := by
  obtain ⟨v, hv, h⟩ := bind_eq_ok_iff.mp h
  rw [itemsOf_of_not_array (loaded_eq_ok_iff.mp hv) (Tree.isArray_eq_false ht)] at h
  exact (Except.ok.inj h).symm

theorem holdsItems_eq_false {t : Tree} (h : t.members?.bind abiArray? = none) :
    holdsItems t = false := by
  cases t with
  | object ms =>
    change ((ms.last? "abi").bind Tree.elements?) = none at h
    change (ms.last? "abi").any Tree.isArray = false
    cases hlast : ms.last? "abi" with
    | none => rfl
    | some t =>
      rw [hlast] at h
      exact Tree.isArray_eq_false h
  | _ => rfl

theorem readCompilerAbi_of_lacking {t : Tree} {room : Nat} (ht : t.members?.bind abiArray? = none)
    (h : readCompilerAbi room t = .ok abi) : abi = none := by
  obtain ⟨v, hv, h⟩ := bind_eq_ok_iff.mp h
  rw [compilerItemsOf_of_lacking (loaded_eq_ok_iff.mp hv) (holdsItems_eq_false ht)] at h
  exact (Except.ok.inj h).symm

theorem readCompilerAbi_of_array {ms : Members} {es : Elements} (hes : abiArray? ms = some es)
    (h : readCompilerAbi (maxNesting - 1) (.object ms) = .ok abi) :
    ∃ items, abi = some items ∧ HeldItems es items := by
  obtain ⟨v, hv, h⟩ := bind_eq_ok_iff.mp h
  obtain ⟨d, hd, rfl⟩ := Option.map_eq_some_iff.mp (loaded_eq_ok_iff.mp hv)
  obtain ⟨t, ht, hes⟩ := Option.bind_eq_some_iff.mp hes
  obtain rfl := Tree.eq_array_of_elements? hes
  obtain ⟨v, hv⟩ := ms.exists_load hd (List.mem_of_getLast? ht)
  have hfind := Members.find?_load "abi" hd
  rw [show (valuesOf "abi" ms).getLast? = some (.array es) from ht, Option.elim_some, hv] at hfind
  rw [compilerItemsOf, hfind] at h
  obtain ⟨items, rfl, hitems⟩ := itemsOf_array hv h
  exact ⟨items, rfl, v, Tree.load?_succ _ hv, hitems⟩

end

def SaysItems : Option Elements → Option Items → Prop
  | some es, abi => ∃ items, abi = some items ∧ HeldItems es items
  | none, abi => abi = none

theorem SaysItems.or {es es' : Option Elements} {abi abi' : Option Items} (h : SaysItems es abi)
    (h' : SaysItems es' abi') : SaysItems (es.or es') (abi.or abi') := by
  cases es with
  | some es =>
    obtain ⟨items, rfl, hitems⟩ := h
    exact ⟨items, rfl, hitems⟩
  | none =>
    obtain rfl : abi = none := h
    exact h'

section

variable {ms : Members} {abi : Option Items}

theorem saysItems_abi (h : LastRead (readAbi (maxNesting - 1)) none (ms.last? "abi") abi) :
    SaysItems (abiArray? ms) abi := by
  rw [abiArray?]
  cases hlast : ms.last? "abi" with
  | none =>
    rw [hlast] at h
    exact h
  | some t =>
    rw [hlast] at h
    rw [Option.bind_some]
    cases hes : t.elements? with
    | none => exact readAbi_of_lacking hes h
    | some es =>
      obtain rfl := Tree.eq_array_of_elements? hes
      exact readAbi_of_array h

theorem saysItems_compilerAbi
    (h : LastRead (readCompilerAbi (maxNesting - 1)) none (ms.last? "compilerOutput") abi) :
    SaysItems (compilerArray? ms) abi := by
  rw [compilerArray?]
  cases hlast : ms.last? "compilerOutput" with
  | none =>
    rw [hlast] at h
    exact h
  | some t =>
    rw [hlast] at h
    rw [Option.bind_some]
    cases hes : t.members?.bind abiArray? with
    | none => exact readCompilerAbi_of_lacking hes h
    | some es =>
      obtain ⟨inner, ht, hinner⟩ := Option.bind_eq_some_iff.mp hes
      obtain rfl := Tree.eq_object_of_members? ht
      exact readCompilerAbi_of_array hinner h

theorem isSome_of_lastRead {α : Type} {d : Decoder α} {room : Nat} {last : Option Tree}
    {value : Option α} (h : LastRead (optional d .text room) none last value) :
    value.isSome = true ↔ ∃ t, last = some t ∧ t ≠ .null := by
  cases last with
  | none =>
    obtain rfl : value = none := h
    simp
  | some t =>
    change Decoder.optional d .text room t = .ok value at h
    unfold Decoder.optional at h
    split at h
    · obtain rfl := Except.ok.inj h
      simp
    next hnull =>
      obtain ⟨a, -, rfl⟩ := map_eq_ok_iff.mp h
      simpa using hnull

end

theorem isSome_merge? (dev : Option DevDoc) (user : Option UserDoc) :
    (Documentation.merge? dev user).isSome = (dev.isSome || user.isSome) := by
  cases dev with
  | some dev => rfl
  | none =>
    cases user with
    | some user => rfl
    | none => rfl

theorem readFrom_of_read {text : String} {ms : Members} {a : Artifact}
    (ht : (Document.ofText text).tree = .object ms) (h : read text = .ok a) :
    ∃ s, Sections.ReadFrom (maxNesting - 1) ms {} s ∧ a = ofSections s := by
  obtain ⟨a', ha', h⟩ := bind_eq_ok_iff.mp h
  rw [ht] at ha'
  obtain ⟨s, hs, rfl⟩ := map_eq_ok_iff.mp ha'
  split at h
  · exact ⟨s, readFrom_readMembers ms hs, (Except.ok.inj h).symm⟩
  · cases h

/-- Artifact objects whose last values under the four keys agree say the same, whatever else stands
in them and in which order. The ABI is that of the last `abi` if it is an array, else that under the
last `compilerOutput`, and there is documentation if one of its sections comes last as a value that
is not null. Values that are written the same agree. -/
theorem read_decisive :
    (∀ (text text' : String) (ms ms' : Members) (a a' : Artifact),
      (Document.ofText text).tree = .object ms → (Document.ofText text').tree = .object ms' →
      (∀ key ∈ decisiveKeys, ms.last? key = ms'.last? key) →
      read text = .ok a → read text' = .ok a' →
      a = a' ∧ SaysItems ((abiArray? ms).or (compilerArray? ms)) a.abi ∧
        (a.documentation.isSome = true ↔
          ∃ key ∈ ["devdoc", "userdoc"], ∃ t, ms.last? key = some t ∧ t ≠ .null)) ∧
    ∀ (members members' : List MemberText) (a a' : Artifact),
      (∀ key ∈ decisiveKeys, MemberText.last? key members = MemberText.last? key members') →
      read (objectText members) = .ok a → read (objectText members') = .ok a' → a = a' := by
  constructor
  · intro text text' ms ms' a a' ht ht' hlast h h'
    obtain ⟨s, hs, rfl⟩ := readFrom_of_read ht h
    obtain ⟨s', hs', rfl⟩ := readFrom_of_read ht' h'
    refine ⟨congrArg ofSections (hs.unique hs' hlast), ?_, ?_⟩
    · exact (saysItems_abi hs.abi).or (saysItems_compilerAbi hs.compilerAbi)
    · have hdoc : (ofSections s).documentation.isSome = (s.devDoc.isSome || s.userDoc.isSome) :=
        isSome_merge? s.devDoc s.userDoc
      rw [hdoc, Bool.or_eq_true, isSome_of_lastRead hs.devDoc, isSome_of_lastRead hs.userDoc]
      simp only [List.mem_cons, List.not_mem_nil, or_false, exists_eq_or_imp, exists_eq_left]
  · intro members members' a a' hlast h h'
    have ht (ms : List MemberText) := congrArg Document.tree (Document.ofText_objectText ms)
    obtain ⟨s, hs, rfl⟩ := readFrom_of_read (ht members) h
    obtain ⟨s', hs', rfl⟩ := readFrom_of_read (ht members') h'
    refine congrArg ofSections (hs.unique hs' ?_)
    intro key hkey
    rw [last?_objectText, last?_objectText, hlast key hkey]

theorem read_decisive_overridden :
    let compiled := "\x7b\"abi\":[\x7b\"type\":\"event\",\"name\":\"Moved\"\x7d]\x7d"
    let notice := "\x7b\"notice\":\"A token.\"\x7d"
    let text := "\x7b\"abi\":[\x7b\"type\":\"function\",\"name\":\"move\"\x7d]," ++
      "\"devdoc\":\x7b\"methods\":\x7b\"move()\":\x7b\"details\":\"Moves.\"\x7d\x7d\x7d," ++
      "\"compilerOutput\":" ++ compiled ++ ",\"userdoc\":" ++ notice ++
      ",\"abi\":2,\"devdoc\":null\x7d"
    let text' := "\x7b\"userdoc\":" ++ notice ++ ",\"devdoc\":null,\"gas\":0,\"abi\":2," ++
      "\"compilerOutput\":" ++ compiled ++ "\x7d"
    ∃ a, read text = .ok a ∧ read text' = .ok a ∧
      a.abi = some [{ type := "event", name := "Moved" }] ∧
      a.documentation = some { notice := some "A token." } := by
  intro compiled notice text text'
  let items : MemberText := ⟨"abi", "\"abi\"",
    "[\x7b\"type\":\"function\",\"name\":\"move\"\x7d]", by decide +kernel, by decide +kernel⟩
  let details : MemberText := ⟨"devdoc", "\"devdoc\"",
    "\x7b\"methods\":\x7b\"move()\":\x7b\"details\":\"Moves.\"\x7d\x7d\x7d",
    by decide +kernel, by decide +kernel⟩
  let output : MemberText :=
    ⟨"compilerOutput", "\"compilerOutput\"", compiled, by decide +kernel, by decide +kernel⟩
  let users : MemberText := ⟨"userdoc", "\"userdoc\"", notice, by decide +kernel, by decide +kernel⟩
  let two : MemberText := ⟨"abi", "\"abi\"", "2", by decide +kernel, by decide +kernel⟩
  let null : MemberText := ⟨"devdoc", "\"devdoc\"", "null", by decide +kernel, by decide +kernel⟩
  let gas : MemberText := ⟨"gas", "\"gas\"", "0", by decide +kernel, by decide +kernel⟩
  have ht : (Document.ofText text).tree = .object (.ofList
      ([items, details, output, users, two, null].map fun m => (m.key, m.tree))) := by
    have htext : text = objectText [items, details, output, users, two, null] := by decide +kernel
    rw [htext, Document.ofText_objectText]
  have ht' : (Document.ofText text').tree = .object (.ofList
      ([users, null, gas, two, output].map fun m => (m.key, m.tree))) := by
    have htext : text' = objectText [users, null, gas, two, output] := by decide +kernel
    rw [htext, Document.ofText_objectText]
  have hlast : ∀ key ∈ decisiveKeys,
      MemberText.last? key [items, details, output, users, two, null] =
        MemberText.last? key [users, null, gas, two, output] := by
    decide +kernel
  have hread : (read text).toOption = some ⟨some [{ type := "event", name := "Moved" }],
      some { notice := some "A token." }⟩ := by
    decide +kernel
  obtain ⟨a, ha⟩ := exists_value (Option.isSome_of_eq_some hread)
  obtain ⟨a', ha'⟩ := exists_value (by decide +kernel : (read text').toOption.isSome = true)
  obtain ⟨rfl, -, -⟩ := read_decisive.1 _ _ _ _ _ _ ht ht'
    (fun key hkey => by rw [last?_objectText, last?_objectText, hlast key hkey]) ha ha'
  rw [ha] at hread
  obtain rfl := Option.some.inj hread
  exact ⟨_, ha, ha', rfl, rfl⟩

end Artifact

end ContractTypings
