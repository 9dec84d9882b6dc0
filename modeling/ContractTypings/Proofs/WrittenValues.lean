import ContractTypings.Abi.Json
import ContractTypings.Proofs.FaithfulDecoding
import ContractTypings.Proofs.WrittenText

namespace ContractTypings

namespace Json.Value

theorem elementsNesting_le {vs : List Value} {room : Nat} :
    elementsNesting vs ≤ room ↔ ∀ v ∈ vs, v.nesting ≤ room := by
  induction vs with
  | nil => simp [elementsNesting]
  | cons v vs ih => rw [elementsNesting, Nat.max_le, ih, List.forall_mem_cons]

theorem membersNesting_le {ms : List (String × Value)} {room : Nat} :
    membersNesting ms ≤ room ↔ ∀ m ∈ ms, m.2.nesting ≤ room := by
  induction ms with
  | nil => simp [membersNesting]
  | cons m ms ih =>
    obtain ⟨key, v⟩ := m
    rw [membersNesting, Nat.max_le, ih, List.forall_mem_cons]

theorem exists_room_of_array {vs : List Value} {room : Nat} (h : nesting (.array vs) ≤ room) :
    ∃ r, room = r + 1 ∧ ∀ v ∈ vs, v.nesting ≤ r := by
  rw [nesting] at h
  cases room with
  | zero => cases h
  | succ r => exact ⟨r, rfl, elementsNesting_le.mp (Nat.le_of_succ_le_succ h)⟩

theorem exists_room_of_object {ms : List (String × Value)} {room : Nat}
    (h : nesting (.object ms) ≤ room) : ∃ r, room = r + 1 ∧ ∀ m ∈ ms, m.2.nesting ≤ r := by
  rw [nesting] at h
  cases room with
  | zero => cases h
  | succ r => exact ⟨r, rfl, membersNesting_le.mp (Nat.le_of_succ_le_succ h)⟩

end Json.Value

theorem Dictionary.insertSorted_of_lt {α : Type} {key : String} {value : α}
    {entries : List (String × α)} (h : ∀ e ∈ entries, e.1 < key) :
    insertSorted key value entries = entries ++ [(key, value)] := by
  induction entries with
  | nil => rfl
  | cons e entries ih =>
    obtain ⟨k, v⟩ := e
    obtain ⟨hk, hs⟩ := List.forall_mem_cons.mp h
    have hlt : ¬ key < k := fun hlt => String.lt_irrefl _ (String.lt_trans hlt hk)
    have hne : key ≠ k := (String.ne_of_lt hk).symm
    rw [insertSorted, if_neg hlt, if_neg hne, ih hs, List.cons_append]

namespace Json.Decoder

open Abi

variable {α β : Type} {d : Decoder β} {v : Value} {a b c : α} {slots : List (Slot α)}
  {ms : List (String × Value)} {source : Source} {room : Nat}

structure ReadsBack (d : Decoder α) (v : Value) (a : α) : Prop where
  isRead : v.IsRead
  read : ∀ source room, v.nesting ≤ room → d source room v.tree = .ok a

theorem ReadsBack.run {d : Decoder α} (h : ReadsBack d v a) (hn : v.nesting ≤ maxNesting) :
    d.run v.text = .ok a := by
  rw [run_of_ended h.isRead.ofText]
  exact h.read .text maxNesting hn

theorem readsBack_string (s : String) : ReadsBack string (.string s) s where
  isRead := Value.isRead_string s
  read source room _ := by rw [Value.tree, string]

theorem readsBack_bool (x : Bool) : ReadsBack bool (.bool x) x where
  isRead := Value.isRead_bool x
  read source room _ := by rw [Value.tree, bool]

theorem ReadsBack.optional {x : β} (h : ReadsBack d v x) (hv : v.tree ≠ .null) :
    ReadsBack (optional d) v (some x) where
  isRead := h.isRead
  read source room hn := by
    rw [optional_of_ne_null hv, h.read source room hn]
    rfl

theorem ReadsBack.list {value : β → Value} {bs : List β} (h : ∀ x ∈ bs, ReadsBack d (value x) x) :
    ReadsBack (list d) (.array (bs.map value)) bs where
  isRead := by
    apply Value.isRead_array
    intro v hv
    obtain ⟨x, hx, rfl⟩ := List.mem_map.mp hv
    exact (h x hx).isRead
  read source room hn := by
    obtain ⟨r, rfl, hroom⟩ := Value.exists_room_of_array hn
    clear hn
    rw [Value.tree]
    change elements (d source r) _ = .ok bs
    induction bs with
    | nil => rw [List.map_nil, elementTrees, elements]
    | cons x bs ih =>
      obtain ⟨hx, hbs⟩ := List.forall_mem_cons.mp h
      obtain ⟨hroomx, hroom⟩ := List.forall_mem_cons.mp hroom
      rw [List.map_cons, elementTrees, elements, hx.read source r hroomx, ih hbs hroom]
      rfl

theorem entries_of_sorted {read : Tree → Except Fault β} {value : β → Value}
    {es : List (String × β)} (h : ∀ e ∈ es, read (value e.2).tree = .ok e.2) {D : Dictionary β}
    (hs : (D.entries ++ es).Pairwise (·.1 < ·.1)) :
    entries read (memberTrees (es.map fun e => (e.1, value e.2))) D =
      .ok ⟨D.entries ++ es, hs⟩ := by
  induction es generalizing D with
  | nil =>
    obtain ⟨entries, hentries⟩ := D
    rw [List.map_nil, memberTrees, Decoder.entries]
    congr 2
    exact (List.append_nil entries).symm
  | cons e es ih =>
    obtain ⟨he, hes⟩ := List.forall_mem_cons.mp h
    have hlt : ∀ e' ∈ D.entries, e'.1 < e.1 :=
      fun e' he' => (List.pairwise_append.mp hs).2.2 e' he' e List.mem_cons_self
    have hinsert : (D.insert e.1 e.2).entries = D.entries ++ [e] :=
      Dictionary.insertSorted_of_lt hlt
    have hs' : ((D.insert e.1 e.2).entries ++ es).Pairwise (·.1 < ·.1) := by
      rw [hinsert, List.append_assoc]
      exact hs
    rw [List.map_cons, memberTrees, entries, he]
    change entries read _ (D.insert e.1 e.2) = _
    rw [ih hes hs']
    congr 2
    rw [hinsert, List.append_assoc]
    rfl

theorem ReadsBack.dictionary {value : β → Value} {D : Dictionary β}
    (h : ∀ e ∈ D.entries, ReadsBack d (value e.2) e.2) :
    ReadsBack (dictionary d) (.object (D.entries.map fun e => (e.1, value e.2))) D where
  isRead := by
    apply Value.isRead_object
    intro m hm
    obtain ⟨e, he, rfl⟩ := List.mem_map.mp hm
    exact (h e he).isRead
  read source room hn := by
    obtain ⟨r, rfl, hroom⟩ := Value.exists_room_of_object hn
    rw [Value.tree]
    apply entries_of_sorted (D := ∅)
    intro e he
    exact (h e he).read source r (hroom _ (List.mem_map_of_mem (f := fun e => (e.1, value e.2)) he))

/-- The members that the fields of a record are written under, and what the record is before and
after they are read; a field that may be left out keeps its value. -/
inductive Writes : List (Slot α) → α → List (String × Value) → α → Prop
  | nil {a : α} : Writes [] a [] a
  | skip {s : Slot α} {slots : List (Slot α)} {a b : α} {ms : List (String × Value)}
      (hs : s.required = false) (h : Writes slots a ms b) : Writes (s :: slots) a ms b
  | put {s : Slot α} {slots : List (Slot α)} {a b c : α} {v : Value} {ms : List (String × Value)}
      (hv : ReadsBack (fun source room t => s.store source room t a) v b)
      (h : Writes slots b ms c) : Writes (s :: slots) a ((s.key, v) :: ms) c

namespace Writes

theorem keys_sublist (h : Writes slots a ms b) :
    (ms.map Prod.fst).Sublist (slots.map Slot.key) := by
  induction h with
  | nil => exact .slnil
  | skip _ _ ih => exact ih.cons _
  | put _ _ ih => exact ih.cons_cons _

theorem complete (h : Writes slots a ms b) :
    ∀ s ∈ slots, s.required = true → s.key ∈ ms.map Prod.fst := by
  induction h with
  | nil => simp
  | skip hs _ ih =>
    intro s' hs' hr
    rcases List.mem_cons.mp hs' with rfl | hs'
    · rw [hs] at hr
      cases hr
    · exact ih s' hs' hr
  | put _ _ ih =>
    intro s' hs' hr
    rcases List.mem_cons.mp hs' with rfl | hs'
    · exact List.mem_cons_self
    · exact List.mem_cons_of_mem _ (ih s' hs' hr)

theorem isRead (h : Writes slots a ms b) : ∀ m ∈ ms, m.2.IsRead := by
  induction h with
  | nil => simp
  | skip _ _ ih => exact ih
  | put hv _ ih => exact List.forall_mem_cons.mpr ⟨hv.isRead, ih⟩

theorem storeAll (h : Writes slots a ms b) {all : List (Slot α)}
    (hall : ∀ s ∈ slots, all.find? (·.key == s.key) = some s) (hn : ∀ m ∈ ms, m.2.nesting ≤ room) :
    storeAll all source room (ms.map fun m => (m.1, m.2.tree)) a = .ok b := by
  induction h with
  | nil => rfl
  | skip _ _ ih => exact ih (List.forall_mem_cons.mp hall).2 hn
  | put hv _ ih =>
    obtain ⟨hs, hall⟩ := List.forall_mem_cons.mp hall
    obtain ⟨hm, hn⟩ := List.forall_mem_cons.mp hn
    rw [List.map_cons, Decoder.storeAll, hs]
    exact bind_eq_ok_iff.mpr ⟨_, hv.read source room hm, ih hall hn⟩

theorem slot {key : String} {put : β → α → α} {x : β} (hv : ReadsBack d v x)
    (h : Writes slots (put x a) ms c) :
    Writes (slot key d put :: slots) a ((key, v) :: ms) c := by
  apply Writes.put (s := Decoder.slot key d put) ⟨hv.isRead, ?_⟩ h
  intro source room hn
  exact map_eq_ok_iff.mpr ⟨x, hv.read source room hn, rfl⟩

theorem requiredSlot {key : String} {put : β → α → α} {x : β} (hv : ReadsBack d v x)
    (h : Writes slots (put x a) ms c) :
    Writes (requiredSlot key d put :: slots) a ((key, v) :: ms) c := by
  apply Writes.put (s := Decoder.requiredSlot key d put) ⟨hv.isRead, ?_⟩ h
  intro source room hn
  exact map_eq_ok_iff.mpr ⟨x, hv.read source room hn, rfl⟩

theorem member? {key : String} {put : Option β → α → α} {value : β → Value} {o : Option β}
    (hv : ∀ x, ReadsBack (optional d) (value x) (some x)) (ha : put none a = a)
    (h : Writes slots (put o a) ms c) :
    Writes (Decoder.slot key (optional d) put :: slots) a (member? key value o ++ ms) c := by
  cases o with
  | none =>
    rw [ha] at h
    exact Writes.skip rfl h
  | some x => exact slot (hv x) h

end Writes

theorem find?_key (hk : (slots.map Slot.key).Nodup) :
    ∀ s ∈ slots, slots.find? (·.key == s.key) = some s := by
  induction slots with
  | nil => simp
  | cons s slots ih =>
    obtain ⟨hs, hk⟩ := List.nodup_cons.mp hk
    intro s' hs'
    rcases List.mem_cons.mp hs' with rfl | hs'
    · exact List.find?_cons_of_pos (beq_self_eq_true s'.key)
    · have hne : ¬ (s.key == s'.key) = true := by
        rw [beq_iff_eq]
        intro he
        exact hs (he ▸ List.mem_map_of_mem hs')
      rw [List.find?_cons_of_neg (by exact hne), ih hk s' hs']

theorem Writes.readsBack {name : String} (h : Writes slots a ms b)
    (hk : (slots.map Slot.key).Nodup) : ReadsBack (record name a slots) (.object ms) b where
  isRead := Value.isRead_object h.isRead
  read source room hn := by
    obtain ⟨r, rfl, hroom⟩ := Value.exists_room_of_object hn
    have hfind := find?_key hk
    have hknown : ∀ key ∈ ms.map Prod.fst, isKnown slots key = true := by
      intro key hm
      obtain ⟨s, hs, rfl⟩ := List.mem_map.mp (h.keys_sublist.subset hm)
      rw [isKnown, hfind s hs]
      rfl
    have hkeys : knownKeys slots (ms.map fun m => (m.1, m.2.tree)) = ms.map Prod.fst := by
      rw [knownKeys_eq, List.map_map]
      exact List.filter_eq_self.mpr hknown
    rw [Value.tree, memberTrees_eq]
    apply fields_ofList_eq_ok_iff.mpr
    refine ⟨⟨?_, ?_, fun _ _ => List.not_mem_nil, ?_⟩, h.storeAll hfind hroom⟩
    · intro m hm hf
      obtain ⟨m', hm', rfl⟩ := List.mem_map.mp hm
      rw [hknown m'.1 (List.mem_map_of_mem hm')] at hf
      cases hf
    · rw [hkeys]
      exact h.keys_sublist.nodup hk
    · intro s hs hr
      rw [hkeys]
      exact Or.inr (h.complete s hs hr)

end Json.Decoder

end ContractTypings
