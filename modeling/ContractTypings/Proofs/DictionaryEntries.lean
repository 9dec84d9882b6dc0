import ContractTypings.Dictionary
import Mathlib.Data.List.Nodup
import Mathlib.Data.List.Perm.Basic

namespace ContractTypings

namespace Dictionary

variable {α β : Type} {d : Dictionary α}

theorem find?_insertSorted (k key : String) (value : α) (entries : List (String × α)) :
    (insertSorted key value entries).find? (·.1 == k) =
      if key = k then some (k, value) else entries.find? (·.1 == k) := by
  induction entries with
  | nil =>
    by_cases h : key = k
    · simp [insertSorted, h]
    · simp [insertSorted, h]
  | cons e entries ih =>
    obtain ⟨k', v⟩ := e
    by_cases h : key = k
    · subst h
      rw [insertSorted]
      split
      · simp
      · split
        · simp
        next hne => simpa [Ne.symm hne] using ih
    · rw [insertSorted]
      split
      · simp [h]
      · split
        next heq => simp [← heq, h]
        · simp only [List.find?_cons, ih, if_neg h]

theorem get?_insert (d : Dictionary α) (key k : String) (value : α) :
    (d.insert key value).get? k = if key = k then some value else d.get? k := by
  rw [get?, insert, find?_insertSorted, get?]
  split
  · rfl
  · rfl

theorem find?_of_mem {entries : List (String × α)} (hs : entries.Pairwise (·.1 < ·.1))
    {e : String × α} (h : e ∈ entries) : entries.find? (·.1 == e.1) = some e := by
  induction entries with
  | nil => cases h
  | cons head entries ih =>
    obtain ⟨hlt, hs⟩ := List.pairwise_cons.mp hs
    rcases List.mem_cons.mp h with rfl | h
    · simp
    · have hne : head.1 ≠ e.1 := String.ne_of_lt (hlt e h)
      rw [List.find?_cons, beq_false_of_ne hne, ih hs h]

theorem mem_entries_iff {e : String × α} : e ∈ d.entries ↔ d.get? e.1 = some e.2 := by
  constructor
  · intro h
    rw [get?, find?_of_mem d.sorted h]
    rfl
  · intro h
    obtain ⟨⟨k, a⟩, hf, ha⟩ := Option.map_eq_some_iff.mp h
    have hk : k = e.1 := by simpa using List.find?_some hf
    have he : (k, a) = e := Prod.ext hk ha
    exact he ▸ List.mem_of_find?_eq_some hf

theorem nodup_entries (d : Dictionary α) : d.entries.Nodup := by
  apply d.sorted.imp
  rintro e _ h rfl
  exact String.lt_irrefl e.1 h

theorem get?_foldl {step : Dictionary β → String × α → Dictionary β}
    (value : Option β → α → β)
    (hstep : ∀ m e k, (step m e).get? k = if e.1 = k then some (value (m.get? k) e.2) else m.get? k)
    (d : Dictionary α) (m : Dictionary β) (k : String) :
    (d.entries.foldl step m).get? k =
      (d.get? k).elim (m.get? k) fun a => some (value (m.get? k) a) := by
  obtain ⟨entries, hs⟩ := d
  induction entries generalizing m with
  | nil => rfl
  | cons e entries ih =>
    obtain ⟨hlt, hs⟩ := List.pairwise_cons.mp hs
    rw [List.foldl_cons, ih _ hs, hstep]
    by_cases he : e.1 = k
    · have hnone : (Dictionary.mk entries hs).get? k = none := by
        rw [get?, Option.map_eq_none_iff, List.find?_eq_none]
        intro e' he' hk
        exact String.lt_irrefl k (by simpa [he, eq_of_beq hk] using hlt e' he')
      have hsome : (Dictionary.mk (e :: entries) ‹_›).get? k = some e.2 := by
        simp [get?, he]
      rw [hnone, hsome, if_pos he]
      rfl
    · have hrest : (Dictionary.mk (e :: entries) ‹_›).get? k =
          (Dictionary.mk entries hs).get? k := by
        simp [get?, he]
      rw [hrest, if_neg he]

def entriesUnder (d : Dictionary α) (keys : List String) : List (String × α) :=
  keys.filterMap fun k => (d.get? k).map (k, ·)

theorem entriesUnder_append (d : Dictionary α) (ks ls : List String) :
    d.entriesUnder (ks ++ ls) = d.entriesUnder ks ++ d.entriesUnder ls :=
  List.filterMap_append

theorem keys_entriesUnder (d : Dictionary α) (keys : List String) :
    ((d.entriesUnder keys).map Prod.fst).Sublist keys := by
  induction keys with
  | nil => exact List.Sublist.refl _
  | cons k keys ih =>
    rw [entriesUnder, List.filterMap_cons]
    cases d.get? k with
    | none => exact ih.cons k
    | some a => exact ih.cons_cons k

theorem mem_entriesUnder {keys : List String} {e : String × α} :
    e ∈ d.entriesUnder keys ↔ e ∈ d.entries ∧ e.1 ∈ keys := by
  rw [entriesUnder, List.mem_filterMap, mem_entries_iff]
  constructor
  · rintro ⟨k, hk, he⟩
    obtain ⟨a, ha, rfl⟩ := Option.map_eq_some_iff.mp he
    exact ⟨ha, hk⟩
  · rintro ⟨he, hk⟩
    exact ⟨e.1, hk, by rw [he]; rfl⟩

theorem entriesUnder_filter_keys (d : Dictionary α) (p : String → Bool) :
    d.entriesUnder (d.keys.filter p) = d.entries.filter fun e => p e.1 := by
  have hsome : ∀ e ∈ d.entries.filter fun e => p e.1,
      (d.get? e.1).map (e.1, ·) = some e := by
    intro e he
    rw [mem_entries_iff.mp (List.mem_of_mem_filter he)]
    rfl
  rw [entriesUnder, keys, List.filter_map, List.filterMap_map]
  calc ((d.entries.filter fun e => p e.1).filterMap fun e => (d.get? e.1).map (e.1, ·))
    _ = (d.entries.filter fun e => p e.1).filterMap some := List.filterMap_congr hsome
    _ = d.entries.filter fun e => p e.1 := List.filterMap_some

structure IsArranged (names : List String) (d : Dictionary α) (entries : List (String × α)) :
    Prop where
  perm : entries.Perm d.entries
  parts : ∃ first rest, entries = first ++ rest ∧ (first.map Prod.fst).Sublist names ∧
    rest.Sublist d.entries ∧ ∀ e ∈ rest, e.1 ∉ names

theorem isArranged_entriesUnder {names : List String} (hn : names.Nodup) (d : Dictionary α) :
    IsArranged names d (d.entriesUnder (names ++ d.keys.filter fun k => !names.contains k)) := by
  have hrest : d.entriesUnder (d.keys.filter fun k => !names.contains k) =
      d.entries.filter fun e => !names.contains e.1 := entriesUnder_filter_keys d _
  rw [entriesUnder_append, hrest]
  constructor
  · have hfirst : (d.entriesUnder names).Nodup := (hn.sublist (keys_entriesUnder d names)).of_map
    have hdisjoint : (d.entriesUnder names).Disjoint
        (d.entries.filter fun e => !names.contains e.1) := by
      intro e he he'
      have hmem := (mem_entriesUnder.mp he).2
      have hnot := (List.mem_filter.mp he').2
      simp [hmem] at hnot
    rw [List.perm_ext_iff_of_nodup (hfirst.append (d.nodup_entries.filter _) hdisjoint)
      d.nodup_entries]
    intro e
    rw [List.mem_append, mem_entriesUnder, List.mem_filter]
    by_cases hmem : e.1 ∈ names <;> simp [hmem]
  · refine ⟨_, _, rfl, keys_entriesUnder d names, List.filter_sublist, ?_⟩
    intro e he
    simpa using (List.mem_filter.mp he).2

end Dictionary

end ContractTypings
