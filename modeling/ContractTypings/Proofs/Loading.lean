import ContractTypings.Json.Tree
import ContractTypings.Json.Value

namespace ContractTypings

namespace Dictionary

variable {α : Type} {key : String} {entries : List (String × α)}

theorem insertSorted_perm (key : String) (value : α) (h : entries.Pairwise (·.1 < ·.1)) :
    (insertSorted key value entries).Perm
      ((key, value) :: entries.filter fun e => e.1 != key) := by
  induction entries with
  | nil => exact .refl _
  | cons e entries ih =>
    obtain ⟨k, v⟩ := e
    obtain ⟨hk, hs⟩ := List.pairwise_cons.mp h
    have hkeep : ∀ {l : List (String × α)}, (∀ e ∈ l, key < e.1) →
        l.filter (fun e => e.1 != key) = l := by
      intro l hl
      apply List.filter_eq_self.mpr
      intro e he
      simpa using (Ne.symm (String.ne_of_lt (hl e he)))
    rw [insertSorted]
    split
    next hlt =>
      have hall : ∀ e ∈ (k, v) :: entries, key < e.1 := by
        intro e he
        rcases List.mem_cons.mp he with rfl | he
        · exact hlt
        · exact String.lt_trans hlt (hk e he)
      rw [hkeep hall]
    next =>
      split
      next heq =>
        subst heq
        rw [List.filter_cons_of_neg (by simp), hkeep hk]
      next hne =>
        have hfilter : ((k, v) :: entries).filter (fun e => e.1 != key) =
            (k, v) :: entries.filter fun e => e.1 != key :=
          List.filter_cons_of_pos (by simpa using Ne.symm hne)
        rw [hfilter]
        exact ((ih hs).cons _).trans (.swap _ _ _)

variable {p : String → Bool} {d : Dictionary α}

theorem filter_insert_perm_of_neg (value : α) (h : p key = false) :
    ((d.insert key value).entries.filter fun e => p e.1).Perm
      (d.entries.filter fun e => p e.1) := by
  have hperm := (insertSorted_perm key value d.sorted).filter fun e => p e.1
  rw [List.filter_cons_of_neg (by simp [h]), List.filter_filter] at hperm
  have hsame : (d.entries.filter fun e => p e.1 && e.1 != key) =
      d.entries.filter fun e => p e.1 := by
    apply List.filter_congr
    intro e _
    by_cases he : e.1 = key
    · rw [he, h, Bool.false_and]
    · simp [he]
  exact hsame ▸ hperm

theorem filter_insert_perm_of_pos (value : α) (h : p key = true) (hk : ∀ e ∈ d.entries, e.1 ≠ key) :
    ((d.insert key value).entries.filter fun e => p e.1).Perm
      ((key, value) :: d.entries.filter fun e => p e.1) := by
  have hperm := (insertSorted_perm key value d.sorted).filter fun e => p e.1
  have hsame : (d.entries.filter fun e => e.1 != key) = d.entries :=
    List.filter_eq_self.mpr fun e he => by simpa using hk e he
  rw [hsame, List.filter_cons_of_pos (by simp [h])] at hperm
  exact hperm

theorem filter_foldl_insert_perm {L : List (String × α)}
    (hL : ((L.filter fun e => p e.1).map Prod.fst).Nodup)
    (hd : ∀ m ∈ L, p m.1 = true → ∀ e ∈ d.entries, e.1 ≠ m.1) :
    ((L.foldl (fun d m => d.insert m.1 m.2) d).entries.filter fun e => p e.1).Perm
      ((L.filter fun e => p e.1) ++ d.entries.filter fun e => p e.1) := by
  induction L generalizing d with
  | nil => exact .refl _
  | cons m L ih =>
    obtain ⟨key, value⟩ := m
    have hrest : ∀ {c : String}, c ≠ key → (∀ e ∈ d.entries, e.1 ≠ c) →
        ∀ e ∈ (d.insert key value).entries, e.1 ≠ c := by
      intro c hc hcd e he
      rcases mem_insertSorted he with rfl | he
      · exact hc.symm
      · exact hcd e he
    have htail := fun m hm => hd m (List.mem_cons_of_mem _ hm)
    rw [List.foldl_cons]
    cases h : p key with
    | false =>
      rw [List.filter_cons_of_neg (by simp [h])] at hL ⊢
      refine (ih hL ?_).trans ((filter_insert_perm_of_neg value h).append_left _)
      intro m hm hp
      refine hrest ?_ (htail m hm hp)
      rintro rfl
      rw [h] at hp
      cases hp
    | true =>
      rw [List.filter_cons_of_pos (by simp [h])] at hL ⊢
      obtain ⟨hkey, hL⟩ := List.nodup_cons.mp hL
      have hhead := filter_insert_perm_of_pos value h (hd _ List.mem_cons_self h)
      refine (ih hL ?_).trans ((hhead.append_left _).trans List.perm_middle)
      intro m hm hp
      refine hrest ?_ (htail m hm hp)
      rintro rfl
      exact hkey (List.mem_map.mpr ⟨m, List.mem_filter.mpr ⟨hm, hp⟩, rfl⟩)

end Dictionary

namespace Json

def Elements.ofList : List Tree → Elements
  | [] => .closed
  | t :: ts => .cons t (ofList ts)

def Members.ofList : List (String × Tree) → Members
  | [] => .closed
  | (key, t) :: ms => .cons (some key) t (ofList ms)

theorem elementTrees_eq (vs : List Value) : elementTrees vs = .ofList (vs.map Value.tree) := by
  induction vs with
  | nil => simp [elementTrees, Elements.ofList]
  | cons v vs ih => simp [elementTrees, Elements.ofList, ih]

theorem memberTrees_eq (ms : List (String × Value)) :
    memberTrees ms = .ofList (ms.map fun m => (m.1, m.2.tree)) := by
  induction ms with
  | nil => simp [memberTrees, Members.ofList]
  | cons m ms ih =>
    obtain ⟨key, v⟩ := m
    simp [memberTrees, Members.ofList, ih]

theorem keys_ofList (ms : List (String × Tree)) : (Members.ofList ms).keys = ms.map Prod.fst := by
  induction ms with
  | nil => rfl
  | cons m ms ih =>
    obtain ⟨key, t⟩ := m
    rw [Members.ofList, Members.keys, ih, List.map_cons]

theorem haveDistinctKeys_elements {ts : List Tree} :
    (Elements.ofList ts).haveDistinctKeys = ts.all Tree.hasDistinctKeys := by
  induction ts with
  | nil => rfl
  | cons t ts ih => rw [Elements.ofList, Elements.haveDistinctKeys, ih, List.all_cons]

theorem haveDistinctKeys_members {ms : List (String × Tree)} :
    (Members.ofList ms).haveDistinctKeys = ms.all fun m => m.2.hasDistinctKeys := by
  induction ms with
  | nil => rfl
  | cons m ms ih =>
    obtain ⟨key, t⟩ := m
    rw [Members.ofList, Members.haveDistinctKeys, ih, List.all_cons]

mutual

theorem Tree.load?_succ {room : Nat} : (t : Tree) → {v : Value} → t.load? room = some v →
    t.load? (room + 1) = some v
  | .null, _, h => h
  | .bool _, _, h => h
  | .number _, _, h => h
  | .string _, _, h => h
  | .array es, _, h => by
    match room with
    | 0 => cases h
    | room + 1 =>
      obtain ⟨vs, hvs, hv⟩ := Option.map_eq_some_iff.mp h
      rw [Tree.load?, es.load?_succ hvs, Option.map_some, hv]
  | .object ms, _, h => by
    match room with
    | 0 => cases h
    | room + 1 =>
      obtain ⟨d, hd, hv⟩ := Option.map_eq_some_iff.mp h
      rw [Tree.load?, ms.load?_succ hd, Option.map_some, hv]
  | .broken, _, h => h

theorem Elements.load?_succ {room : Nat} : (es : Elements) → {vs : List Value} →
    es.load? room = some vs → es.load? (room + 1) = some vs
  | .closed, _, h => h
  | .cut, _, h => h
  | .cons t es, _, h => by
    obtain ⟨v, hv, h⟩ := Option.bind_eq_some_iff.mp h
    obtain ⟨vs, hvs, h⟩ := Option.bind_eq_some_iff.mp h
    rw [Elements.load?, t.load?_succ hv, es.load?_succ hvs]
    exact h

theorem Members.load?_succ {room : Nat} : (ms : Members) → {d d' : Dictionary Value} →
    ms.load? room d = some d' → ms.load? (room + 1) d = some d'
  | .closed, _, _, h => h
  | .cut, _, _, h => h
  | .cons key t ms, _, _, h => by
    obtain ⟨key, rfl, h⟩ := Option.bind_eq_some_iff.mp h
    obtain ⟨v, hv, h⟩ := Option.bind_eq_some_iff.mp h
    rw [Members.load?, t.load?_succ hv]
    exact ms.load?_succ h

end

mutual

theorem Tree.isWhole_of_load? {room : Nat} : (t : Tree) → {v : Value} → t.load? room = some v →
    t.isWhole = true
  | .null, _, _ => rfl
  | .bool _, _, _ => rfl
  | .number _, _, _ => rfl
  | .string _, _, _ => rfl
  | .array es, _, h => by
    match room with
    | 0 => cases h
    | room + 1 =>
      obtain ⟨vs, hvs, -⟩ := Option.map_eq_some_iff.mp h
      exact es.isWhole_of_load? hvs
  | .object ms, _, h => by
    match room with
    | 0 => cases h
    | room + 1 =>
      obtain ⟨d, hd, -⟩ := Option.map_eq_some_iff.mp h
      exact ms.isWhole_of_load? hd
  | .broken, _, h => by cases h

theorem Elements.isWhole_of_load? {room : Nat} : (es : Elements) → {vs : List Value} →
    es.load? room = some vs → es.isWhole = true
  | .closed, _, _ => rfl
  | .cut, _, h => by cases h
  | .cons t es, _, h => by
    obtain ⟨v, hv, h⟩ := Option.bind_eq_some_iff.mp h
    obtain ⟨vs, hvs, -⟩ := Option.bind_eq_some_iff.mp h
    rw [Elements.isWhole, t.isWhole_of_load? hv, es.isWhole_of_load? hvs, Bool.and_self]

theorem Members.isWhole_of_load? {room : Nat} : (ms : Members) → {d d' : Dictionary Value} →
    ms.load? room d = some d' → ms.isWhole = true
  | .closed, _, _, _ => rfl
  | .cut, _, _, h => by cases h
  | .cons key t ms, _, _, h => by
    obtain ⟨key, rfl, h⟩ := Option.bind_eq_some_iff.mp h
    obtain ⟨v, hv, h⟩ := Option.bind_eq_some_iff.mp h
    rw [Members.isWhole, t.isWhole_of_load? hv, ms.isWhole_of_load? h, Bool.and_self]

end

structure LoadedElement where
  tree : Tree
  value : Value

theorem Elements.load?_eq_some {room : Nat} : (es : Elements) → {vs : List Value} →
    es.load? room = some vs → ∃ loaded : List LoadedElement,
      es = .ofList (loaded.map (·.tree)) ∧ vs = loaded.map (·.value) ∧
        ∀ e ∈ loaded, e.tree.load? room = some e.value
  | .closed, _, h => ⟨[], rfl, (Option.some.inj h).symm, fun _ he => nomatch he⟩
  | .cut, _, h => by cases h
  | .cons t es, _, h => by
    obtain ⟨v, hv, h⟩ := Option.bind_eq_some_iff.mp h
    obtain ⟨vs, hvs, h⟩ := Option.bind_eq_some_iff.mp h
    obtain ⟨loaded, rfl, rfl, hl⟩ := es.load?_eq_some hvs
    exact ⟨⟨t, v⟩ :: loaded, rfl, (Option.some.inj h).symm, List.forall_mem_cons.mpr ⟨hv, hl⟩⟩

structure LoadedMember where
  key : String
  tree : Tree
  value : Value

theorem Members.load?_eq_some {room : Nat} : (ms : Members) → {d d' : Dictionary Value} →
    ms.load? room d = some d' → ∃ loaded : List LoadedMember,
      ms = .ofList (loaded.map fun m => (m.key, m.tree)) ∧
        d' = (loaded.map fun m => (m.key, m.value)).foldl (fun d m => d.insert m.1 m.2) d ∧
        ∀ m ∈ loaded, m.tree.load? room = some m.value
  | .closed, _, _, h => ⟨[], rfl, (Option.some.inj h).symm, fun _ he => nomatch he⟩
  | .cut, _, _, h => by cases h
  | .cons key t ms, _, _, h => by
    obtain ⟨key, rfl, h⟩ := Option.bind_eq_some_iff.mp h
    obtain ⟨v, hv, h⟩ := Option.bind_eq_some_iff.mp h
    obtain ⟨loaded, rfl, rfl, hl⟩ := ms.load?_eq_some h
    exact ⟨⟨key, t, v⟩ :: loaded, rfl, rfl, List.forall_mem_cons.mpr ⟨hv, hl⟩⟩

end Json

end ContractTypings
