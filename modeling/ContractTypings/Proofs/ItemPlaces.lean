import ContractTypings.Proofs.Acceptance
import ContractTypings.Proofs.Declarations
import Mathlib.Data.Finset.Card

namespace ContractTypings

section

variable {α : Type}

theorem pairwise_idxOf_eraseDups [DecidableEq α] (as : List α) :
    as.eraseDups.Pairwise fun a b => as.idxOf a < as.idxOf b := by
  induction as using List.reverseRecOn with
  | nil => exact List.Pairwise.nil
  | append_singleton as a ih =>
    have hbefore : as.eraseDups.Pairwise fun b c => (as ++ [a]).idxOf b < (as ++ [a]).idxOf c := by
      apply List.Pairwise.imp_of_mem _ ih
      intro b c hb hc h
      rwa [List.idxOf_append_of_mem (List.mem_eraseDups.mp hb),
        List.idxOf_append_of_mem (List.mem_eraseDups.mp hc)]
    rw [eraseDups_concat]
    split
    · exact hbefore
    next ha =>
      apply List.pairwise_append.mpr
      refine ⟨hbefore, List.pairwise_singleton _ _, ?_⟩
      intro b hb c hc
      obtain rfl := List.mem_singleton.mp hc
      have hb := List.mem_eraseDups.mp hb
      rw [List.idxOf_append_of_mem hb, List.idxOf_append_of_notMem ha]
      exact Nat.lt_add_right _ (List.idxOf_lt_length_iff.mpr hb)

variable {p : α → Bool} {as : List α} {a b : α} {i j : ℕ}

theorem getElem?_filter_eq_some_iff : (as.filter p)[j]? = some a ↔
    ∃ i, as[i]? = some a ∧ p a = true ∧ (as.take i).countP p = j := by
  induction as generalizing j with
  | nil => simp
  | cons b as ih =>
    have htail : (∃ i, (b :: as)[i]? = some a ∧ p a = true ∧ ((b :: as).take i).countP p = j) ↔
        (b = a ∧ p a = true ∧ j = 0) ∨
          ∃ i, as[i]? = some a ∧ p a = true ∧ (b :: as.take i).countP p = j := by
      constructor
      · rintro ⟨i, hi, ha, hj⟩
        cases i with
        | zero => exact Or.inl ⟨Option.some.inj hi, ha, hj.symm⟩
        | succ i => exact Or.inr ⟨i, hi, ha, hj⟩
      · rintro (⟨rfl, ha, rfl⟩ | ⟨i, hi, ha, hj⟩)
        · exact ⟨0, rfl, ha, rfl⟩
        · exact ⟨i + 1, hi, ha, hj⟩
    rw [htail]
    by_cases hb : p b = true
    · rw [List.filter_cons_of_pos hb]
      simp only [List.countP_cons_of_pos hb]
      cases j with
      | zero => simp +contextual [← hb]
      | succ j => simp [ih]
    · rw [List.filter_cons_of_neg hb, ih]
      simp only [List.countP_cons_of_neg hb]
      have hne : ¬ (b = a ∧ p a = true ∧ j = 0) := by
        rintro ⟨rfl, ha, -⟩
        exact hb ha
      rw [or_iff_right hne]

theorem countP_take_lt (hi : as[i]? = some a) (ha : p a = true) (h : i < j) :
    (as.take i).countP p < (as.take j).countP p := by
  have hnext : (as.take (i + 1)).countP p = (as.take i).countP p + 1 := by
    simp [List.take_add_one, hi, ha]
  have hprefix := List.take_prefix_take_left (l := as) (Nat.succ_le_of_lt h)
  have hle := hprefix.sublist.countP_le (p := p)
  rw [← Nat.succ_le_iff, Nat.succ_eq_add_one, ← hnext]
  exact hle

theorem eq_of_countP_take (hi : as[i]? = some a) (hj : as[j]? = some b) (ha : p a = true)
    (hb : p b = true) (h : (as.take i).countP p = (as.take j).countP p) : i = j := by
  rcases Nat.lt_trichotomy i j with hlt | heq | hgt
  · exact absurd h (Nat.ne_of_lt (countP_take_lt hi ha hlt))
  · exact heq
  · exact absurd h.symm (Nat.ne_of_lt (countP_take_lt hj hb hgt))

end

namespace Overloads

variable {α : Type}

def at? (o : Overloads α) (name : String) (position : ℕ) : Option α :=
  (o.get? name).bind (·[position]?)

def numberBefore (items : List (String × α)) (name : String) (i : ℕ) : ℕ :=
  ((items.take i).map Prod.fst).count name

structure IsGrouped (items : List (String × α)) (o : Overloads α) : Prop where
  distinct : (o.groups.map Prod.fst).Nodup
  inOrder : (o.groups.map Prod.fst).Pairwise fun m n =>
    (items.map Prod.fst).idxOf m < (items.map Prod.fst).idxOf n
  nonempty : ∀ group ∈ o.groups, group.2 ≠ []
  get : ∀ name, o.get? name =
    if name ∈ items.map Prod.fst then some ((items.filter fun e => e.1 == name).map Prod.snd)
    else none
  size : o.size = (items.map Prod.fst).toFinset.card
  isEmpty : o.isEmpty = true ↔ items = []
  perm : o.items.Perm (items.map Prod.snd)
  placed : ∀ (i : ℕ) (name : String) (a : α), items[i]? = some (name, a) →
    o.at? name (numberBefore items name i) = some a
  filled : ∀ (name : String) (position : ℕ) (a : α), o.at? name position = some a →
    ∃! i, items[i]? = some (name, a) ∧ numberBefore items name i = position

section

variable (items : List (String × α))

theorem groups_eq : (ofList items).groups = (items.map Prod.fst).eraseDups.map fun name =>
    (name, (items.filter fun e => e.1 == name).map Prod.snd) := by
  have h := groups_ofList Prod.fst Prod.snd items
  rwa [List.map_id'' fun _ => rfl] at h

theorem names_groups : (ofList items).groups.map Prod.fst = (items.map Prod.fst).eraseDups := by
  rw [groups_eq, List.map_map]
  exact List.map_id _

theorem find?_beq_of_mem {names : List String} {name : String} (h : name ∈ names) :
    names.find? (· == name) = some name := by
  cases hf : names.find? (· == name) with
  | none => exact absurd (beq_self_eq_true name) (List.find?_eq_none.mp hf name h)
  | some n =>
    have hn : (n == name) = true := List.find?_some (p := (· == name)) hf
    rw [eq_of_beq hn]

theorem get?_ofList (name : String) : (ofList items).get? name =
    if name ∈ items.map Prod.fst then some ((items.filter fun e => e.1 == name).map Prod.snd)
    else none := by
  rw [get?, groups_eq, List.find?_map]
  split
  next h =>
    have hfind := find?_beq_of_mem (List.mem_eraseDups.mpr h)
    rw [Function.comp_def, hfind]
    rfl
  next h =>
    have hfind : (items.map Prod.fst).eraseDups.find? (· == name) = none := by
      apply List.find?_eq_none.mpr
      intro n hn he
      exact h (eq_of_beq he ▸ List.mem_eraseDups.mp hn)
    rw [Function.comp_def, hfind]
    rfl

variable {items} {name : String} {a : α} {i position : ℕ}

theorem at?_ofList_eq_some_iff : (ofList items).at? name position = some a ↔
    ∃ i, items[i]? = some (name, a) ∧ numberBefore items name i = position := by
  have hnumber (i : ℕ) :
      numberBefore items name i = (items.take i).countP fun e => e.1 == name := by
    rw [numberBefore, List.count, List.countP_map]
    rfl
  have hat : (ofList items).at? name position =
      ((items.filter fun e => e.1 == name).map Prod.snd)[position]? := by
    rw [at?, get?_ofList]
    split
    · rfl
    next h =>
      have hnone : items.filter (fun e => e.1 == name) = [] := by
        apply List.filter_eq_nil_iff.mpr
        intro e he hn
        exact h (List.mem_map.mpr ⟨e, he, eq_of_beq hn⟩)
      rw [hnone]
      rfl
  rw [hat, List.getElem?_map, Option.map_eq_some_iff]
  constructor
  · rintro ⟨⟨n, b⟩, he, rfl⟩
    obtain ⟨i, hi, hn, hp⟩ := getElem?_filter_eq_some_iff.mp he
    obtain rfl : n = name := eq_of_beq hn
    exact ⟨i, hi, (hnumber i).trans hp⟩
  · rintro ⟨i, hi, hp⟩
    exact ⟨(name, a), getElem?_filter_eq_some_iff.mpr
      ⟨i, hi, beq_self_eq_true name, (hnumber i).symm.trans hp⟩, rfl⟩

theorem eq_of_numberBefore {j : ℕ} {b : α} (hi : items[i]? = some (name, a))
    (hj : items[j]? = some (name, b)) (h : numberBefore items name i = numberBefore items name j) :
    i = j := by
  have hi : (items.map Prod.fst)[i]? = some name := by rw [List.getElem?_map, hi, Option.map_some]
  have hj : (items.map Prod.fst)[j]? = some name := by rw [List.getElem?_map, hj, Option.map_some]
  rw [numberBefore, numberBefore, List.map_take, List.map_take] at h
  have hn : (name == name) = true := beq_self_eq_true name
  exact eq_of_countP_take (p := (· == name)) hi hj hn hn h

end

theorem isGrouped_ofList (items : List (String × α)) : IsGrouped items (ofList items) where
  distinct := by
    rw [names_groups]
    exact nodup_eraseDups _
  inOrder := by
    rw [names_groups]
    exact pairwise_idxOf_eraseDups _
  nonempty := by
    intro group hg
    rw [groups_eq] at hg
    obtain ⟨name, hn, rfl⟩ := List.mem_map.mp hg
    obtain ⟨e, he, rfl⟩ := List.mem_map.mp (List.mem_eraseDups.mp hn)
    have hm : e ∈ items.filter fun d => d.1 == e.1 :=
      List.mem_filter.mpr ⟨he, beq_self_eq_true e.1⟩
    exact List.ne_nil_of_mem (List.mem_map_of_mem hm)
  get := get?_ofList items
  size := by
    have hsame : (items.map Prod.fst).toFinset = (items.map Prod.fst).eraseDups.toFinset := by
      ext name
      simp only [List.mem_toFinset, List.mem_eraseDups]
    rw [hsame, List.toFinset_card_of_nodup (nodup_eraseDups _), ← names_groups, List.length_map]
    rfl
  isEmpty := by
    rw [Overloads.isEmpty, List.isEmpty_iff, groups_eq, List.map_eq_nil_iff]
    cases items with
    | nil => simp
    | cons e items => simp [List.eraseDups_cons]
  perm := by
    have hitems := items_ofList Prod.fst Prod.snd items
    rw [List.map_id'' fun _ => rfl] at hitems
    rw [hitems]
    exact (grouped_perm Prod.fst items).map Prod.snd
  placed := by
    intro i name a hi
    exact at?_ofList_eq_some_iff.mpr ⟨i, hi, rfl⟩
  filled := by
    intro name position a h
    obtain ⟨i, hi, hp⟩ := at?_ofList_eq_some_iff.mp h
    refine ⟨i, ⟨hi, hp⟩, ?_⟩
    rintro j ⟨hj, hq⟩
    exact eq_of_numberBefore hj hi (hq.trans hp.symm)

end Overloads

namespace Contract

open Abi Natspec Overloads

def namedFunctions (docs : Option Documentation) (abi : Items) : List (String × Function) :=
  (itemsOfType "function" abi).map fun i => (i.nameOrEmpty, Function.ofItem docs i)

def namedEvents (abi : Items) : List (String × Event) :=
  (itemsOfType "event" abi).map fun i => (i.nameOrEmpty, Event.ofItem i)

/-- Grouping loses no item and moves none behind a later one of its name. An accepted contract
groups the functions of its ABI and the events, and nothing else in the ABI has a part in either. -/
theorem items_placed_by_name :
    (∀ (α : Type) (items : List (String × α)), IsGrouped items (ofList items)) ∧
    ∀ (abi : Items) (path : Path) (docs : Option Documentation) (c : Contract),
      ofAbi abi path docs = .ok c →
      IsGrouped (namedFunctions docs abi) c.functions ∧ IsGrouped (namedEvents abi) c.events ∧
      ∀ (abi' : Items) (path' : Path) (docs' : Option Documentation) (c' : Contract),
        ofAbi abi' path' docs' = .ok c' →
        (itemsOfType "function" abi' = itemsOfType "function" abi → docs' = docs →
          c'.functions = c.functions) ∧
        (itemsOfType "event" abi' = itemsOfType "event" abi → c'.events = c.events) := by
  refine ⟨fun α => isGrouped_ofList, ?_⟩
  intro abi path docs c h
  obtain ⟨_, _, -, -, rfl, -⟩ := ofAbi_eq_ok_iff.mp h
  refine ⟨isGrouped_ofList _, isGrouped_ofList _, ?_⟩
  intro abi' path' docs' c' h'
  obtain ⟨_, _, -, -, rfl, -⟩ := ofAbi_eq_ok_iff.mp h'
  constructor
  · rintro hf rfl
    simp only [functionsOf, hf]
  · intro he
    simp only [eventsOf, he]

theorem items_placed_by_name_token :
    let f : Item := { type := "function", name := some "f" }
    let g : Item := { type := "function", name := some "g" }
    let f' : Item := { type := "function", name := some "f", inputs := [{ type := "bool" }] }
    let abi : Items := [f, g, f']
    let abi' : Items := [f, { type := "event", name := some "E" }, g, { type := "constructor" }, f']
    ∃ c, ofAbi abi ⟨"Token.json"⟩ none = .ok c ∧
      c.functions.groups.map (fun group => (group.1, group.2.map Function.signature)) =
        [("f", ["f()", "f(bool)"]), ("g", ["g()"])] ∧
      IsGrouped (namedFunctions none abi) c.functions ∧
      itemsOfType "function" abi' = itemsOfType "function" abi ∧
      ∃ c', ofAbi abi' ⟨"vaults/Vault.json"⟩ none = .ok c' ∧
        IsGrouped (namedEvents abi') c'.events ∧ c'.functions = c.functions := by
  intro f g f' abi abi'
  have hsame : itemsOfType "function" abi' = itemsOfType "function" abi := by decide
  apply exists_ok_of_map
    (fun c => c.functions.groups.map fun group => (group.1, group.2.map Function.signature))
    [("f", ["f()", "f(bool)"]), ("g", ["g()"])] (by decide +kernel)
  intro c hc hgroups
  obtain ⟨hfunctions, -, hothers⟩ := items_placed_by_name.2 _ _ _ c hc
  refine ⟨hgroups, hfunctions, hsame, ?_⟩
  apply exists_ok_of_map Contract.name "Vault" (by decide +kernel)
  intro c' hc' _
  obtain ⟨-, hevents, -⟩ := items_placed_by_name.2 _ _ _ c' hc'
  exact ⟨hevents, (hothers _ _ _ c' hc').1 hsame rfl⟩

end Contract

end ContractTypings
