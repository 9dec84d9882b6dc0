import ContractTypings.Overloads
import Mathlib.Data.List.Induction
import Mathlib.Data.List.Nodup
import Mathlib.Data.List.Perm.Basic

namespace ContractTypings

section

variable {α : Type} [DecidableEq α]

theorem eraseDups_concat (as : List α) (a : α) :
    (as ++ [a]).eraseDups = if a ∈ as then as.eraseDups else as.eraseDups ++ [a] := by
  rw [List.eraseDups_append]
  by_cases h : a ∈ as
  · have hr : [a].removeAll as = [] := by simp [List.removeAll, h]
    rw [hr, if_pos h, List.eraseDups_nil, List.append_nil]
  · have hr : [a].removeAll as = [a] := by simp [List.removeAll, h]
    rw [hr, if_neg h]
    rfl

theorem nodup_eraseDups (as : List α) : as.eraseDups.Nodup := by
  induction as using List.reverseRecOn with
  | nil => simp
  | append_singleton as a ih =>
    rw [eraseDups_concat]
    split
    · exact ih
    next ha =>
      apply List.Nodup.append ih (List.nodup_singleton a)
      exact List.disjoint_singleton.mpr fun h => ha (List.mem_eraseDups.mp h)

end

namespace Overloads

variable {ι α : Type} (key : ι → String)

def namesOf (items : List ι) : List String := (items.map key).eraseDups

def named (name : String) (items : List ι) : List ι := items.filter fun i => key i == name

def grouped (items : List ι) : List ι :=
  (namesOf key items).flatMap fun name => named key name items

def isOverloaded (items : List ι) (i : ι) : Bool := decide (1 < (named key (key i) items).length)

theorem mem_namesOf {items : List ι} {name : String} :
    name ∈ namesOf key items ↔ ∃ i ∈ items, key i = name := by
  simp [namesOf]

theorem nodup_namesOf (items : List ι) : (namesOf key items).Nodup := nodup_eraseDups _

theorem mem_named {items : List ι} {name : String} {i : ι} :
    i ∈ named key name items ↔ i ∈ items ∧ key i = name := by
  simp [named]

theorem count_names (items : List ι) (name : String) :
    (items.map key).count name = (named key name items).length := by
  rw [List.count, List.countP_map, List.countP_eq_length_filter]
  rfl

theorem isOverloaded_iff {items : List ι} {i : ι} :
    isOverloaded key items i = true ↔ 1 < (items.map key).count (key i) := by
  rw [isOverloaded, decide_eq_true_eq, count_names]

theorem eq_of_not_isOverloaded {items : List ι} {i j : ι} (hi : i ∈ items) (hj : j ∈ items)
    (hk : key i = key j) (ho : isOverloaded key items i = false) : i = j := by
  have hlen : (named key (key i) items).length ≤ 1 := by simpa [isOverloaded] using ho
  have him : i ∈ named key (key i) items := (mem_named key).mpr ⟨hi, rfl⟩
  have hjm : j ∈ named key (key i) items := (mem_named key).mpr ⟨hj, hk.symm⟩
  match hn : named key (key i) items with
  | [] =>
    rw [hn] at him
    cases him
  | [k] =>
    rw [hn, List.mem_singleton] at him hjm
    rw [him, hjm]
  | k :: l :: rest =>
    rw [hn, List.length_cons, List.length_cons] at hlen
    omega

theorem named_append (name : String) (is js : List ι) :
    named key name (is ++ js) = named key name is ++ named key name js :=
  List.filter_append is js

theorem named_singleton (name : String) (i : ι) :
    named key name [i] = if key i = name then [i] else [] := by
  by_cases h : key i = name <;> simp [named, h]

theorem insertInto_map_of_mem {names : List String} {items : String → List α} {name : String}
    {a : α} (hn : names.Nodup) (hm : name ∈ names) :
    insertInto name a (names.map fun n => (n, items n)) =
      names.map fun n => (n, if n = name then items n ++ [a] else items n) := by
  induction names with
  | nil => cases hm
  | cons n names ih =>
    obtain ⟨hnot, hn⟩ := List.nodup_cons.mp hn
    rw [List.map_cons, List.map_cons, insertInto]
    by_cases he : n = name
    · have hr : names.map (fun m => (m, if m = name then items m ++ [a] else items m)) =
          names.map fun m => (m, items m) := by
        apply List.map_congr_left
        intro m hmem
        have hne : m ≠ name := fun h => hnot (he ▸ h ▸ hmem)
        rw [if_neg hne]
      rw [if_pos he, if_pos he, hr]
    · have hm : name ∈ names := (List.mem_cons.mp hm).resolve_left (Ne.symm he)
      rw [if_neg he, if_neg he, ih hn hm]

theorem insertInto_map_of_not_mem {names : List String} {items : String → List α} {name : String}
    {a : α} (hm : name ∉ names) :
    insertInto name a (names.map fun n => (n, items n)) =
      names.map (fun n => (n, items n)) ++ [(name, [a])] := by
  induction names with
  | nil => rfl
  | cons n names ih =>
    rw [List.mem_cons, not_or] at hm
    rw [List.map_cons, insertInto, if_neg (Ne.symm hm.1), ih hm.2, List.cons_append]

theorem groups_ofList (f : ι → α) (items : List ι) :
    (ofList (items.map fun i => (key i, f i))).groups =
      (namesOf key items).map fun name => (name, (named key name items).map f) := by
  induction items using List.reverseRecOn with
  | nil => rfl
  | append_singleton items i ih =>
    have hinsert : (ofList ((items ++ [i]).map fun i => (key i, f i))).groups =
        insertInto (key i) (f i) (ofList (items.map fun i => (key i, f i))).groups := by
      simp only [ofList, List.map_append, List.foldl_append]
      rfl
    rw [hinsert, ih]
    by_cases hm : key i ∈ namesOf key items
    · have hnames : namesOf key (items ++ [i]) = namesOf key items := by
        have hk : key i ∈ items.map key := List.mem_eraseDups.mp hm
        rw [namesOf, List.map_append, List.map_singleton, eraseDups_concat, if_pos hk]
        rfl
      rw [insertInto_map_of_mem (nodup_namesOf key items) hm, hnames]
      apply List.map_congr_left
      intro name _
      rw [named_append, named_singleton]
      by_cases he : name = key i
      · simp [he]
      · simp [he, Ne.symm he]
    · have hnames : namesOf key (items ++ [i]) = namesOf key items ++ [key i] := by
        have hk : key i ∉ items.map key := fun h => hm (List.mem_eraseDups.mpr h)
        rw [namesOf, List.map_append, List.map_singleton, eraseDups_concat, if_neg hk]
        rfl
      have hnone : named key (key i) items = [] := by
        apply List.filter_eq_nil_iff.mpr
        intro j hj he
        exact hm ((mem_namesOf key).mpr ⟨j, hj, eq_of_beq he⟩)
      rw [insertInto_map_of_not_mem hm, hnames, List.map_append, List.map_singleton, named_append,
        hnone, named_singleton, if_pos rfl]
      congr 1
      apply List.map_congr_left
      intro name hname
      have hne : key i ≠ name := fun h => hm (h ▸ hname)
      rw [named_append, named_singleton, if_neg hne, List.append_nil]

theorem grouped_perm (items : List ι) : (grouped key items).Perm items := by
  -- the items of the first name, then those left, which are fewer
  match items with
  | [] => exact List.Perm.refl _
  | i :: items =>
    have hnames : namesOf key (i :: items) =
        key i :: namesOf key (items.filter fun j => !(key j == key i)) := by
      rw [namesOf, List.map_cons, List.eraseDups_cons, List.filter_map]
      rfl
    have hrest : (namesOf key (items.filter fun j => !(key j == key i))).flatMap
          (fun name => named key name (i :: items)) =
        grouped key (items.filter fun j => !(key j == key i)) := by
      apply List.flatMap_congr
      intro name hname
      obtain ⟨j, hj, rfl⟩ := (mem_namesOf key).mp hname
      have hne : key j ≠ key i := by simpa using (List.mem_filter.mp hj).2
      rw [named, named, List.filter_cons_of_neg (by simpa using Ne.symm hne), List.filter_filter]
      apply List.filter_congr
      intro k _
      by_cases hk : key k = key j <;> simp [hk, hne]
    have hperm := grouped_perm (items.filter fun j => !(key j == key i))
    rw [grouped, hnames, List.flatMap_cons, hrest, named,
      List.filter_cons_of_pos (by exact beq_self_eq_true (key i)), List.cons_append]
    apply List.Perm.cons
    apply (hperm.append_left _).trans
    exact List.filter_append_perm _ items
termination_by items.length
decreasing_by
  have := List.length_filter_le (fun j => !(key j == key i)) items
  simp only [List.length_cons]
  omega

theorem flatMap_groups_ofList {β : Type} (f : ι → α) (g : α → Bool → β) (items : List ι) :
    ((ofList (items.map fun i => (key i, f i))).groups.flatMap
        fun (_, group) => group.map fun a => g a (decide (1 < group.length))) =
      (grouped key items).map fun i => g (f i) (isOverloaded key items i) := by
  rw [groups_ofList, List.flatMap_map, grouped, List.map_flatMap]
  apply List.flatMap_congr
  intro name _
  dsimp only
  rw [List.map_map, List.length_map]
  apply List.map_congr_left
  intro i hi
  obtain rfl := ((mem_named key).mp hi).2
  rfl

theorem items_ofList (f : ι → α) (items : List ι) :
    (ofList (items.map fun i => (key i, f i))).items = (grouped key items).map f := by
  rw [Overloads.items, groups_ofList, List.flatMap_map, grouped, List.map_flatMap]

section Map

variable {key} {φ : ι → ι} (h : ∀ i, key (φ i) = key i)

include h

theorem namesOf_map (items : List ι) : namesOf key (items.map φ) = namesOf key items := by
  rw [namesOf, List.map_map]
  have hkey : key ∘ φ = key := funext h
  rw [hkey, namesOf]

theorem named_map (name : String) (items : List ι) :
    named key name (items.map φ) = (named key name items).map φ := by
  have hkey : (fun i => key i == name) ∘ φ = fun i => key i == name := by
    funext i
    exact congrArg (· == name) (h i)
  rw [named, List.filter_map, hkey, named]

theorem grouped_map (items : List ι) : grouped key (items.map φ) = (grouped key items).map φ := by
  rw [grouped, namesOf_map h, grouped, List.map_flatMap]
  simp only [named_map h]

theorem isOverloaded_map (items : List ι) (i : ι) :
    isOverloaded key (items.map φ) (φ i) = isOverloaded key items i := by
  rw [isOverloaded, named_map h, List.length_map, h, isOverloaded]

end Map

end Overloads

end ContractTypings
