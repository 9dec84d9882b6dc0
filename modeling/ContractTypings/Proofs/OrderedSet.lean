import ContractTypings.Generator.Barrel
import Mathlib.Data.List.Sort

namespace ContractTypings

structure IsStrictOrder {α : Type} (lt : α → α → Bool) : Prop where
  irrefl : ∀ a, lt a a = false
  trans : ∀ {a b c}, lt a b = true → lt b c = true → lt a c = true
  connected : ∀ {a b}, lt a b = false → lt b a = false → a = b

theorem isStrictOrder_string : IsStrictOrder fun a b : String => decide (a < b) where
  irrefl a := by simp
  trans h₁ h₂ := by
    simp only [decide_eq_true_eq] at *
    exact String.lt_trans h₁ h₂
  connected h₁ h₂ := by
    simp only [decide_eq_false_iff_not] at *
    exact String.le_antisymm (String.not_lt.mp h₂) (String.not_lt.mp h₁)

theorem isStrictOrder_names : IsStrictOrder fun a b : List String => decide (a < b) where
  irrefl a := by simp
  trans h₁ h₂ := by
    simp only [decide_eq_true_eq] at *
    exact List.lt_trans h₁ h₂
  connected h₁ h₂ := by
    simp only [decide_eq_false_iff_not] at *
    exact List.le_antisymm (List.not_lt.mp h₂) (List.not_lt.mp h₁)

namespace IsStrictOrder

variable {α : Type} {lt : α → α → Bool}

theorem mem_insertOrdered (h : IsStrictOrder lt) {a b : α} {as : List α} :
    b ∈ insertOrdered lt a as ↔ b = a ∨ b ∈ as := by
  induction as with
  | nil => simp [insertOrdered]
  | cons c cs ih =>
    rw [insertOrdered]
    split
    · rw [List.mem_cons]
    next hac =>
      split
      · rw [List.mem_cons, ih, List.mem_cons, or_left_comm]
      next hca =>
        obtain rfl : a = c := h.connected (by simpa using hac) (by simpa using hca)
        simp

theorem pairwise_insertOrdered (h : IsStrictOrder lt) {a : α} {as : List α}
    (has : as.Pairwise fun b c => lt b c = true) :
    (insertOrdered lt a as).Pairwise fun b c => lt b c = true := by
  induction as with
  | nil => simp [insertOrdered]
  | cons c cs ih =>
    obtain ⟨hc, hcs⟩ := List.pairwise_cons.mp has
    rw [insertOrdered]
    split
    next hac =>
      apply List.pairwise_cons.mpr
      refine ⟨fun b hb => ?_, has⟩
      rcases List.mem_cons.mp hb with rfl | hb
      · exact hac
      · exact h.trans hac (hc b hb)
    · split
      next hca =>
        apply List.pairwise_cons.mpr
        refine ⟨fun b hb => ?_, ih hcs⟩
        rcases h.mem_insertOrdered.mp hb with rfl | hb
        · exact hca
        · exact hc b hb
      · exact has

theorem mem_orderedSet (h : IsStrictOrder lt) {a : α} {as : List α} :
    a ∈ orderedSet lt as ↔ a ∈ as := by
  induction as with
  | nil => rfl
  | cons b bs ih =>
    rw [List.mem_cons, ← ih]
    exact h.mem_insertOrdered

theorem pairwise_orderedSet (h : IsStrictOrder lt) (as : List α) :
    (orderedSet lt as).Pairwise fun a b => lt a b = true := by
  induction as with
  | nil => exact List.Pairwise.nil
  | cons a as ih => exact h.pairwise_insertOrdered ih

theorem orderedSet_congr (h : IsStrictOrder lt) {as bs : List α} (hm : ∀ a, a ∈ as ↔ a ∈ bs) :
    orderedSet lt as = orderedSet lt bs := by
  have hi : Std.Irrefl fun a b => lt a b = true := by
    constructor
    intro a
    simp [h.irrefl a]
  have ha : Std.Antisymm fun a b => lt a b = true := by
    constructor
    intro a b hab hba
    exact absurd (h.trans hab hba) (by simp [h.irrefl a])
  apply List.Pairwise.eq_of_mem_iff (h.pairwise_orderedSet as) (h.pairwise_orderedSet bs)
  intro a
  rw [h.mem_orderedSet, h.mem_orderedSet, hm]

end IsStrictOrder

theorem mem_namesInOrder {s : String} {names : List String} :
    s ∈ namesInOrder names ↔ s ∈ names :=
  isStrictOrder_string.mem_orderedSet

theorem pairwise_namesInOrder (names : List String) :
    (namesInOrder names).Pairwise (· < ·) := by
  have h := isStrictOrder_string.pairwise_orderedSet names
  simp only [decide_eq_true_eq] at h
  exact h

theorem namesInOrder_congr {as bs : List String} (h : ∀ s, s ∈ as ↔ s ∈ bs) :
    namesInOrder as = namesInOrder bs :=
  isStrictOrder_string.orderedSet_congr h

end ContractTypings
