import ContractTypings.Path
import ContractTypings.Proofs.CapitalForms
import Mathlib.Data.List.Basic

namespace ContractTypings

namespace Contract

open Text

theorem toNat_toUpper (c : Char) :
    c.toUpper = c ∨ 0x41 ≤ c.toUpper.toNat ∧ c.toUpper.toNat ≤ 0x5A := by
  unfold Char.toUpper
  split
  next h =>
    right
    have hl : 97 ≤ c.val.toNat := UInt32.le_iff_toNat_le.mp h.1
    have hu : c.val.toNat ≤ 122 := UInt32.le_iff_toNat_le.mp h.2
    have hd : ('A'.val - 'a'.val).toNat = 4294967264 := by decide
    rw [Char.toNat, UInt32.toNat_add, hd]
    omega
  · exact Or.inl rfl

theorem mem_joinWords {separated : Bool} {cs : List Char} {d : Char}
    (h : d ∈ joinWords separated cs) :
    (d ∈ cs ∧ isSeparator d = false) ∨ 0x41 ≤ d.toNat := by
  induction cs generalizing separated with
  | nil => cases h
  | cons c cs ih =>
    rw [joinWords] at h
    have hr {b : Bool} (h : d ∈ joinWords b cs) :
        (d ∈ c :: cs ∧ isSeparator d = false) ∨ 0x41 ≤ d.toNat :=
      (ih h).imp_left fun h => ⟨List.mem_cons_of_mem c h.1, h.2⟩
    split at h
    · exact hr h
    next hc =>
      rcases List.mem_cons.mp h with rfl | h
      · have hs : isSeparator c = false := by simpa using hc
        split
        · rcases toNat_toUpper c with he | he
          · rw [he]
            exact Or.inl ⟨List.mem_cons_self, hs⟩
          · exact Or.inr he.1
        · exact Or.inl ⟨List.mem_cons_self, hs⟩
      · exact hr h

theorem mem_name? {stem name : String} (h : name? stem = some name) {d : Char}
    (hd : d ∈ name.toList) : (d ∈ stem.toList ∧ isSeparator d = false) ∨ 0x41 ≤ d.toNat := by
  unfold name? at h
  split at h
  · cases h
  next hn =>
    cases h
    rw [String.toList_ofList] at hd
    rcases mem_capitalize hd with hd | hd
    · have hj : d ∈ joinWords false stem.toList := (List.dropWhile_suffix isDigit).subset hd
      exact mem_joinWords hj
    · exact Or.inr (le_of_has_capitalForms hd)

theorem name?_ne_empty {stem name : String} (h : name? stem = some name) : name ≠ "" := by
  unfold name? at h
  split at h
  · cases h
  next hn =>
    cases h
    intro he
    have hc : capitalize ((joinWords false stem.toList).dropWhile isDigit) = [] := by
      simpa using congrArg String.toList he
    cases hj : (joinWords false stem.toList).dropWhile isDigit with
    | nil => exact hn hj
    | cons c cs =>
      rw [hj, capitalize, List.append_eq_nil_iff] at hc
      exact capital_ne_nil c hc.1

theorem head_name? {stem name : String} (h : name? stem = some name) {c : Char}
    (hc : name.toList.head? = some c) : c.toNat < 0x61 ∨ 0x7A < c.toNat := by
  unfold name? at h
  split at h
  · cases h
  next hn =>
    cases h
    rw [String.toList_ofList] at hc
    cases hj : (joinWords false stem.toList).dropWhile isDigit with
    | nil => exact absurd hj hn
    | cons d ds =>
      rw [hj, capitalize, List.head?_append_of_ne_nil _ (capital_ne_nil d)] at hc
      exact head_capital hc

theorem slash_not_mem_name? {stem name : String} (h : name? stem = some name)
    (hs : '/' ∉ stem.toList) : '/' ∉ name.toList := by
  intro hd
  rcases mem_name? h hd with ⟨hm, -⟩ | hm
  · exact hs hm
  · revert hm
    decide

end Contract

theorem Path.splitName_subset (name : String) : (splitName name).1.toList ⊆ name.toList := by
  unfold splitName
  dsimp only
  split
  next d c stem h =>
    have hs : d :: c :: stem <:+ name.toList.reverse := h ▸ List.dropWhile_suffix _
    rw [String.toList_ofList]
    intro x hx
    apply List.mem_reverse.mp
    exact hs.subset (List.mem_cons_of_mem d (List.mem_reverse.mp hx))
  · exact List.Subset.refl _

theorem Path.splitName_ts {name : String} (hn : name ≠ "") :
    splitName (name ++ ".ts") = (name, some "ts") := by
  have hr : name.toList.reverse ≠ [] := by simpa using hn
  obtain ⟨c, cs, hc⟩ := List.exists_cons_of_ne_nil hr
  have hb : (name ++ ".ts").toList.reverse = 's' :: 't' :: '.' :: c :: cs := by simp [← hc]
  have he : String.ofList (c :: cs).reverse = name := by
    rw [← hc, List.reverse_reverse, String.ofList_toList]
  unfold splitName
  rw [hb]
  exact Prod.ext he rfl

end ContractTypings
