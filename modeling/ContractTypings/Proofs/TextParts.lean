import ContractTypings.Text.Basic
import Mathlib.Data.List.DropRight
import Mathlib.Tactic.Common

namespace ContractTypings

open Text

theorem isDigit_of_mem_toString {n : Nat} {c : Char} (h : c ∈ (toString n).toList) :
    c.isDigit = true := by
  rw [Nat.toString_eq_repr, Nat.toList_repr] at h
  exact Nat.isDigit_of_mem_toDigits (by decide) (by decide) h

theorem ofDigitChars_toString (n : Nat) : Nat.ofDigitChars 10 (toString n).toList 0 = n := by
  rw [Nat.toString_eq_repr, Nat.toList_repr]
  exact Nat.ofDigitChars_toDigits (by decide) (by decide)

theorem not_mem_of_mem_splitOn {separator : Char} {cs part : List Char}
    (h : part ∈ cs.splitOn separator) : separator ∉ part := by
  induction cs generalizing part with
  | nil =>
    obtain rfl : part = [] := by simpa using h
    simp
  | cons c cs ih =>
    rw [List.splitOn_cons_eq_if_modifyHead] at h
    split at h
    · rcases List.mem_cons.mp h with rfl | h
      · simp
      · exact ih h
    next hc =>
      obtain ⟨first, rest, he⟩ := List.exists_cons_of_ne_nil (List.splitOn_ne_nil separator cs)
      rw [he, List.modifyHead_cons] at h
      rcases List.mem_cons.mp h with rfl | h
      · have hf : separator ∉ first := ih (he ▸ List.mem_cons_self)
        intro hm
        rcases List.mem_cons.mp hm with rfl | hm
        · exact hc (by simp)
        · exact hf hm
      · exact ih (he ▸ List.mem_cons_of_mem _ h)

theorem feed_not_mem_of_mem_lines {cs line : List Char} (h : line ∈ lines cs) : '\n' ∉ line := by
  have hpart : line ∈ cs.splitOn '\n' := by
    rw [lines] at h
    split at h
    · exact List.dropLast_subset _ h
    · exact h
  exact not_mem_of_mem_splitOn hpart

theorem lines_eq_nil_iff {cs : List Char} : lines cs = [] ↔ cs = [] := by
  constructor
  · intro h
    rw [lines] at h
    split at h
    next hl =>
      -- nothing is left but the one empty part
      have hparts : cs.splitOn '\n' = [[]] := by
        rw [← List.dropLast_append_getLast? [] hl, h, List.nil_append]
      have hjoined : ['\n'].intercalate (cs.splitOn '\n') = cs := List.intercalate_splitOn '\n'
      rw [hparts] at hjoined
      simpa using hjoined.symm
    · exact absurd h (List.splitOn_ne_nil '\n' cs)
  · rintro rfl
    rfl

theorem trimChars_eq (cs : List Char) : trimChars cs = (cs.dropWhile isBlank).rdropWhile isBlank :=
  rfl

theorem trim_eq_self {s : String} (hh : ∀ c, s.toList.head? = some c → isBlank c = false)
    (hl : ∀ c, s.toList.getLast? = some c → isBlank c = false) : trim s = s := by
  have hd : s.toList.dropWhile isBlank = s.toList := by
    cases hs : s.toList with
    | nil => rfl
    | cons c cs => exact List.dropWhile_cons_of_neg (by simp [hh c (by simp [hs])])
  have hr : s.toList.rdropWhile isBlank = s.toList := by
    apply List.rdropWhile_eq_self_iff.mpr
    intro hn
    simp [hl _ (List.getLast?_eq_some_getLast hn)]
  rw [trim, trimChars_eq, hd, hr, String.ofList_toList]

theorem head_trim {s : String} {c : Char} (h : (trim s).toList.head? = some c) :
    isBlank c = false := by
  rw [trim, String.toList_ofList, trimChars_eq] at h
  obtain ⟨rest, hr⟩ := List.head?_eq_some_iff.mp h
  obtain ⟨tail, ht⟩ := List.rdropWhile_prefix isBlank (s.toList.dropWhile isBlank)
  have hd := List.head?_dropWhile_not isBlank s.toList
  rw [← ht, hr] at hd
  exact hd

theorem getLast_trim {s : String} {c : Char} (h : (trim s).toList.getLast? = some c) :
    isBlank c = false := by
  rw [trim, String.toList_ofList, trimChars_eq] at h
  have hn : (s.toList.dropWhile isBlank).rdropWhile isBlank ≠ [] := by
    intro he
    simp [he] at h
  rw [List.getLast?_eq_some_getLast hn] at h
  obtain rfl := Option.some.inj h
  simpa using List.rdropWhile_last_not isBlank _ hn

theorem trim_trim (s : String) : trim (trim s) = trim s :=
  trim_eq_self (fun _ => head_trim) (fun _ => getLast_trim)

theorem mem_of_mem_trim {s : String} {c : Char} (h : c ∈ (trim s).toList) : c ∈ s.toList := by
  rw [trim, String.toList_ofList, trimChars_eq] at h
  exact (List.dropWhile_suffix _).subset ((List.rdropWhile_prefix _ _).subset h)

theorem isBlank_of_isAlphanum {c : Char} (h : c.isAlphanum = true) : isBlank c = false := by
  have hc : 48 ≤ c.toNat ∧ c.toNat ≤ 122 := by
    delta Char.isAlphanum Char.isAlpha Char.isUpper Char.isLower Char.isDigit at h
    simp [UInt32.le_iff_toNat_le] at h
    omega
  simp [isBlank, whiteSpace, CharRanges.has, CharRange.has]
  omega

theorem trim_ne_empty {s : String} {c : Char} (h : s.toList.head? = some c)
    (hc : isBlank c = false) : trim s ≠ "" := by
  obtain ⟨rest, hr⟩ := List.head?_eq_some_iff.mp h
  intro he
  have hn : (s.toList.dropWhile isBlank).rdropWhile isBlank = [] := by
    simpa [trim, trimChars_eq] using congrArg String.toList he
  rw [hr, List.dropWhile_cons_of_neg (by simp [hc])] at hn
  have hb := List.rdropWhile_eq_nil_iff.mp hn c List.mem_cons_self
  rw [hc] at hb
  cases hb

theorem head?_append {s : String} (rest : String) (hs : s ≠ "") :
    (s ++ rest).toList.head? = s.toList.head? := by
  rw [String.toList_append]
  apply List.head?_append_of_ne_nil
  simpa using hs

theorem trim_start_ne_empty {s start rest : String} (h : trim s = start ++ rest)
    (hn : start ≠ "") : trim start ≠ "" := by
  obtain ⟨c, cs, hc⟩ := List.exists_cons_of_ne_nil (l := start.toList) (by simpa using hn)
  have hh : start.toList.head? = some c := by rw [hc, List.head?_cons]
  apply trim_ne_empty hh
  apply head_trim (s := s)
  rw [h, head?_append rest hn, hh]

theorem length_trim_le (s : String) : (trim s).toList.length ≤ s.toList.length := by
  rw [trim, String.toList_ofList]
  exact length_trimChars_le s.toList

end ContractTypings
