import ContractTypings.Proofs.ContractName
import ContractTypings.Proofs.Refusal
import Mathlib.Data.List.TakeWhile

namespace ContractTypings.Contract

open Abi Natspec Text

theorem has_nameless (c : Char) : nameless.has c = (isSeparator c || isDigit c) := by
  have hmarks : 0x2D ≤ c.toNat ∧ c.toNat ≤ 0x2E ↔ c.val = '.'.val ∨ c.val = '-'.val := by
    rw [← UInt32.toNat_inj, ← UInt32.toNat_inj]
    change _ ↔ c.toNat = 0x2E ∨ c.toNat = 0x2D
    omega
  rw [Bool.eq_iff_iff]
  simp only [nameless, CharRanges.has, CharRange.has, isSeparator, isBlank, isDigit,
    List.any_append, List.any_cons, List.any_map, Function.comp_def, Nat.mod_one, beq_self_eq_true,
    Bool.and_true, Bool.or_eq_true, Bool.and_eq_true, decide_eq_true_eq, beq_iff_eq,
    List.any_eq_true, Nat.lt_succ_iff, Char.ext_iff, or_assoc]
  rw [hmarks, or_assoc]

theorem has_nameless_eq_false_iff {c : Char} :
    nameless.has c = false ↔ isSeparator c = false ∧ isDigit c = false := by
  rw [has_nameless, Bool.or_eq_false_iff]

def asciiLetters : CharRanges := [⟨0x41, 0x5A, 1⟩, ⟨0x61, 0x7A, 1⟩]

theorem letters_apart_nameless : asciiLetters.bits &&& nameless.bits = 0 := by decide +kernel

theorem toUpper_cases (c : Char) :
    c.toUpper = c ∨ asciiLetters.has c = true ∧ asciiLetters.has c.toUpper = true := by
  rcases toNat_toUpper c with hself | hupper
  · exact Or.inl hself
  · by_cases hlower : 0x61 ≤ c.toNat ∧ c.toNat ≤ 0x7A
    · right
      simp [asciiLetters, CharRanges.has, CharRange.has, Nat.mod_one, hlower, hupper]
    · left
      unfold Char.toUpper
      rw [dif_neg]
      exact fun h => hlower ⟨UInt32.le_iff_toNat_le.mp h.1, UInt32.le_iff_toNat_le.mp h.2⟩

theorem toUpper_alike (c : Char) :
    isSeparator c.toUpper = isSeparator c ∧ isDigit c.toUpper = isDigit c := by
  rcases toUpper_cases c with hself | ⟨hletter, hupper⟩
  · rw [hself]
    exact ⟨rfl, rfl⟩
  · have hc := CharRanges.not_has_of_apart letters_apart_nameless hletter
    have hu := CharRanges.not_has_of_apart letters_apart_nameless hupper
    rw [has_nameless_eq_false_iff] at hc hu
    exact ⟨hu.1.trans hc.1.symm, hu.2.trans hc.2.symm⟩

theorem not_isSeparator_of_mem_joinWords {separated : Bool} {cs : List Char} {d : Char}
    (h : d ∈ joinWords separated cs) : isSeparator d = false := by
  induction cs generalizing separated with
  | nil => cases h
  | cons c cs ih =>
    rw [joinWords] at h
    split at h
    · exact ih h
    next hc =>
      rcases List.mem_cons.mp h with rfl | h
      · split
        · rw [(toUpper_alike c).1]
          simpa using hc
        · simpa using hc
      · exact ih h

theorem joinWords_eq_self {cs : List Char} (h : ∀ c ∈ cs, isSeparator c = false) :
    joinWords false cs = cs := by
  induction cs with
  | nil => rfl
  | cons c cs ih =>
    obtain ⟨hc, hcs⟩ := List.forall_mem_cons.mp h
    simp [joinWords, hc, ih hcs]

theorem all_isDigit_joinWords_iff {separated : Bool} {cs : List Char} :
    (∀ c ∈ joinWords separated cs, isDigit c = true) ↔
      ∀ c ∈ cs, isSeparator c = true ∨ isDigit c = true := by
  induction cs generalizing separated with
  | nil => simp [joinWords]
  | cons c cs ih =>
    rw [joinWords, List.forall_mem_cons]
    split
    next hc => simp [ih, hc]
    next hc =>
      rw [List.forall_mem_cons, ih]
      have hkept : isDigit (if separated then c.toUpper else c) = isDigit c := by
        split
        · exact (toUpper_alike c).2
        · rfl
      simp [hkept, hc]

theorem dropWhile_joinWords_eq_nil_iff {cs : List Char} :
    (joinWords false cs).dropWhile isDigit = [] ↔
      ∀ c ∈ cs, isSeparator c = true ∨ isDigit c = true := by
  rw [List.dropWhile_eq_nil_iff, all_isDigit_joinWords_iff]

theorem name?_eq_none_iff {stem : String} :
    name? stem = none ↔ ∀ c ∈ stem.toList, isSeparator c = true ∨ isDigit c = true := by
  rw [← dropWhile_joinWords_eq_nil_iff, name?]
  split
  next h => simp [h]
  next h => simpa using h

structure IsNormalName (name : String) : Prop where
  ne_empty : name ≠ ""
  joined : ∀ c ∈ name.toList, isSeparator c = false
  start : ∀ c ∈ name.toList.head?, isDigit c = false ∧ capital c = [c]

theorem IsNormalName.name?_eq {name : String} (h : IsNormalName name) : name? name = some name := by
  obtain ⟨c, cs, hcs⟩ := List.exists_cons_of_ne_nil (l := name.toList) (by simpa using h.ne_empty)
  obtain ⟨hdigit, hcapital⟩ := h.start c (by rw [hcs, List.head?_cons]; rfl)
  have hdrop : (joinWords false name.toList).dropWhile isDigit = c :: cs := by
    rw [joinWords_eq_self h.joined, hcs, List.dropWhile_cons_of_neg (by simp [hdigit])]
  rw [name?, hdrop]
  simp [capitalize, hcapital, ← hcs]

theorem isNormalName_of_name? {stem name : String} (h : name? stem = some name) :
    IsNormalName name := by
  have hne := name?_ne_empty h
  unfold name? at h
  split at h
  · cases h
  next hkept =>
    cases h
    obtain ⟨c, cs, hcs⟩ := List.exists_cons_of_ne_nil hkept
    have hjoined : ∀ d ∈ c :: cs, isSeparator d = false := fun d hd =>
      not_isSeparator_of_mem_joinWords ((List.dropWhile_suffix isDigit).subset (hcs ▸ hd))
    have hdigit : isDigit c = false := by
      have hhead := List.head?_dropWhile_not isDigit (joinWords false stem.toList)
      rw [hcs] at hhead
      simpa using hhead
    refine ⟨hne, ?_, ?_⟩
    · rw [String.toList_ofList, hcs]
      intro d hd
      rcases mem_capitalize hd with hd | hd
      · exact hjoined d hd
      · have hform := CharRanges.not_has_of_apart forms_apart_nameless hd
        exact (has_nameless_eq_false_iff.mp hform).1
    · rw [String.toList_ofList, hcs, capitalize, List.head?_append_of_ne_nil _ (capital_ne_nil c)]
      intro d hd
      refine ⟨?_, capital_eq_self (not_source_of_head hd)⟩
      rcases has_capitalForms (List.mem_of_mem_head? hd) with rfl | hform
      · exact hdigit
      · have hform := CharRanges.not_has_of_apart forms_apart_nameless hform
        exact (has_nameless_eq_false_iff.mp hform).2

theorem isSeparator_iff {c : Char} :
    isSeparator c = true ↔ isBlank c = true ∨ c = '.' ∨ c = '-' := by
  simp [isSeparator, or_assoc]

theorem ofAbi_eq_invalidContractName_iff {abi : Items} {path : Path} {docs : Option Documentation}
    {stem : String} (hs : path.stem? = some stem) :
    ofAbi abi path docs = .error (.invalidContractName stem) ↔ name? stem = none := by
  cases hn : name? stem with
  | none => simp [ofAbi, hs, hn]
  | some name =>
    -- a clash is never reported as a name that cannot be used
    simp only [reduceCtorEq, iff_false]
    intro h
    cases hc : (described name path docs abi).clash? with
    | none =>
      rw [ofAbi_eq_ok hs hn hc] at h
      cases h
    | some failure =>
      rw [ofAbi_eq_error hs hn hc] at h
      obtain rfl : failure = .invalidContractName stem := by simpa using h
      unfold clash? at hc
      split at hc
      · cases hc
      · split at hc
        · cases hc
        · obtain ⟨_, -, hclash⟩ := Option.map_eq_some_iff.mp hc
          cases hclash

/-- A stem has no name just if each of its characters is white space, a dot, a dash or a decimal
digit, and then its file is refused for that. Any other has a name without white space, dots and
dashes that starts neither with a digit nor with a small ASCII letter, and the name of that name is
the name itself. -/
theorem name?_normal (stem : String) :
    (name? stem = none ↔
      ∀ c ∈ stem.toList, isBlank c = true ∨ c = '.' ∨ c = '-' ∨ isDigit c = true) ∧
    (∀ abi path docs, path.stem? = some stem →
      (ofAbi abi path docs = .error (.invalidContractName stem) ↔ name? stem = none)) ∧
    ∀ name, name? stem = some name →
      name ≠ "" ∧ (∀ c ∈ name.toList, isBlank c = false ∧ c ≠ '.' ∧ c ≠ '-') ∧
      (∀ c ∈ name.toList.head?, isDigit c = false ∧ ¬ ('a' ≤ c ∧ c ≤ 'z')) ∧
      name? name = some name := by
  refine ⟨?_, fun _ _ _ hs => ofAbi_eq_invalidContractName_iff hs, ?_⟩
  · simp only [name?_eq_none_iff, isSeparator_iff, or_assoc]
  · intro name h
    have hnormal := isNormalName_of_name? h
    refine ⟨hnormal.ne_empty, ?_, ?_, hnormal.name?_eq⟩
    · intro c hc
      have hjoined := hnormal.joined c hc
      rw [← Bool.not_eq_true, isSeparator_iff, not_or, not_or, Bool.not_eq_true] at hjoined
      exact hjoined
    · intro c hc
      refine ⟨(hnormal.start c hc).1, ?_⟩
      rintro ⟨hl, hu⟩
      have hsmall := head_name? h hc
      have hl : 0x61 ≤ c.toNat := UInt32.le_iff_toNat_le.mp hl
      have hu : c.toNat ≤ 0x7A := UInt32.le_iff_toNat_le.mp hu
      omega

theorem name?_normal_letters :
    name? " 1-2\u0149-e.x" = some "\u02BCNEX" ∧ name? "\u02BCNEX" = some "\u02BCNEX" ∧
      name? "\u0660-.\u3000" = none ∧
      ofAbi [] ⟨"\u0660-.\u3000.json"⟩ none = .error (.invalidContractName "\u0660-.\u3000") := by
  have hletters : name? " 1-2\u0149-e.x" = some "\u02BCNEX" := by decide +kernel
  have hnone : name? "\u0660-.\u3000" = none := by
    apply (name?_normal "\u0660-.\u3000").1.mpr
    intro c hc
    have hchar : c = '\u0660' ∨ c = '-' ∨ c = '.' ∨ c = '\u3000' := by simpa using hc
    rcases hchar with rfl | rfl | rfl | rfl <;> decide
  have hstem : Path.stem? ⟨"\u0660-.\u3000.json"⟩ = some "\u0660-.\u3000" := by decide +kernel
  obtain ⟨-, -, -, hfixed⟩ := (name?_normal " 1-2\u0149-e.x").2.2 _ hletters
  exact ⟨hletters, hfixed, hnone, ((name?_normal _).2.1 [] _ none hstem).mpr hnone⟩

end ContractTypings.Contract
