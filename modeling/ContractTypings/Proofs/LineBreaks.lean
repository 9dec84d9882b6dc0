import ContractTypings.Proofs.ModuleRows
import ContractTypings.Proofs.TextParts

namespace ContractTypings

open Text

/-- The lines of a text with either kind of break, a line feed alone or one after a carriage return.
A break at the very end opens no further line, and any other carriage return is part of its line. -/
def brokenLines : List Char → List (List Char)
  | [] => []
  | '\n' :: cs => [] :: brokenLines cs
  | '\r' :: '\n' :: cs => [] :: brokenLines cs
  | c :: cs =>
    match brokenLines cs with
    | [] => [[c]]
    | line :: rest => (c :: line) :: rest

theorem lines_feed (cs : List Char) : lines ('\n' :: cs) = [] :: lines cs := by
  obtain ⟨part, parts, hparts⟩ := List.exists_cons_of_ne_nil (List.splitOn_ne_nil '\n' cs)
  have hsplit : ('\n' :: cs).splitOn '\n' = [] :: part :: parts := by
    rw [List.splitOn_cons_eq_if_modifyHead, if_pos (beq_self_eq_true _), hparts]
  rw [lines, lines, hsplit, hparts, List.getLast?_cons_cons, List.dropLast_cons_cons]
  split <;> rfl

theorem lines_cons {c : Char} (h : c ≠ '\n') (cs : List Char) :
    lines (c :: cs) = match lines cs with
      | [] => [[c]]
      | line :: rest => (c :: line) :: rest := by
  obtain ⟨part, parts, hparts⟩ := List.exists_cons_of_ne_nil (List.splitOn_ne_nil '\n' cs)
  have hsplit : (c :: cs).splitOn '\n' = (c :: part) :: parts := by
    rw [List.splitOn_cons_eq_if_modifyHead, if_neg (mt beq_iff_eq.mp h), hparts,
      List.modifyHead_cons]
  rw [lines, lines, hsplit, hparts]
  cases parts with
  | nil => cases part <;> simp
  | cons next parts =>
    rw [List.getLast?_cons_cons, List.getLast?_cons_cons, List.dropLast_cons_cons,
      List.dropLast_cons_cons]
    split <;> rfl

theorem forall₂_lines (cs : List Char) :
    List.Forall₂ (fun line broken => line = broken ∨ line = broken ++ ['\r']) (lines cs)
      (brokenLines cs) := by
  fun_induction brokenLines cs with
  | case1 => exact List.Forall₂.nil
  | case2 cs ih =>
    rw [lines_feed]
    exact List.Forall₂.cons (Or.inl rfl) ih
  | case3 cs ih =>
    rw [lines_cons (by decide), lines_feed]
    exact List.Forall₂.cons (Or.inr rfl) ih
  | case4 c cs hfeed hreturn hnil ih =>
    rw [hnil, List.forall₂_nil_right_iff] at ih
    rw [lines_cons hfeed, ih]
    exact List.Forall₂.cons (Or.inl rfl) List.Forall₂.nil
  | case5 c cs hfeed hreturn broken rest hcons ih =>
    rw [hcons, List.forall₂_cons_right_iff] at ih
    obtain ⟨line, others, hline, hothers, hlines⟩ := ih
    rw [lines_cons hfeed, hlines]
    apply List.Forall₂.cons _ hothers
    rcases hline with rfl | rfl
    · exact Or.inl rfl
    · exact Or.inr rfl

theorem trimEndChars_append {cs blanks : List Char} (h : ∀ c ∈ blanks, isBlank c = true) :
    trimEndChars (cs ++ blanks) = trimEndChars cs := by
  rw [trimEndChars, List.reverse_append, List.dropWhile_append_of_pos (by simpa using h)]
  rfl

theorem forall₂_lines_trimmed (texts : List String) :
    List.Forall₂ (fun line broken => trimEndChars line = trimEndChars broken)
      (texts.flatMap fun text => lines text.toList)
      (texts.flatMap fun text => brokenLines text.toList) := by
  apply List.rel_flatMap (List.forall₂_same.mpr fun _ _ => rfl)
  rintro text _ rfl
  apply (forall₂_lines text.toList).imp
  rintro line broken (rfl | rfl)
  · rfl
  · exact trimEndChars_append (List.forall_mem_singleton.mpr (by decide))

theorem brokenLines_unlines {rows : List TypeScript.Row} (hfeed : ∀ row ∈ rows, '\n' ∉ row)
    (hreturn : ∀ row ∈ rows, row.getLast? ≠ some '\r') :
    brokenLines (TypeScript.unlines rows) = rows := by
  have hlines := forall₂_lines (TypeScript.unlines rows)
  rw [TypeScript.lines_unlines hfeed] at hlines
  generalize brokenLines (TypeScript.unlines rows) = broken at hlines
  induction hlines with
  | nil => rfl
  | cons hrow hrest ih =>
    obtain ⟨hfirst, hothers⟩ := List.forall_mem_cons.mp hreturn
    rw [ih (List.forall_mem_cons.mp hfeed).2 hothers]
    rcases hrow with rfl | rfl
    · rfl
    · exact absurd List.getLast?_concat hfirst

end ContractTypings
