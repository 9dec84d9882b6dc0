import ContractTypings.Text.Quoted
import ContractTypings.Text.Basic
import ContractTypings.TypeScript.Code
import ContractTypings.TypeScript.Identifiers
import ContractTypings.TypeScript.Literals

namespace ContractTypings.TypeScript

open Text

def Inert (cs : List Char) : Prop :=
  ∃ code, (∀ rest, code? (cs ++ rest) = (code? rest).map (code ++ ·)) ∧
    ∀ waiting rest, closesAll waiting (code ++ rest) = closesAll waiting rest

theorem isEnclosed_of_inert {text : String} (h : Inert text.toList) : isEnclosed text = true := by
  obtain ⟨code, hcode, hcloses⟩ := h
  have hc := hcode []
  have hb := hcloses [] []
  rw [List.append_nil] at hc hb
  rw [isEnclosed, hc, code?, Option.map_some, List.append_nil, Option.any_some, hb]
  rfl

theorem code?_cons {c : Char} {cs : List Char} (hs : c ≠ '/') (hq : c ≠ '"') :
    code? (c :: cs) = (code? cs).map (c :: ·) :=
  code?.eq_4 c cs (fun _ h _ => hs h) hq

theorem afterMark?_cons {c : Char} {cs : List Char} (h : c = '*' → cs.head? ≠ some '/') :
    afterMark? (c :: cs) = afterMark? cs := by
  apply afterMark?.eq_3
  rintro cs' rfl rfl
  exact h rfl rfl

theorem afterComment?_eq (cs : List Char) : afterComment? cs = (afterMark? cs).bind code? := by
  fun_induction afterMark? cs with
  | case1 => rw [afterComment?, Option.bind_none]
  | case2 cs => rw [afterComment?, Option.bind_some]
  | case3 c cs hne ih => rw [afterComment?.eq_3 c cs hne, ih]

theorem afterLiteral?_eq (cs : List Char) :
    afterLiteral? cs = (Quoted.inside? cs).bind fun (_, rest) => code? rest := by
  fun_induction Quoted.inside? cs with
  | case1 => rw [afterLiteral?, Option.bind_none]
  | case2 cs => rw [afterLiteral?, Option.bind_some]
  | case3 c cs ih =>
    rw [afterLiteral?, ih, Option.bind_map]
    rfl
  | case4 c cs hq hb ih =>
    rw [afterLiteral?.eq_4 c cs hq hb, ih, Option.bind_map]
    rfl

theorem closesAll_opening {l r : Char} {waiting cs : List Char} (h : closing? l = some r) :
    closesAll waiting (l :: cs) = closesAll (r :: waiting) cs := by
  rw [closesAll.eq_def]
  simp only [h]

theorem closesAll_closing {r : Char} {waiting cs : List Char} (ho : closing? r = none)
    (hc : isClosing r = true) : closesAll (r :: waiting) (r :: cs) = closesAll waiting cs := by
  rw [closesAll.eq_def]
  simp [ho, hc]

theorem closesAll_other {c : Char} {waiting cs : List Char} (ho : closing? c = none)
    (hc : isClosing c = false) : closesAll waiting (c :: cs) = closesAll waiting cs := by
  rw [closesAll.eq_def]
  simp [ho, hc]

theorem closing?_chars {l r : Char} (h : closing? l = some r) :
    (l ≠ '/' ∧ l ≠ '"') ∧ (r ≠ '/' ∧ r ≠ '"') ∧ closing? r = none ∧ isClosing r = true := by
  unfold closing? at h
  split at h
  all_goals
    cases h
    try decide

def isInertChar (c : Char) : Bool :=
  c != '/' && c != '"' && (closing? c).isNone && !isClosing c

namespace Inert

theorem nil : Inert [] := by
  refine ⟨[], ?_, ?_⟩
  · intro rest
    simp
  · intro waiting rest
    rfl

theorem append {cs ds : List Char} (hc : Inert cs) (hd : Inert ds) : Inert (cs ++ ds) := by
  obtain ⟨code, hcode, hcloses⟩ := hc
  obtain ⟨code', hcode', hcloses'⟩ := hd
  refine ⟨code ++ code', ?_, ?_⟩
  · intro rest
    rw [List.append_assoc, hcode, hcode', Option.map_map]
    congr 1
    funext ds
    exact (List.append_assoc code code' ds).symm
  · intro waiting rest
    rw [List.append_assoc, hcloses, hcloses']

theorem char {c : Char} (h : isInertChar c = true) : Inert [c] := by
  simp only [isInertChar, Bool.and_eq_true, bne_iff_ne, Option.isNone_iff_eq_none,
    Bool.not_eq_true'] at h
  obtain ⟨⟨⟨hs, hq⟩, ho⟩, hc⟩ := h
  refine ⟨[c], ?_, ?_⟩
  · intro rest
    exact code?_cons hs hq
  · intro waiting rest
    exact closesAll_other ho hc

theorem enclosed {l r : Char} {cs : List Char} (hl : closing? l = some r) (h : Inert cs) :
    Inert (l :: cs ++ [r]) := by
  obtain ⟨code, hcode, hcloses⟩ := h
  obtain ⟨⟨hls, hlq⟩, ⟨hrs, hrq⟩, hr, hrc⟩ := closing?_chars hl
  refine ⟨l :: code ++ [r], ?_, ?_⟩
  · intro rest
    simp only [List.cons_append, List.append_assoc, List.nil_append]
    rw [code?_cons hls hlq, hcode, code?_cons hrs hrq, Option.map_map, Option.map_map]
    rfl
  · intro waiting rest
    simp only [List.cons_append, List.append_assoc, List.nil_append]
    rw [closesAll_opening hl, hcloses, closesAll_closing hr hrc]

theorem quote (s : String) : Inert (quote s).toList := by
  refine ⟨[], ?_, fun _ _ => rfl⟩
  intro rest
  rw [toList_quote, Quoted.encode_append, code?, afterLiteral?_eq, Quoted.inside?_flatMap_escape]
  simp

end Inert

theorem isInertChar_of_plain {c : Char}
    (h : (c.isAlphanum || c == '_' || c == '$') = true) : isInertChar c = true := by
  -- none of the characters that begin or end something is plain
  have hne : ∀ d : Char, (d.isAlphanum || d == '_' || d == '$') = false → c ≠ d := by
    rintro d hd rfl
    rw [hd] at h
    cases h
  have hclosing : closing? c = none := by
    unfold closing?
    split
    · exact absurd rfl (hne '(' (by decide))
    · exact absurd rfl (hne '[' (by decide))
    · exact absurd rfl (hne '\x7b' (by decide))
    · exact absurd rfl (hne '<' (by decide))
    · rfl
  simp only [isInertChar, hclosing, isClosing, Option.isNone_none, Bool.and_true, Bool.and_eq_true,
    bne_iff_ne, Bool.not_eq_true', Bool.or_eq_false_iff, beq_eq_false_iff_ne]
  exact ⟨⟨hne '/' (by decide), hne '"' (by decide)⟩,
    ⟨⟨hne ')' (by decide), hne ']' (by decide)⟩, hne '\x7d' (by decide)⟩, hne '>' (by decide)⟩

theorem head?_defuse (cs : List Char) : (defuse cs).head? = cs.head? := by
  unfold defuse
  split <;> rfl

theorem afterMark?_defuse (cs rest : List Char) :
    afterMark? (defuse cs ++ '\n' :: rest) = afterMark? rest := by
  induction cs using defuse.induct with
  | case1 cs ih =>
    rw [defuse, List.cons_append, List.cons_append, List.cons_append]
    rw [afterMark?_cons (by simp), afterMark?_cons (by simp), afterMark?_cons (by simp)]
    exact ih
  | case2 c cs hne ih =>
    have hhead : c = '*' → (defuse cs ++ '\n' :: rest).head? ≠ some '/' := by
      intro hc
      rw [List.head?_append, head?_defuse]
      cases cs with
      | nil => simp
      | cons d cs =>
        intro hd
        exact hne cs hc (by simpa using hd)
    rw [defuse, List.cons_append, afterMark?_cons hhead]
    · exact ih
    · exact hne
  | case3 =>
    exact afterMark?_cons (by simp)

end ContractTypings.TypeScript
