import ContractTypings.Proofs.InertText

/-!
Source texts put together from code, quoted texts and comments, with brackets around some of them. A
text that is composed in this way is inert, and its literals are the texts that were quoted in it.
-/

namespace ContractTypings.TypeScript

open Text

def Unmarked (cs : List Char) : Prop := ∀ rest, afterMark? (cs ++ rest) = afterMark? rest

namespace Unmarked

variable {cs ds : List Char}

theorem append (hc : Unmarked cs) (hd : Unmarked ds) : Unmarked (cs ++ ds) := by
  intro rest
  rw [List.append_assoc, hc, hd]

theorem of_not_star (h : '*' ∉ cs) : Unmarked cs := by
  intro rest
  induction cs with
  | nil => rfl
  | cons c cs ih =>
    rw [List.mem_cons, not_or] at h
    exact (afterMark?_cons fun hc => absurd hc.symm h.1).trans (ih h.2)

theorem defuse_line (cs : List Char) : Unmarked (defuse cs ++ ['\n']) := by
  intro rest
  rw [List.append_assoc]
  exact afterMark?_defuse cs rest

theorem star {c : Char} (hc : c ≠ '/') (h : Unmarked (c :: cs)) : Unmarked ('*' :: c :: cs) := by
  intro rest
  have hhead : (c :: cs ++ rest).head? ≠ some '/' := by simpa using hc
  exact (afterMark?_cons fun _ => hhead).trans (h rest)

theorem afterMark?_append (h : Unmarked cs) (rest : List Char) :
    afterMark? (cs ++ ['*', '/'] ++ rest) = some rest := by
  rw [List.append_assoc, h]
  rfl

end Unmarked

theorem Inert.comment {cs : List Char} (h : Unmarked cs) :
    Inert ('/' :: '*' :: (cs ++ ['*', '/'])) := by
  refine ⟨[], ?_, fun _ _ => rfl⟩
  intro rest
  rw [List.cons_append, List.cons_append, code?, afterComment?_eq, h.afterMark?_append]
  simp

theorem literals?_cons {c : Char} (cs : List Char) (hs : c ≠ '/') (hq : c ≠ '"') :
    literals? (c :: cs) = literals? cs :=
  literals?.eq_4 c cs (fun _ h _ => hs h) hq

theorem literals?_comment {cs rest : List Char} (h : afterMark? cs = some rest) :
    literals? ('/' :: '*' :: cs) = literals? rest := by
  rw [literals?]
  split
  next he =>
    rw [h] at he
    rw [Option.some.inj he]
  next he =>
    rw [h] at he
    cases he

theorem literals?_literal {cs said rest : List Char}
    (h : Quoted.decode? ('"' :: cs) = some (said, rest)) :
    literals? ('"' :: cs) = (literals? rest).map (String.ofList said :: ·) := by
  rw [literals?]
  split
  next he =>
    rw [h] at he
    cases he
    rfl
  next he =>
    rw [h] at he
    cases he

/-- A text with just these literals: reading goes on behind it as if nothing had come before. -/
def HasLiterals (cs : List Char) (texts : List String) : Prop :=
  ∀ rest, literals? (cs ++ rest) = (literals? rest).map (texts ++ ·)

namespace HasLiterals

variable {cs ds : List Char} {ts us : List String}

theorem literals?_eq (h : HasLiterals cs ts) : literals? cs = some ts := by
  have he := h []
  rw [List.append_nil, literals?, Option.map_some, List.append_nil] at he
  exact he

theorem nil : HasLiterals [] [] := by
  intro rest
  simp

theorem append (hc : HasLiterals cs ts) (hd : HasLiterals ds us) :
    HasLiterals (cs ++ ds) (ts ++ us) := by
  intro rest
  rw [List.append_assoc, hc, hd, Option.map_map]
  congr 1
  funext vs
  exact (List.append_assoc ts us vs).symm

theorem char {c : Char} (hs : c ≠ '/') (hq : c ≠ '"') : HasLiterals [c] [] := by
  intro rest
  rw [List.singleton_append, literals?_cons rest hs hq]
  simp

theorem quote (s : String) : HasLiterals (quote s).toList [s] := by
  intro rest
  have hread := Quoted.decode?_encode_append s.toList rest
  rw [Quoted.encode_append] at hread
  rw [toList_quote, Quoted.encode_append, literals?_literal hread, String.ofList_toList]
  rfl

theorem comment (h : Unmarked cs) : HasLiterals ('/' :: '*' :: (cs ++ ['*', '/'])) [] := by
  intro rest
  rw [List.cons_append, List.cons_append, literals?_comment (h.afterMark?_append rest)]
  simp

end HasLiterals

inductive Composed : List Char → List String → Prop
  | nil : Composed [] []
  | char {c : Char} (h : isInertChar c = true) : Composed [c] []
  | quote (s : String) : Composed (quote s).toList [s]
  | comment {cs : List Char} (h : Unmarked cs) : Composed ('/' :: '*' :: (cs ++ ['*', '/'])) []
  | enclosed {l r : Char} {cs : List Char} {ts : List String} (hl : closing? l = some r)
      (h : Composed cs ts) : Composed (l :: cs ++ [r]) ts
  | append {cs ds : List Char} {ts us : List String} (hc : Composed cs ts) (hd : Composed ds us) :
      Composed (cs ++ ds) (ts ++ us)

namespace Composed

variable {cs ds : List Char} {ts us : List String}

theorem inert (h : Composed cs ts) : Inert cs := by
  induction h with
  | nil => exact Inert.nil
  | char h => exact Inert.char h
  | quote s => exact Inert.quote s
  | comment h => exact Inert.comment h
  | enclosed hl _ ih => exact Inert.enclosed hl ih
  | append _ _ ihc ihd => exact ihc.append ihd

theorem hasLiterals (h : Composed cs ts) : HasLiterals cs ts := by
  induction h with
  | nil => exact HasLiterals.nil
  | char h =>
    simp only [isInertChar, Bool.and_eq_true, bne_iff_ne] at h
    exact HasLiterals.char h.1.1.1 h.1.1.2
  | quote s => exact HasLiterals.quote s
  | comment h => exact HasLiterals.comment h
  | enclosed hl _ ih =>
    obtain ⟨⟨hls, hlq⟩, ⟨hrs, hrq⟩, -⟩ := closing?_chars hl
    have hopen := HasLiterals.char hls hlq
    have hclosed := (hopen.append ih).append (HasLiterals.char hrs hrq)
    simpa using hclosed
  | append _ _ ihc ihd => exact ihc.append ihd

theorem nil_append (hc : Composed cs []) (hd : Composed ds ts) : Composed (cs ++ ds) ts := by
  have happend := hc.append hd
  rwa [List.nil_append] at happend

theorem append_nil (hc : Composed cs ts) (hd : Composed ds []) : Composed (cs ++ ds) ts := by
  have happend := hc.append hd
  rwa [List.append_nil] at happend

theorem chars (h : cs.all isInertChar = true) : Composed cs [] := by
  induction cs with
  | nil => exact nil
  | cons c cs ih =>
    rw [List.all_cons, Bool.and_eq_true] at h
    exact (char h.1).append (ih h.2)

theorem code (s : String) (h : s.toList.all isInertChar = true := by decide) :
    Composed s.toList [] := chars h

theorem name {s : String} (h : isPlainName s = true) : Composed s.toList [] := by
  apply chars
  apply List.all_eq_true.mpr
  intro c hc
  exact isInertChar_of_plain (List.all_eq_true.mp h c hc)

theorem string_append {s t : String} (hs : Composed s.toList ts) (ht : Composed t.toList us) :
    Composed (s ++ t).toList (ts ++ us) := by
  rw [String.toList_append]
  exact hs.append ht

theorem string_append_nil {s t : String} (hs : Composed s.toList ts) (ht : Composed t.toList []) :
    Composed (s ++ t).toList ts := by
  rw [String.toList_append]
  exact hs.append_nil ht

theorem intercalate_cons {separator part : String} {parts : List String}
    (hs : Composed separator.toList []) (hp : Composed part.toList ts)
    (h : Composed (separator.intercalate parts).toList us) :
    Composed (separator.intercalate (part :: parts)).toList (ts ++ us) := by
  cases parts with
  | nil =>
    -- nothing is quoted in the empty text
    have hus : literals? [] = some us := h.hasLiterals.literals?_eq
    rw [literals?] at hus
    rw [String.intercalate_singleton, ← Option.some.inj hus, List.append_nil]
    exact hp
  | cons next parts =>
    rw [String.intercalate_cons_cons]
    exact (hp.string_append_nil hs).string_append h

theorem between {left right s : String} {l r : Char} (before after : List Char)
    (hl : closing? l = some r) (hleft : left.toList = l :: before)
    (hright : right.toList = after ++ [r]) (hb : before.all isInertChar = true)
    (ha : after.all isInertChar = true) (h : Composed s.toList ts) :
    Composed (left ++ s ++ right).toList ts := by
  have hinner : Composed (before ++ s.toList ++ after) ts :=
    ((chars hb).append h).append_nil (chars ha)
  have henclosed := enclosed hl hinner
  rw [String.toList_append, String.toList_append, hleft, hright]
  simpa only [List.cons_append, List.append_assoc] using henclosed

end Composed

end ContractTypings.TypeScript
