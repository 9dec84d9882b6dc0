import ContractTypings.Json.Token

/-!
A text that goes on after its tokens: only a number at its very end could be read on, and only by a
character that a number may hold.
-/

namespace ContractTypings.Json

open Text

variable {cs rest r : List Char}

theorem pieces?_simple {c e : Char} (h : simpleEscape? c = some e) (found : List Piece) :
    pieces? found ('\\' :: c :: cs) = pieces? (.char e :: found) cs := by
  have hu : c ≠ 'u' := by
    rintro rfl
    cases h
  rw [pieces?.eq_4 _ _ _ fun _ _ _ _ _ hc => absurd hc hu, h]

theorem pieces?_bare {c : Char} (hq : c ≠ '"') (hb : c ≠ '\\') (hc : ¬ c.toNat < 32)
    (found : List Piece) : pieces? found (c :: cs) = pieces? (.char c :: found) cs := by
  rw [pieces?.eq_5 _ _ _ hq (fun _ _ _ _ _ h => absurd h hb) (fun _ _ h => absurd h hb), if_neg hc]

theorem pieces?_append {found ps : List Piece} (h : pieces? found cs = some (ps, r)) :
    pieces? found (cs ++ rest) = some (ps, r ++ rest) := by
  fun_induction pieces? found cs with
  | case1 => cases h
  | case2 found cs =>
    simp only [Option.some.injEq, Prod.mk.injEq] at h
    simp [pieces?, h]
  | case3 found a b c d cs n hn ih =>
    simp only [List.cons_append, pieces?, hn]
    exact ih h
  | case4 => cases h
  | case5 found c cs _ e he ih =>
    rw [List.cons_append, List.cons_append, pieces?_simple he]
    exact ih h
  | case6 => cases h
  | case7 => cases h
  | case8 found c cs hq _ hb hc ih =>
    have hne : c ≠ '\\' := by
      rintro rfl
      cases cs with
      | nil => cases h
      | cons d cs => exact hb d cs rfl rfl
    rw [List.cons_append, pieces?_bare hq hne hc]
    exact ih h

def continuesNumber (c : Char) : Bool := isAsciiDigit c || c == '.' || c == 'e' || c == 'E'

def Bounds (rest : List Char) : Prop := ∀ c ∈ rest.head?, continuesNumber c = false

theorem bounds_cons {c : Char} (h : continuesNumber c = false) : Bounds (c :: rest) := by
  intro d hd
  obtain rfl : c = d := Option.some.inj hd
  exact h

theorem digits?_append {ds : List Char} (h : digits? cs = some (ds, r))
    (hr : r ≠ [] ∨ Bounds rest) : digits? (cs ++ rest) = some (ds, r ++ rest) := by
  unfold digits? at h ⊢
  split at h
  · cases h
  next hne =>
    simp only [Option.some.injEq, Prod.mk.injEq] at h
    obtain ⟨rfl, rfl⟩ := h
    have hsum := congrArg List.length
      (List.takeWhile_append_dropWhile (p := isAsciiDigit) (l := cs))
    rw [List.length_append] at hsum
    by_cases hnil : cs.dropWhile isAsciiDigit = []
    · -- all of the text is digits, and what follows begins with none
      have hrest : rest.takeWhile isAsciiDigit = [] ∧ rest.dropWhile isAsciiDigit = rest := by
        have hb := hr.resolve_left (absurd hnil)
        cases rest with
        | nil => exact ⟨rfl, rfl⟩
        | cons c rest =>
          have hc : isAsciiDigit c = false := by
            have hstop := hb c rfl
            simp only [continuesNumber, Bool.or_eq_false_iff] at hstop
            exact hstop.1.1.1
          simp [hc]
      have hlen : (cs.takeWhile isAsciiDigit).length = cs.length := by
        rw [hnil, List.length_nil] at hsum
        omega
      have hall : cs.takeWhile isAsciiDigit = cs :=
        (List.takeWhile_prefix isAsciiDigit).eq_of_length hlen
      rw [List.takeWhile_append, List.dropWhile_append, if_pos hlen, hnil, hrest.1, hrest.2, hall]
      rw [hall] at hne
      simp [hne]
    · have hlen : (cs.takeWhile isAsciiDigit).length ≠ cs.length := by
        have hpos := List.length_pos_iff.mpr hnil
        omega
      have hdrop : (cs.dropWhile isAsciiDigit).isEmpty ≠ true := by simpa using hnil
      rw [List.takeWhile_append, List.dropWhile_append, if_neg hlen, if_neg hne, if_neg hdrop]

theorem whole?_append {ds : List Char} (h : whole? cs = some (ds, r))
    (hr : r ≠ [] ∨ Bounds rest) : whole? (cs ++ rest) = some (ds, r ++ rest) := by
  obtain ⟨⟨whole, cs'⟩, hd, h⟩ := Option.bind_eq_some_iff.mp h
  dsimp only at h
  split at h
  · cases h
  next hz =>
    simp only [Option.some.injEq, Prod.mk.injEq] at h
    obtain ⟨rfl, rfl⟩ := h
    rw [whole?, digits?_append hd hr, Option.bind_some]
    exact if_neg hz

theorem fraction?_append {ds : List Char} (h : fraction? cs = some (ds, r))
    (hr : r ≠ [] ∨ Bounds rest) : fraction? (cs ++ rest) = some (ds, r ++ rest) := by
  unfold fraction? at h
  split at h
  · exact digits?_append h hr
  next hp =>
    simp only [Option.some.injEq, Prod.mk.injEq] at h
    obtain ⟨rfl, rfl⟩ := h
    apply fraction?.eq_2
    intro ds he
    cases cs with
    | nil =>
      have hdot : continuesNumber '.' = false :=
        (hr.resolve_left (absurd rfl)) '.' (congrArg List.head? he)
      exact absurd hdot (by decide)
    | cons c cs => exact hp cs (by rw [(List.cons.inj he).1])

theorem sign_append (h : cs ≠ []) : sign (cs ++ rest) = ((sign cs).1, (sign cs).2 ++ rest) := by
  obtain ⟨c, cs, rfl⟩ := List.exists_cons_of_ne_nil h
  by_cases hp : c = '+'
  · rw [hp]
    rfl
  by_cases hm : c = '-'
  · rw [hm]
    rfl
  have hsign : ∀ ds, sign (c :: ds) = (false, c :: ds) := fun ds =>
    sign.eq_3 _ (fun _ h => hp (List.cons.inj h).1) fun _ h => hm (List.cons.inj h).1
  rw [List.cons_append, hsign, hsign]
  rfl

theorem exponent?_append {e : Option (Bool × List Char)} (h : exponent? cs = some (e, r))
    (hr : r ≠ [] ∨ Bounds rest) : exponent? (cs ++ rest) = some (e, r ++ rest) := by
  cases cs with
  | nil =>
    simp only [exponent?, Option.some.injEq, Prod.mk.injEq] at h
    obtain ⟨rfl, rfl⟩ := h
    have hb := hr.resolve_left (absurd rfl)
    cases rest with
    | nil => rfl
    | cons c rest =>
      have hc : ¬ (c = 'e' ∨ c = 'E') := by
        have hstop := hb c rfl
        simp only [continuesNumber, Bool.or_eq_false_iff, beq_eq_false_iff_ne] at hstop
        exact not_or.mpr ⟨hstop.1.2, hstop.2⟩
      rw [List.nil_append, exponent?, if_neg hc]
  | cons c cs =>
    rw [List.cons_append, exponent?]
    rw [exponent?] at h
    split at h
    next he =>
      obtain ⟨⟨ds, r'⟩, hd, h⟩ := Option.map_eq_some_iff.mp h
      simp only [Prod.mk.injEq] at h
      obtain ⟨rfl, rfl⟩ := h
      have hcs : cs ≠ [] := by
        rintro rfl
        cases hd
      have hsign : digits? ((sign cs).2 ++ rest) = some (ds, r' ++ rest) := digits?_append hd hr
      rw [if_pos he, sign_append hcs, hsign]
      rfl
    next he =>
      simp only [Option.some.injEq, Prod.mk.injEq] at h
      obtain ⟨rfl, rfl⟩ := h
      rw [if_neg he]
      rfl

theorem numeral?_append {negative : Bool} {l : Numeral} (h : numeral? negative cs = some (l, r))
    (hr : r ≠ [] ∨ Bounds rest) : numeral? negative (cs ++ rest) = some (l, r ++ rest) := by
  obtain ⟨⟨whole, cs₁⟩, h₁, h⟩ := Option.bind_eq_some_iff.mp h
  obtain ⟨⟨fraction, cs₂⟩, h₂, h⟩ := Option.bind_eq_some_iff.mp h
  obtain ⟨⟨exponent, cs₃⟩, h₃, h⟩ := Option.bind_eq_some_iff.mp h
  simp only [Option.some.injEq, Prod.mk.injEq] at h
  obtain ⟨rfl, rfl⟩ := h
  have hlen₂ := length_le_of_fraction? h₂
  have hlen₃ := length_le_of_exponent? h₃
  have hr₂ : cs₂ ≠ [] ∨ Bounds rest := by
    refine hr.imp_left fun hne => List.length_pos_iff.mp ?_
    have hpos := List.length_pos_iff.mpr hne
    omega
  have hr₁ : cs₁ ≠ [] ∨ Bounds rest := by
    refine hr₂.imp_left fun hne => List.length_pos_iff.mp ?_
    have hpos := List.length_pos_iff.mpr hne
    omega
  rw [numeral?, whole?_append h₁ hr₁]
  simp [fraction?_append h₂ hr₂, exponent?_append h₃ hr]

theorem head_numeral? {negative : Bool} {l : Numeral} (h : numeral? negative cs = some (l, r)) :
    ∃ c ds, cs = c :: ds ∧ isAsciiDigit c = true := by
  obtain ⟨_, hw, -⟩ := Option.bind_eq_some_iff.mp h
  obtain ⟨_, hd, -⟩ := Option.bind_eq_some_iff.mp hw
  match cs with
  | [] => cases hd
  | c :: ds =>
    refine ⟨c, ds, rfl, ?_⟩
    cases hc : isAsciiDigit c with
    | true => rfl
    | false => simp [digits?, hc] at hd

namespace Token

theorem ofParts?_append {α : Type} {make : α → Token} {parts parts' : Option (α × List Char)}
    {t : Token} (h : ofParts? make parts = (t, r)) (hb : t ≠ .broken)
    (happend : ∀ a, parts = some (a, r) → parts' = some (a, r ++ rest)) :
    ofParts? make parts' = (t, r ++ rest) := by
  match parts with
  | none =>
    obtain ⟨rfl, -⟩ := Prod.mk.inj h
    exact absurd rfl hb
  | some (a, cs) =>
    obtain ⟨rfl, rfl⟩ := Prod.mk.inj h
    rw [happend a rfl]
    rfl

theorem first_digit {c : Char} (h : isAsciiDigit c = true) :
    first (c :: cs) = ofParts? (fun l => .number l.number?) (numeral? false (c :: cs)) := by
  have hne : ∀ {d : Char} {ds : List Char}, isAsciiDigit d = false → c :: cs = d :: ds → False := by
    intro d ds hd he
    rw [(List.cons.inj he).1, hd] at h
    cases h
  apply first.eq_12
  all_goals
    intro ds
    exact hne (by decide)

theorem first_append {t : Token} (h : first cs = (t, r)) (hb : t ≠ .broken)
    (hn : ∀ n, t = .number n → r ≠ [] ∨ Bounds rest) : first (cs ++ rest) = (t, r ++ rest) := by
  have hnumber : ∀ {negative : Bool} {ds : List Char},
      ofParts? (fun l => .number l.number?) (numeral? negative ds) = (t, r) →
      ofParts? (fun l => .number l.number?) (numeral? negative (ds ++ rest)) = (t, r ++ rest) := by
    intro negative ds hd
    apply ofParts?_append hd hb
    intro l hl
    rw [hl] at hd
    obtain ⟨rfl, -⟩ := Prod.mk.inj hd
    exact numeral?_append hl (hn _ rfl)
  unfold first at h
  split at h
  case h_10 cs => exact ofParts?_append h hb fun pieces hp => pieces?_append hp
  case h_11 cs => exact hnumber h
  case h_12 =>
    cases hl : numeral? false cs with
    | none =>
      rw [hl] at h
      exact absurd (Prod.mk.inj h).1.symm hb
    | some l =>
      obtain ⟨c, ds, rfl, hc⟩ := head_numeral? hl
      rw [List.cons_append, first_digit hc]
      exact hnumber h
  all_goals
    obtain ⟨rfl, rfl⟩ := Prod.mk.inj h
    rfl

end Token

theorem tokens_of_space (h : cs.dropWhile isSpace = []) : tokens cs = [] := by
  rw [tokens]
  split
  · rfl
  next hd => rw [h] at hd; cases hd

theorem tokens_of_first {c : Char} (h : cs.dropWhile isSpace = c :: r) :
    tokens cs = (Token.first (c :: r)).1 :: tokens (Token.first (c :: r)).2 := by
  rw [tokens]
  split
  next hd => rw [h] at hd; cases hd
  next hd =>
    obtain ⟨rfl, rfl⟩ := List.cons.inj (h.symm.trans hd)
    rfl

theorem tokens_cons {c : Char} {t : Token} (hs : isSpace c = false)
    (h : Token.first (c :: cs) = (t, r)) : tokens (c :: cs) = t :: tokens r := by
  have hd : (c :: cs).dropWhile isSpace = c :: cs := by simp [hs]
  rw [tokens_of_first hd, h]

theorem tokens_openArray : tokens ('[' :: rest) = .openArray :: tokens rest :=
  tokens_cons rfl rfl

theorem tokens_closeArray : tokens (']' :: rest) = .closeArray :: tokens rest :=
  tokens_cons rfl rfl

theorem tokens_openObject : tokens ('\x7b' :: rest) = .openObject :: tokens rest :=
  tokens_cons rfl rfl

theorem tokens_closeObject : tokens ('\x7d' :: rest) = .closeObject :: tokens rest :=
  tokens_cons rfl rfl

theorem tokens_comma : tokens (',' :: rest) = .comma :: tokens rest :=
  tokens_cons rfl rfl

theorem tokens_colon : tokens (':' :: rest) = .colon :: tokens rest :=
  tokens_cons rfl rfl

theorem tokens_congr {ds : List Char} (h : cs.dropWhile isSpace = ds.dropWhile isSpace) :
    tokens cs = tokens ds := by
  cases hd : ds.dropWhile isSpace with
  | nil => rw [tokens_of_space (h.trans hd), tokens_of_space hd]
  | cons d ds => rw [tokens_of_first (h.trans hd), tokens_of_first hd]

theorem tokens_append (hb : .broken ∉ tokens cs)
    (hn : (∀ n, (tokens cs).getLast? ≠ some (.number n)) ∨ Bounds rest) :
    tokens (cs ++ rest) = tokens cs ++ tokens rest := by
  induction cs using tokens.induct with
  | case1 cs hd =>
    rw [tokens_of_space hd]
    apply tokens_congr
    rw [List.dropWhile_append, hd]
    rfl
  | case2 cs c r hd ih =>
    have happend : (cs ++ rest).dropWhile isSpace = c :: (r ++ rest) := by
      rw [List.dropWhile_append, hd]
      rfl
    rw [tokens_of_first hd] at hb hn
    obtain ⟨t, r', ht⟩ : ∃ t r', Token.first (c :: r) = (t, r') := ⟨_, _, rfl⟩
    rw [ht] at hb hn ih
    rw [List.mem_cons, not_or] at hb
    have hlast : ∀ n, t = .number n → r' ≠ [] ∨ Bounds rest := by
      rintro n rfl
      refine hn.imp_left fun hne => ?_
      rintro rfl
      have hnil : tokens [] = [] := tokens_of_space rfl
      exact hne n (by rw [hnil]; rfl)
    have hrest : (∀ n, (tokens r').getLast? ≠ some (.number n)) ∨ Bounds rest := by
      refine hn.imp_left fun hne n hr => hne n ?_
      rw [List.getLast?_cons, hr]
      rfl
    have hfirst : Token.first (c :: r ++ rest) = (t, r' ++ rest) :=
      Token.first_append ht (Ne.symm hb.1) hlast
    rw [tokens_of_first hd, tokens_of_first happend, ← List.cons_append, hfirst, ht]
    exact congrArg (t :: ·) (ih hb.2 hrest)

end ContractTypings.Json
