import ContractTypings.EvmType.Lexeme
import ContractTypings.Proofs.TextParts
import Mathlib

namespace ContractTypings

mutual

theorem EvmType.foldl_read (ps : List Param) (levels : List (List Param)) : (t : EvmType) →
    t.lexemes.foldl Lexeme.read (ps :: levels) = (⟨none, t.erased, false⟩ :: ps) :: levels
  | .elementary type => rfl
  | .array item size => by
    rw [EvmType.lexemes, List.foldl_append, item.foldl_read]
    rfl
  | .tuple components => by
    rw [EvmType.lexemes, List.foldl_cons, List.foldl_append, Lexeme.read,
      foldl_read_kindLexemes [] (ps :: levels) components]
    simp [Lexeme.read, EvmType.erased]
  | .unknown raw => rfl

theorem Param.foldl_read (ps : List Param) (levels : List (List Param)) : (p : Param) →
    p.kindLexemes.foldl Lexeme.read (ps :: levels) = (p.erased :: ps) :: levels
  | ⟨_, kind, _⟩ => kind.foldl_read ps levels

theorem foldl_read_kindLexemes (ps : List Param) (levels : List (List Param)) :
    (qs : List Param) → (kindLexemes qs).foldl Lexeme.read (ps :: levels) =
      ((erasedParams qs).reverse ++ ps) :: levels
  | [] => rfl
  | q :: qs => by
    rw [kindLexemes, List.foldl_append, q.foldl_read, foldl_read_kindLexemes _ levels qs,
      erasedParams, List.reverse_cons, List.append_assoc, List.singleton_append]

end

theorem erasedParams_of_kindLexemes {ps qs : List Param} (h : kindLexemes ps = kindLexemes qs) :
    erasedParams ps = erasedParams qs := by
  have hp := foldl_read_kindLexemes [] [] ps
  rw [h, foldl_read_kindLexemes [] [] qs] at hp
  simpa using hp.symm

mutual

theorem EvmType.text_erased : (t : EvmType) → t.erased.text = t.text
  | .elementary type => rfl
  | .array item size => by rw [EvmType.erased, EvmType.text, item.text_erased, EvmType.text]
  | .tuple components => by
    rw [EvmType.erased, EvmType.text, kindTexts_erasedParams components, EvmType.text]
  | .unknown raw => rfl

theorem Param.kindText_erased : (p : Param) → p.erased.kindText = p.kindText
  | ⟨_, kind, _⟩ => kind.text_erased

theorem kindTexts_erasedParams : (ps : List Param) → kindTexts (erasedParams ps) = kindTexts ps
  | [] => rfl
  | p :: ps => by
    rw [erasedParams, kindTexts, p.kindText_erased, kindTexts_erasedParams ps, kindTexts]

end

mutual

theorem EvmType.lexemes_erased : (t : EvmType) → t.erased.lexemes = t.lexemes
  | .elementary type => rfl
  | .array item size => by
    rw [EvmType.erased, EvmType.lexemes, item.lexemes_erased, EvmType.lexemes]
  | .tuple components => by
    rw [EvmType.erased, EvmType.lexemes, kindLexemes_erasedParams components, EvmType.lexemes]
  | .unknown raw => rfl

theorem Param.kindLexemes_erased : (p : Param) → p.erased.kindLexemes = p.kindLexemes
  | ⟨_, kind, _⟩ => kind.lexemes_erased

theorem kindLexemes_erasedParams :
    (ps : List Param) → kindLexemes (erasedParams ps) = kindLexemes ps
  | [] => rfl
  | p :: ps => by
    rw [erasedParams, kindLexemes, p.kindLexemes_erased, kindLexemes_erasedParams ps, kindLexemes]

end

mutual

theorem EvmType.toList_symbol : (t : EvmType) →
    '_' :: t.symbol.toList = t.lexemes.flatMap fun l => '_' :: l.word.toList
  | .elementary type => by simp [EvmType.symbol, EvmType.lexemes, Lexeme.word]
  | .array item size => by
    rw [EvmType.symbol, EvmType.lexemes, List.flatMap_append, ← item.toList_symbol]
    simp [Lexeme.word]
  | .tuple components => by
    rw [EvmType.symbol, EvmType.lexemes, List.flatMap_cons, List.flatMap_append,
      ← toList_kindSymbols components]
    simp [Lexeme.word]
  | .unknown raw => by simp [EvmType.symbol, EvmType.lexemes, Lexeme.word]

theorem Param.toList_kindSymbol : (p : Param) →
    '_' :: p.kindSymbol.toList = p.kindLexemes.flatMap fun l => '_' :: l.word.toList
  | ⟨_, kind, _⟩ => kind.toList_symbol

theorem toList_kindSymbols : (ps : List Param) →
    (kindSymbols ps).toList = (kindLexemes ps).flatMap fun l => '_' :: l.word.toList
  | [] => rfl
  | p :: ps => by
    rw [kindLexemes, List.flatMap_append, ← p.toList_kindSymbol, ← toList_kindSymbols ps]
    simp [kindSymbols]

end

def Lexeme.IsKnown (l : Lexeme) : Prop := ∀ raw, l ≠ .unknown raw

theorem Lexeme.isKnown_elementary (type : Elementary) : (elementary type).IsKnown := by
  simp [IsKnown]

theorem Lexeme.isKnown_array (size : Option Nat) : (array size).IsKnown := by simp [IsKnown]

theorem Lexeme.isKnown_opening : opening.IsKnown := by simp [IsKnown]

theorem Lexeme.isKnown_closing : closing.IsKnown := by simp [IsKnown]

mutual

theorem EvmType.isKnown_lexemes : (t : EvmType) → t.unknowns = [] → ∀ l ∈ t.lexemes, l.IsKnown
  | .elementary type, _ => List.forall_mem_singleton.mpr (Lexeme.isKnown_elementary type)
  | .array item size, h => by
    intro l hl
    rcases List.mem_append.mp hl with hl | hl
    · exact item.isKnown_lexemes h l hl
    · obtain rfl := List.mem_singleton.mp hl
      exact Lexeme.isKnown_array size
  | .tuple components, h => by
    intro l hl
    rcases List.mem_cons.mp hl with rfl | hl
    · exact Lexeme.isKnown_opening
    · rcases List.mem_append.mp hl with hl | hl
      · exact isKnown_kindLexemes components h l hl
      · obtain rfl := List.mem_singleton.mp hl
        exact Lexeme.isKnown_closing
  | .unknown raw, h => by cases h

theorem Param.isKnown_kindLexemes :
    (p : Param) → p.unknowns = [] → ∀ l ∈ p.kindLexemes, l.IsKnown
  | ⟨_, kind, _⟩, h => kind.isKnown_lexemes h

theorem isKnown_kindLexemes :
    (ps : List Param) → unknownKinds ps = [] → ∀ l ∈ kindLexemes ps, l.IsKnown
  | [], _ => List.forall_mem_nil _
  | p :: ps, h => by
    obtain ⟨hp, hps⟩ := List.append_eq_nil_iff.mp h
    intro l hl
    rcases List.mem_append.mp hl with hl | hl
    · exact p.isKnown_kindLexemes hp l hl
    · exact isKnown_kindLexemes ps hps l hl

end

section Word

variable {l m : Lexeme} {c : Char}

def Elementary.initials : Elementary → Char × Char
  | .int _ => ('i', 'n')
  | .uint _ => ('u', 'i')
  | .address => ('a', 'd')
  | .bool => ('b', 'o')
  | .string => ('s', 't')
  | .fixedBytes _ | .bytes => ('b', 'y')
  | .function => ('f', 'u')

theorem Elementary.exists_toList_text (type : Elementary) :
    ∃ rest, type.text.toList = type.initials.1 :: type.initials.2 :: rest := by
  cases type with
  | int bits => exact ⟨'t' :: (toString bits).toList, by simp [text, initials]⟩
  | uint bits => exact ⟨'n' :: 't' :: (toString bits).toList, by simp [text, initials]⟩
  | fixedBytes size =>
    exact ⟨'t' :: 'e' :: 's' :: (toString size).toList, by simp [text, initials]⟩
  | _ => exact ⟨_, rfl⟩

theorem Elementary.initials_eq {type : Elementary} {a b : Char} {rest : List Char}
    (h : type.text.toList = a :: b :: rest) : type.initials = (a, b) := by
  obtain ⟨rest', hr⟩ := type.exists_toList_text
  rw [h] at hr
  obtain ⟨ha, hr⟩ := List.cons.inj hr
  exact (Prod.ext ha (List.cons.inj hr).1).symm

theorem Elementary.text_injective {a b : Elementary} (h : a.text = b.text) : a = b := by
  have hc : a.text.toList = b.text.toList := congrArg String.toList h
  obtain ⟨rest, hb⟩ := b.exists_toList_text
  have hi : a.initials = b.initials := initials_eq (hc.trans hb)
  cases a <;> cases b <;> simp [initials] at hi ⊢
  case int.int => exact Nat.repr_injective ((String.append_right_inj _).mp h)
  case uint.uint => exact Nat.repr_injective ((String.append_right_inj _).mp h)
  case fixedBytes.fixedBytes => exact Nat.repr_injective ((String.append_right_inj _).mp h)
  -- a size tells the bytes of a fixed number from the others
  all_goals simp [text] at hc

theorem sizeText_injective {a b : Option Nat} (h : sizeText a = sizeText b) : a = b := by
  match a, b with
  | none, none => rfl
  | some m, some n => exact congrArg some (Nat.repr_injective h)
  | none, some n => exact absurd h.symm (by simp [sizeText])
  | some m, none => exact absurd h (by simp [sizeText])

theorem Lexeme.eq_elementary {type : Elementary} (hl : l.IsKnown) (h : l.word = type.text) :
    l = .elementary type := by
  have hc : type.text.toList = l.word.toList := congrArg String.toList h.symm
  cases l with
  | elementary other => rw [Elementary.text_injective h]
  | unknown raw => exact absurd rfl (hl raw)
  | array size =>
    have hi : type.initials = ('a', 'r') := Elementary.initials_eq (hc.trans (by
      rw [word, String.toList_append]
      rfl))
    cases type <;> simp [Elementary.initials] at hi
  | opening =>
    have hi : type.initials = ('t', 'u') := Elementary.initials_eq hc
    cases type <;> simp [Elementary.initials] at hi
  | closing =>
    have hi : type.initials = ('e', 'n') := Elementary.initials_eq hc
    cases type <;> simp [Elementary.initials] at hi

theorem Lexeme.word_injective (hl : l.IsKnown) (hm : m.IsKnown) (h : l.word = m.word) : l = m := by
  have hc : l.word.toList = m.word.toList := congrArg String.toList h
  cases m with
  | elementary type => exact eq_elementary hl h
  | unknown raw => exact absurd rfl (hm raw)
  | array size =>
    cases l with
    | elementary type => exact (eq_elementary hm h.symm).symm
    | unknown raw => exact absurd rfl (hl raw)
    | array other => rw [sizeText_injective ((String.append_right_inj _).mp h)]
    | opening => simp [word] at hc
    | closing => simp [word] at hc
  | opening =>
    cases l with
    | elementary type => exact (eq_elementary hm h.symm).symm
    | unknown raw => exact absurd rfl (hl raw)
    | array other => simp [word] at hc
    | opening => rfl
    | closing => simp [word] at hc
  | closing =>
    cases l with
    | elementary type => exact (eq_elementary hm h.symm).symm
    | unknown raw => exact absurd rfl (hl raw)
    | array other => simp [word] at hc
    | opening => simp [word] at hc
    | closing => rfl

theorem Lexeme.words_injective {ls ms : List Lexeme} (hl : ∀ l ∈ ls, l.IsKnown)
    (hm : ∀ m ∈ ms, m.IsKnown)
    (h : (ls.map fun l => l.word.toList) = ms.map fun m => m.word.toList) : ls = ms := by
  induction ls generalizing ms with
  | nil => exact (List.map_eq_nil_iff.mp h.symm).symm
  | cons l ls ih =>
    cases ms with
    | nil => cases h
    | cons m ms =>
      obtain ⟨hl, hls⟩ := List.forall_mem_cons.mp hl
      obtain ⟨hm, hms⟩ := List.forall_mem_cons.mp hm
      obtain ⟨hw, hws⟩ := List.cons.inj h
      rw [word_injective hl hm (String.toList_inj.mp hw), ih hls hms hws]

def IsAlphanumeric (s : String) : Prop := ∀ c ∈ s.toList, c.isAlphanum = true

instance (s : String) : Decidable (IsAlphanumeric s) :=
  decidable_of_iff (s.toList.all Char.isAlphanum = true) List.all_eq_true

theorem IsAlphanumeric.append {s t : String} (hs : IsAlphanumeric s) (ht : IsAlphanumeric t) :
    IsAlphanumeric (s ++ t) := by
  intro c hc
  rw [String.toList_append] at hc
  exact (List.mem_append.mp hc).elim (hs c) (ht c)

theorem isAlphanumeric_toString (n : ℕ) : IsAlphanumeric (toString n) := by
  intro c hc
  simp [Char.isAlphanum, isDigit_of_mem_toString hc]

theorem isAlphanumeric_sizeText (size : Option Nat) : IsAlphanumeric (sizeText size) := by
  cases size with
  | none => simp [IsAlphanumeric, sizeText]
  | some n => exact isAlphanumeric_toString n

theorem Elementary.isAlphanumeric_text (type : Elementary) : IsAlphanumeric type.text := by
  cases type with
  | int bits => exact IsAlphanumeric.append (by decide) (isAlphanumeric_toString bits)
  | uint bits => exact IsAlphanumeric.append (by decide) (isAlphanumeric_toString bits)
  | fixedBytes size => exact IsAlphanumeric.append (by decide) (isAlphanumeric_toString size)
  | address | bool | string | bytes | function => decide

theorem Elementary.text_ne_nil (type : Elementary) : type.text.toList ≠ [] := by
  cases type <;> simp [text]

theorem Lexeme.isAlphanumeric_word (hl : l.IsKnown) : IsAlphanumeric l.word := by
  cases l with
  | elementary type => exact type.isAlphanumeric_text
  | unknown raw => exact absurd rfl (hl raw)
  | array size => exact IsAlphanumeric.append (by decide) (isAlphanumeric_sizeText size)
  | opening | closing => decide

theorem Lexeme.word_ne_nil (hl : l.IsKnown) : l.word.toList ≠ [] := by
  cases l with
  | elementary type => exact type.text_ne_nil
  | unknown raw => exact absurd rfl (hl raw)
  | array size => simp [word]
  | opening | closing => decide

theorem Lexeme.isSymbolChar_of_mem_word (h : c ∈ l.word.toList) :
    c.isAlphanum = true ∨ c = '_' := by
  by_cases hl : l.IsKnown
  · exact Or.inl (isAlphanumeric_word hl c h)
  · obtain ⟨raw, rfl⟩ : ∃ raw, l = .unknown raw := by simpa [IsKnown] using hl
    rw [word, wordChars, String.toList_map] at h
    obtain ⟨d, -, rfl⟩ := List.mem_map.mp h
    split
    next hd => exact Or.inl hd
    · exact Or.inr rfl

end Word

section Words

def words (cs : List Char) : List (List Char) := (cs.splitOn '_').filter (· ≠ [])

theorem words_nil : words [] = [] := by simp [words]

theorem words_append (as bs : List Char) : words (as ++ '_' :: bs) = words as ++ words bs := by
  rw [words, List.splitOn_append_cons_self, List.filter_append]
  rfl

theorem words_cons (bs : List Char) : words ('_' :: bs) = words bs := words_append [] bs

theorem words_singleton {cs : List Char} (hn : cs ≠ []) (h : '_' ∉ cs) : words cs = [cs] := by
  rw [words, List.splitOn_eq_singleton h]
  simp [hn]

theorem IsAlphanumeric.underscore_not_mem {s : String} (h : IsAlphanumeric s) :
    '_' ∉ s.toList := by
  intro hm
  exact absurd (h _ hm) (by decide)

theorem words_word {l : Lexeme} (hl : l.IsKnown) : words l.word.toList = [l.word.toList] :=
  words_singleton (Lexeme.word_ne_nil hl) (Lexeme.isAlphanumeric_word hl).underscore_not_mem

theorem words_flatMap {ls : List Lexeme} (h : ∀ l ∈ ls, l.IsKnown) (cs : List Char) :
    words (cs ++ ls.flatMap fun l => '_' :: l.word.toList) =
      words cs ++ ls.map fun l => l.word.toList := by
  induction ls generalizing cs with
  | nil => simp
  | cons l ls ih =>
    obtain ⟨hl, hls⟩ := List.forall_mem_cons.mp h
    rw [List.flatMap_cons, List.cons_append, words_append, ih hls, words_word hl]
    rfl

theorem words_kindSymbols {ps : List Param} (h : unknownKinds ps = []) :
    words (kindSymbols ps).toList = (kindLexemes ps).map fun l => l.word.toList := by
  rw [toList_kindSymbols]
  exact words_flatMap (isKnown_kindLexemes ps h) []

/-- What stands in symbols in place of a character of signatures, with more underscores. -/
def spread : Char → List Char
  | '(' => "_tuple_".toList
  | ')' => "_end_".toList
  | '[' => "_array".toList
  | ']' => ['_']
  | ',' => ['_']
  | c => [c]

theorem flatMap_spread {s : String} (h : IsAlphanumeric s) :
    s.toList.flatMap spread = s.toList := by
  have hc : ∀ c ∈ s.toList, spread c = [c] := by
    intro c hc
    have ha : c.isAlphanum = true := h c hc
    unfold spread
    split
    case h_6 => rfl
    all_goals exact absurd ha (by decide)
  rw [List.flatMap_congr hc, List.flatMap_singleton']

theorem EvmType.flatMap_spread_array (item : EvmType) (size : Option Nat) :
    (array item size).text.toList.flatMap spread =
      item.text.toList.flatMap spread ++
        '_' :: ((Lexeme.array size).word.toList ++ '_' :: []) := by
  simp only [text, Lexeme.word, String.toList_append, List.flatMap_append, List.append_assoc,
    flatMap_spread (isAlphanumeric_sizeText size)]
  rfl

theorem EvmType.flatMap_spread_tuple (components : List Param) :
    (tuple components).text.toList.flatMap spread =
      '_' :: (Lexeme.opening.word.toList ++ '_' ::
        ((",".intercalate (kindTexts components)).toList.flatMap spread ++
          '_' :: (Lexeme.closing.word.toList ++ '_' :: []))) := by
  simp only [text, String.toList_append, List.flatMap_append, List.append_assoc]
  rfl

theorem flatMap_spread_kindTexts (p q : Param) (ps : List Param) :
    (",".intercalate (kindTexts (p :: q :: ps))).toList.flatMap spread =
      p.kindText.toList.flatMap spread ++
        '_' :: (",".intercalate (kindTexts (q :: ps))).toList.flatMap spread := by
  have hc : ",".intercalate (kindTexts (p :: q :: ps)) =
      p.kindText ++ "," ++ ",".intercalate (kindTexts (q :: ps)) := by
    rw [kindTexts, kindTexts, String.intercalate_cons_cons]
  rw [hc]
  simp only [String.toList_append, List.flatMap_append, List.append_assoc]
  rfl

mutual

theorem EvmType.words_text : (t : EvmType) → t.unknowns = [] →
    words (t.text.toList.flatMap spread) = t.lexemes.map fun l => l.word.toList
  | .elementary type, _ => by
    rw [EvmType.text, flatMap_spread type.isAlphanumeric_text]
    have hw : words (Lexeme.elementary type).word.toList = [(Lexeme.elementary type).word.toList] :=
      words_word (Lexeme.isKnown_elementary type)
    exact hw
  | .array item size, h => by
    rw [EvmType.flatMap_spread_array, words_append, item.words_text h, words_append,
      words_word (Lexeme.isKnown_array size), words_nil, EvmType.lexemes, List.map_append]
    rfl
  | .tuple components, h => by
    rw [EvmType.flatMap_spread_tuple, words_cons, words_append,
      words_word Lexeme.isKnown_opening, words_append, words_kindTexts components h, words_append,
      words_word Lexeme.isKnown_closing, words_nil, EvmType.lexemes, List.map_cons, List.map_append]
    rfl
  | .unknown raw, h => by cases h

theorem Param.words_kindText : (p : Param) → p.unknowns = [] →
    words (p.kindText.toList.flatMap spread) = p.kindLexemes.map fun l => l.word.toList
  | ⟨_, kind, _⟩, h => kind.words_text h

theorem words_kindTexts : (ps : List Param) → unknownKinds ps = [] →
    words ((",".intercalate (kindTexts ps)).toList.flatMap spread) =
      (kindLexemes ps).map fun l => l.word.toList
  | [], _ => words_nil
  | [p], h => by
    rw [kindTexts, kindTexts, String.intercalate_singleton, kindLexemes, kindLexemes,
      List.append_nil]
    exact p.words_kindText (List.append_eq_nil_iff.mp h).1
  | p :: q :: ps, h => by
    obtain ⟨hp, hps⟩ := List.append_eq_nil_iff.mp h
    rw [flatMap_spread_kindTexts, words_append, p.words_kindText hp, words_kindTexts (q :: ps) hps,
      kindLexemes.eq_2 p (q :: ps), List.map_append]

end

end Words

section Signatures

variable {ps qs : List Param}

theorem signature_eq_iff (name : String) (hp : unknownKinds ps = []) (hq : unknownKinds qs = []) :
    signature name ps = signature name qs ↔ erasedParams ps = erasedParams qs := by
  constructor
  · intro h
    have ht : ",".intercalate (kindTexts ps) = ",".intercalate (kindTexts qs) := by
      rw [signature, signature, String.append_left_inj] at h
      exact (String.append_right_inj _).mp h
    apply erasedParams_of_kindLexemes
    apply Lexeme.words_injective (isKnown_kindLexemes ps hp) (isKnown_kindLexemes qs hq)
    rw [← words_kindTexts ps hp, ← words_kindTexts qs hq, ht]
  · intro h
    rw [signature, signature, ← kindTexts_erasedParams ps, h, kindTexts_erasedParams]

theorem signatureSymbol_eq_iff (name : String) (hp : unknownKinds ps = [])
    (hq : unknownKinds qs = []) :
    signatureSymbol name ps = signatureSymbol name qs ↔ erasedParams ps = erasedParams qs := by
  constructor
  · intro h
    have hs : kindSymbols ps = kindSymbols qs := (String.append_right_inj name).mp h
    apply erasedParams_of_kindLexemes
    apply Lexeme.words_injective (isKnown_kindLexemes ps hp) (isKnown_kindLexemes qs hq)
    rw [← words_kindSymbols hp, ← words_kindSymbols hq, hs]
  · intro h
    have hl : kindLexemes ps = kindLexemes qs := by
      rw [← kindLexemes_erasedParams ps, h, kindLexemes_erasedParams]
    have hs : kindSymbols ps = kindSymbols qs := by
      rw [← String.toList_inj, toList_kindSymbols, hl, toList_kindSymbols]
    rw [signatureSymbol, hs, signatureSymbol]

theorem isSymbolChar_kindSymbols (ps : List Param) :
    ∀ c ∈ (kindSymbols ps).toList, c.isAlphanum = true ∨ c = '_' := by
  intro c hc
  rw [toList_kindSymbols] at hc
  obtain ⟨l, -, hl⟩ := List.mem_flatMap.mp hc
  rcases List.mem_cons.mp hl with rfl | hl
  · exact Or.inr rfl
  · exact Lexeme.isSymbolChar_of_mem_word hl

end Signatures

/-- The symbol of a signature adds letters, digits and underscores to the name, of whatever types it
is. Of types that are understood it loses nothing that the signature says: both are the same just
for the same types, but for the names and flags in them. -/
theorem signatureSymbol_tells_types (name : String) :
    (∀ ps qs, unknownKinds ps = [] → unknownKinds qs = [] →
      (signatureSymbol name ps = signatureSymbol name qs ↔ signature name ps = signature name qs) ∧
      (signature name ps = signature name qs ↔ erasedParams ps = erasedParams qs)) ∧
    ∀ ps, ∃ rest, signatureSymbol name ps = name ++ rest ∧
      ∀ c ∈ rest.toList, c.isAlphanum = true ∨ c = '_' := by
  constructor
  · intro ps qs hp hq
    have hs := signature_eq_iff name hp hq
    exact ⟨(signatureSymbol_eq_iff name hp hq).trans hs.symm, hs⟩
  · intro ps
    exact ⟨kindSymbols ps, rfl, isSymbolChar_kindSymbols ps⟩

theorem signatureSymbol_tells_types_tuples : ∃ ps qs rs : List Param,
    unknownKinds ps = [] ∧ unknownKinds qs = [] ∧ unknownKinds rs = [] ∧
    signature "f" ps = "f((address,()[][2])[],uint8)" ∧
    signature "f" qs = "f((address,()[][2],uint8)[])" ∧
    signatureSymbol "f" ps ≠ signatureSymbol "f" qs ∧
    ps ≠ rs ∧ signatureSymbol "f" ps = signatureSymbol "f" rs := by
  let address : Param := ⟨some "to", .elementary .address, true⟩
  let grid : Param := ⟨none, .array (.array (.tuple []) none) (some 2), false⟩
  let byte : Param := ⟨some "b", .elementary (.uint 8), false⟩
  let ps : List Param := [⟨none, .array (.tuple [address, grid]) none, false⟩, byte]
  let qs : List Param := [⟨none, .array (.tuple [address, grid, byte]) none, false⟩]
  let rs : List Param := [⟨some "xs", .array (.tuple [address.erased, grid]) none, true⟩, byte]
  have hp : unknownKinds ps = [] := rfl
  have hq : unknownKinds qs = [] := rfl
  have hr : unknownKinds rs = [] := rfl
  obtain ⟨hpq, hpq'⟩ := (signatureSymbol_tells_types "f").1 ps qs hp hq
  obtain ⟨hpr, hpr'⟩ := (signatureSymbol_tells_types "f").1 ps rs hp hr
  refine ⟨ps, qs, rs, hp, hq, hr, by decide, by decide, ?_, by decide, ?_⟩
  · rw [ne_eq, hpq, hpq']
    decide
  · rw [hpr, hpr']
    rfl

end ContractTypings
