import ContractTypings.Json.Value
import ContractTypings.Proofs.TokenText
import Mathlib.Tactic.SplitIfs

namespace ContractTypings.Json

variable {cs rest : List Char}

def Piece.Means (p : Piece) (c : Char) : Prop :=
  ∀ found ps, join? found (p :: ps) = join? (c :: found) ps

theorem Piece.means_char (c : Char) : (Piece.char c).Means c := by
  intro found ps
  rw [join?]

theorem Piece.means_unit {c : Char} (h : c.toNat < 32) : (Piece.unit c.toNat).Means c := by
  intro found ps
  have hl : isLeading c.toNat = false := by
    have hlow : ¬ 0xD800 ≤ c.toNat := by omega
    rw [isLeading, decide_eq_false hlow, Bool.false_and]
  have ht : isTrailing c.toNat = false := by
    have hlow : ¬ 0xDC00 ≤ c.toNat := by omega
    rw [isTrailing, decide_eq_false hlow, Bool.false_and]
  match ps with
  | [] => simp [join?, hl, ht]
  | .char d :: ps => simp [join?, hl, ht]
  | .unit m :: ps => simp [join?, hl, ht]

theorem hexWord?_digitChar {n : Nat} (h : n < 32) :
    hexWord? '0' '0' (Nat.digitChar (n / 16)) (Nat.digitChar (n % 16)) = some n := by
  revert n
  decide

theorem exists_piece (c : Char) : ∃ p : Piece, p.Means c ∧
    ∀ found rest, pieces? found (escapeChar c ++ rest) = pieces? (p :: found) rest := by
  have hshort : ∀ d e, simpleEscape? d = some e → ∃ p : Piece, p.Means e ∧
      ∀ found rest, pieces? found (['\\', d] ++ rest) = pieces? (p :: found) rest :=
    fun d e h => ⟨.char e, Piece.means_char e, fun found rest => pieces?_simple h found⟩
  unfold escapeChar
  split_ifs with hq hb hbs hff hnl hcr htab hcode
  · subst hq
    exact hshort _ _ rfl
  · subst hb
    exact hshort _ _ rfl
  · subst hbs
    exact hshort _ _ rfl
  · subst hff
    exact hshort _ _ rfl
  · subst hnl
    exact hshort _ _ rfl
  · subst hcr
    exact hshort _ _ rfl
  · subst htab
    exact hshort _ _ rfl
  · refine ⟨.unit c.toNat, Piece.means_unit hcode, fun found rest => ?_⟩
    simp only [List.cons_append, List.nil_append]
    rw [pieces?, hexWord?_digitChar hcode]
  · exact ⟨.char c, Piece.means_char c, fun found rest => pieces?_bare hq hb hcode found⟩

theorem exists_pieces (cs : List Char) : ∃ ps,
    (∀ found rest, pieces? found (cs.flatMap escapeChar ++ '"' :: rest) =
      some (found.reverse ++ ps, rest)) ∧
    ∀ found, join? found ps = some (found.reverse ++ cs) := by
  induction cs with
  | nil => exact ⟨[], fun found rest => by simp [pieces?], fun found => by simp [join?]⟩
  | cons c cs ih =>
    obtain ⟨p, hmeans, hp⟩ := exists_piece c
    obtain ⟨ps, hps, hjoin⟩ := ih
    refine ⟨p :: ps, ?_, ?_⟩
    · intro found rest
      rw [List.flatMap_cons, List.append_assoc, hp, hps, List.reverse_cons, List.append_assoc]
      rfl
    · intro found
      rw [hmeans, hjoin, List.reverse_cons, List.append_assoc]
      rfl

theorem tokens_stringText (s : String) (rest : List Char) :
    tokens ((stringText s).toList ++ rest) = .string (some s) :: tokens rest := by
  obtain ⟨ps, hps, hjoin⟩ := exists_pieces s.toList
  have hchars : (stringText s).toList ++ rest =
      '"' :: (s.toList.flatMap escapeChar ++ '"' :: rest) := by
    simp [stringText]
  have hfirst : Token.first ('"' :: (s.toList.flatMap escapeChar ++ '"' :: rest)) =
      (.string (some s), rest) := by
    rw [Token.first, hps]
    simp [Token.ofParts?, hjoin]
  rw [hchars, tokens_cons rfl hfirst]

namespace Value

/-- Where a value is to come, the text of this one is read as its tree, whatever follows it. -/
def IsRead (v : Value) : Prop :=
  ∀ frames first rest,
    (tokens (v.text.toList ++ rest)).foldl Reading.step (.atValue frames first) =
      (tokens rest).foldl Reading.step (.afterValue frames v.tree)

theorem isRead_null : IsRead .null := by
  intro frames first rest
  have htokens : tokens ("null".toList ++ rest) = .null :: tokens rest :=
    tokens_cons rfl (Token.first.eq_7 _)
  rw [text, htokens, List.foldl_cons, Reading.step, tree]

theorem isRead_bool (b : Bool) : IsRead (.bool b) := by
  intro frames first rest
  have htokens : tokens ((toString b).toList ++ rest) = .bool b :: tokens rest := by
    cases b with
    | true => exact tokens_cons rfl (Token.first.eq_8 _)
    | false => exact tokens_cons rfl (Token.first.eq_9 _)
  rw [text, htokens, List.foldl_cons, Reading.step, tree]

theorem isRead_string (s : String) : IsRead (.string s) := by
  intro frames first rest
  rw [text, tokens_stringText, List.foldl_cons, Reading.step, tree]

theorem foldl_elements {v : Value} {vs : List Value} (h : ∀ w ∈ v :: vs, w.IsRead)
    (frames : List Frame) (done : List Tree) (first : Bool) (rest : List Char) :
    (tokens ((",".intercalate (elementTexts (v :: vs))).toList ++ ']' :: rest)).foldl
        Reading.step (.atValue (.array done :: frames) first) =
      (tokens rest).foldl Reading.step
        (.afterValue frames (.array (Elements.prepend done (elementTrees (v :: vs))))) := by
  obtain ⟨hv, hvs⟩ := List.forall_mem_cons.mp h
  induction vs generalizing v done first with
  | nil =>
    have htext : ",".intercalate (elementTexts [v]) = v.text := by
      simp only [elementTexts, String.intercalate_singleton]
    rw [htext, hv, tokens_closeArray, List.foldl_cons, Reading.step, elementTrees, elementTrees]
  | cons w ws ih =>
    have htext : (",".intercalate (elementTexts (v :: w :: ws))).toList ++ ']' :: rest =
        v.text.toList ++ ',' :: ((",".intercalate (elementTexts (w :: ws))).toList ++
          ']' :: rest) := by
      simp only [elementTexts, String.intercalate_cons_cons, String.toList_append]
      simp
    have htrees : elementTrees (v :: w :: ws) = .cons v.tree (elementTrees (w :: ws)) := by
      rw [elementTrees]
    obtain ⟨hw, hws⟩ := List.forall_mem_cons.mp hvs
    rw [htext, hv, tokens_comma, List.foldl_cons, Reading.step, ih hvs _ _ hw hws, htrees,
      Elements.prepend]

theorem isRead_array {vs : List Value} (h : ∀ v ∈ vs, v.IsRead) : IsRead (.array vs) := by
  intro frames first rest
  cases vs with
  | nil =>
    have htext : (text (.array [])).toList ++ rest = '[' :: ']' :: rest := by
      simp [text, elementTexts]
    rw [htext, tokens_openArray, tokens_closeArray, List.foldl_cons, List.foldl_cons, Reading.step,
      Reading.step, tree, elementTrees, Elements.prepend]
  | cons v vs =>
    have htext : (text (.array (v :: vs))).toList ++ rest =
        '[' :: ((",".intercalate (elementTexts (v :: vs))).toList ++ ']' :: rest) := by
      simp [text]
    rw [htext, tokens_openArray, List.foldl_cons, Reading.step, foldl_elements h, tree,
      Elements.prepend]

theorem foldl_member {key : String} {v : Value} (h : v.IsRead) (frames : List Frame)
    (done : List (Option String × Tree)) (first : Bool) (rest : List Char) :
    (tokens ((stringText key ++ ":" ++ v.text).toList ++ rest)).foldl Reading.step
        (.atKey frames done first) =
      (tokens rest).foldl Reading.step
        (.afterValue (.object done (some key) :: frames) v.tree) := by
  have hchars : (stringText key ++ ":" ++ v.text).toList ++ rest =
      (stringText key).toList ++ ':' :: (v.text.toList ++ rest) := by
    simp
  rw [hchars, tokens_stringText, tokens_colon, List.foldl_cons, List.foldl_cons, Reading.step,
    Reading.step, h]

theorem foldl_members {m : String × Value} {ms : List (String × Value)}
    (h : ∀ n ∈ m :: ms, n.2.IsRead) (frames : List Frame) (done : List (Option String × Tree))
    (first : Bool) (rest : List Char) :
    (tokens ((",".intercalate (memberTexts (m :: ms))).toList ++ '\x7d' :: rest)).foldl
        Reading.step (.atKey frames done first) =
      (tokens rest).foldl Reading.step
        (.afterValue frames (.object (Members.prepend done (memberTrees (m :: ms))))) := by
  induction ms generalizing m done first with
  | nil =>
    obtain ⟨key, v⟩ := m
    have hv : v.IsRead := h (key, v) List.mem_cons_self
    have htext : ",".intercalate (memberTexts [(key, v)]) = stringText key ++ ":" ++ v.text := by
      simp only [memberTexts, String.intercalate_singleton]
    rw [htext, foldl_member hv, tokens_closeObject, List.foldl_cons, Reading.step, memberTrees,
      memberTrees]
  | cons n ns ih =>
    obtain ⟨key, v⟩ := m
    have hv : v.IsRead := h (key, v) List.mem_cons_self
    have htext : (",".intercalate (memberTexts ((key, v) :: n :: ns))).toList ++ '\x7d' :: rest =
        (stringText key ++ ":" ++ v.text).toList ++
          ',' :: ((",".intercalate (memberTexts (n :: ns))).toList ++ '\x7d' :: rest) := by
      simp only [memberTexts, String.intercalate_cons_cons, String.toList_append]
      simp
    have htrees : memberTrees ((key, v) :: n :: ns) =
        .cons (some key) v.tree (memberTrees (n :: ns)) := by
      rw [memberTrees]
    rw [htext, foldl_member hv, tokens_comma, List.foldl_cons, Reading.step,
      ih (List.forall_mem_cons.mp h).2, htrees, Members.prepend]

theorem isRead_object {ms : List (String × Value)} (h : ∀ m ∈ ms, m.2.IsRead) :
    IsRead (.object ms) := by
  intro frames first rest
  cases ms with
  | nil =>
    have htext : (text (.object [])).toList ++ rest = '\x7b' :: '\x7d' :: rest := by
      simp [text, memberTexts]
    rw [htext, tokens_openObject, tokens_closeObject, List.foldl_cons, List.foldl_cons,
      Reading.step, Reading.step, tree, memberTrees, Members.prepend]
  | cons m ms =>
    have htext : (text (.object (m :: ms))).toList ++ rest =
        '\x7b' :: ((",".intercalate (memberTexts (m :: ms))).toList ++ '\x7d' :: rest) := by
      simp [text]
    rw [htext, tokens_openObject, List.foldl_cons, Reading.step, foldl_members h, tree,
      Members.prepend]

theorem IsRead.ofText {v : Value} (h : v.IsRead) : Document.ofText v.text = ⟨v.tree, true⟩ := by
  have hread := h [] false []
  rw [List.append_nil] at hread
  rw [Document.ofText, Document.ofTokens, hread, tokens_of_space rfl]
  rfl

end Value

end ContractTypings.Json
