import ContractTypings.Json.Number

namespace ContractTypings.Json

open Text

/-- A token; a number beyond the largest and a string with half a surrogate pair have no value. -/
inductive Token where
  | null
  | bool (b : Bool)
  | number (n : Option Number)
  | string (s : Option String)
  | openArray
  | closeArray
  | openObject
  | closeObject
  | comma
  | colon
  | broken
  deriving Repr, DecidableEq

def hexValue? (c : Char) : Option Nat :=
  if '0' ≤ c ∧ c ≤ '9' then some (c.toNat - '0'.toNat)
  else if 'a' ≤ c ∧ c ≤ 'f' then some (c.toNat - 'a'.toNat + 10)
  else if 'A' ≤ c ∧ c ≤ 'F' then some (c.toNat - 'A'.toNat + 10)
  else none

def hexWord? (a b c d : Char) : Option Nat := do
  let a ← hexValue? a
  let b ← hexValue? b
  let c ← hexValue? c
  let d ← hexValue? d
  pure (((a * 16 + b) * 16 + c) * 16 + d)

def simpleEscape? : Char → Option Char
  | '"' => some '"'
  | '\\' => some '\\'
  | '/' => some '/'
  | 'b' => some '\x08'
  | 'f' => some '\x0c'
  | 'n' => some '\n'
  | 'r' => some '\r'
  | 't' => some '\t'
  | _ => none

inductive Piece where
  | char (c : Char)
  | unit (n : Nat)
  deriving Repr, DecidableEq

def pieces? (found : List Piece) : List Char → Option (List Piece × List Char)
  | [] => none
  | '"' :: cs => some (found.reverse, cs)
  | '\\' :: 'u' :: a :: b :: c :: d :: cs =>
    match hexWord? a b c d with
    | some n => pieces? (.unit n :: found) cs
    | none => none
  | '\\' :: c :: cs =>
    match simpleEscape? c with
    | some e => pieces? (.char e :: found) cs
    | none => none
  | c :: cs => if c.toNat < 32 then none else pieces? (.char c :: found) cs

def isLeading (n : Nat) : Bool := 0xD800 ≤ n && n < 0xDC00

def isTrailing (n : Nat) : Bool := 0xDC00 ≤ n && n < 0xE000

def join? (found : List Char) : List Piece → Option (List Char)
  | [] => some found.reverse
  | .char c :: ps => join? (c :: found) ps
  | .unit n :: .unit m :: ps =>
    if isLeading n then
      if isTrailing m then
        join? (Char.ofNat (0x10000 + (n - 0xD800) * 0x400 + (m - 0xDC00)) :: found) ps
      else none
    else if isTrailing n then none
    else join? (Char.ofNat n :: found) (.unit m :: ps)
  | .unit n :: ps =>
    if isLeading n || isTrailing n then none else join? (Char.ofNat n :: found) ps

def digits? (cs : List Char) : Option (List Char × List Char) :=
  if cs.takeWhile isAsciiDigit = [] then none
  else some (cs.takeWhile isAsciiDigit, cs.dropWhile isAsciiDigit)

def whole? (cs : List Char) : Option (List Char × List Char) :=
  (digits? cs).bind fun (whole, cs) =>
    if whole.head? = some '0' ∧ whole.length ≠ 1 then none else some (whole, cs)

def fraction? : List Char → Option (List Char × List Char)
  | '.' :: cs => digits? cs
  | cs => some ([], cs)

def sign : List Char → Bool × List Char
  | '+' :: cs => (false, cs)
  | '-' :: cs => (true, cs)
  | cs => (false, cs)

def exponent? : List Char → Option (Option (Bool × List Char) × List Char)
  | c :: cs =>
    if c = 'e' ∨ c = 'E' then
      (digits? (sign cs).2).map fun (digits, rest) => (some ((sign cs).1, digits), rest)
    else some (none, c :: cs)
  | [] => some (none, [])

def numeral? (negative : Bool) (cs : List Char) : Option (Numeral × List Char) := do
  let (whole, cs) ← whole? cs
  let (fraction, cs) ← fraction? cs
  let (exponent, cs) ← exponent? cs
  some (⟨negative, whole, fraction, exponent⟩, cs)

def isSpace (c : Char) : Bool := c == ' ' || c == '\n' || c == '\t' || c == '\r'

def Token.ofParts? {α : Type} (make : α → Token) : Option (α × List Char) → Token × List Char
  | some (a, cs) => (make a, cs)
  | none => (.broken, [])

def Token.first : List Char → Token × List Char
  | '[' :: cs => (.openArray, cs)
  | ']' :: cs => (.closeArray, cs)
  | '\x7b' :: cs => (.openObject, cs)
  | '\x7d' :: cs => (.closeObject, cs)
  | ',' :: cs => (.comma, cs)
  | ':' :: cs => (.colon, cs)
  | 'n' :: 'u' :: 'l' :: 'l' :: cs => (.null, cs)
  | 't' :: 'r' :: 'u' :: 'e' :: cs => (.bool true, cs)
  | 'f' :: 'a' :: 'l' :: 's' :: 'e' :: cs => (.bool false, cs)
  | '"' :: cs =>
    ofParts? (fun pieces => .string ((join? [] pieces).map String.ofList)) (pieces? [] cs)
  | '-' :: cs => ofParts? (fun l => .number l.number?) (numeral? true cs)
  | cs => ofParts? (fun l => .number l.number?) (numeral? false cs)

theorem length_lt_of_pieces? {found ps : List Piece} {cs rest : List Char}
    (h : pieces? found cs = some (ps, rest)) : rest.length < cs.length := by
  fun_induction pieces? found cs with
  | case1 => cases h
  | case2 found cs =>
    simp only [Option.some.injEq, Prod.mk.injEq] at h
    simp [← h.2]
  | case3 found a b c d cs n hn ih =>
    have := ih h
    simp only [List.length_cons]
    omega
  | case4 => cases h
  | case5 found c cs _ e he ih =>
    have := ih h
    simp only [List.length_cons]
    omega
  | case6 => cases h
  | case7 => cases h
  | case8 found c cs _ _ _ _ ih =>
    have := ih h
    simp only [List.length_cons]
    omega

theorem length_lt_of_digits? {cs ds rest : List Char} (h : digits? cs = some (ds, rest)) :
    rest.length < cs.length := by
  unfold digits? at h
  split at h
  · cases h
  · next hne =>
    simp only [Option.some.injEq, Prod.mk.injEq] at h
    have hlen :=
      congrArg List.length (List.takeWhile_append_dropWhile (p := isAsciiDigit) (l := cs))
    rw [List.length_append] at hlen
    have := List.length_pos_iff.2 hne
    rw [← h.2]
    omega

theorem length_lt_of_whole? {cs ds rest : List Char} (h : whole? cs = some (ds, rest)) :
    rest.length < cs.length := by
  obtain ⟨⟨whole, cs'⟩, hd, h⟩ := Option.bind_eq_some_iff.1 h
  simp only at h
  split at h
  · cases h
  · simp only [Option.some.injEq, Prod.mk.injEq] at h
    exact h.2 ▸ length_lt_of_digits? hd

theorem length_le_of_fraction? {cs ds rest : List Char} (h : fraction? cs = some (ds, rest)) :
    rest.length ≤ cs.length := by
  unfold fraction? at h
  split at h
  · exact Nat.le_succ_of_le (Nat.le_of_lt (length_lt_of_digits? h))
  · simp only [Option.some.injEq, Prod.mk.injEq] at h
    exact h.2 ▸ Nat.le_refl _

theorem length_sign_le (cs : List Char) : (sign cs).2.length ≤ cs.length := by
  unfold sign
  split <;> simp

theorem length_le_of_exponent? {cs rest : List Char} {e : Option (Bool × List Char)}
    (h : exponent? cs = some (e, rest)) : rest.length ≤ cs.length := by
  cases cs with
  | nil =>
    simp only [exponent?, Option.some.injEq, Prod.mk.injEq] at h
    exact h.2 ▸ Nat.le_refl _
  | cons c cs =>
    simp only [exponent?] at h
    split at h
    · obtain ⟨⟨ds, rest'⟩, hd, h⟩ := Option.map_eq_some_iff.1 h
      simp only [Prod.mk.injEq] at h
      have := length_lt_of_digits? hd
      have := length_sign_le cs
      rw [← h.2, List.length_cons]
      omega
    · simp only [Option.some.injEq, Prod.mk.injEq] at h
      exact h.2 ▸ Nat.le_refl _

theorem length_lt_of_numeral? {negative : Bool} {cs rest : List Char} {l : Numeral}
    (h : numeral? negative cs = some (l, rest)) : rest.length < cs.length := by
  obtain ⟨⟨whole, cs₁⟩, h₁, h⟩ := Option.bind_eq_some_iff.1 h
  obtain ⟨⟨fraction, cs₂⟩, h₂, h⟩ := Option.bind_eq_some_iff.1 h
  obtain ⟨⟨exponent, cs₃⟩, h₃, h⟩ := Option.bind_eq_some_iff.1 h
  simp only [Option.some.injEq, Prod.mk.injEq] at h
  have := length_lt_of_whole? h₁
  have := length_le_of_fraction? h₂
  have := length_le_of_exponent? h₃
  rw [← h.2]
  omega

theorem length_ofParts?_lt {α : Type} {make : α → Token} {parts : Option (α × List Char)} {n : Nat}
    (hn : 0 < n) (h : ∀ a cs, parts = some (a, cs) → cs.length < n) :
    (Token.ofParts? make parts).2.length < n := by
  match parts with
  | none => exact hn
  | some (a, cs) => exact h a cs rfl

theorem Token.length_first_lt {cs : List Char} (hne : cs ≠ []) :
    (Token.first cs).2.length < cs.length := by
  have succ {m n : Nat} (h : m < n) : m < n + 1 := Nat.lt_succ_of_lt h
  unfold Token.first
  split
  case h_10 =>
    exact length_ofParts?_lt (Nat.succ_pos _) fun _ _ h => succ (length_lt_of_pieces? h)
  case h_11 =>
    exact length_ofParts?_lt (Nat.succ_pos _) fun _ _ h => succ (length_lt_of_numeral? h)
  case h_12 =>
    exact length_ofParts?_lt (List.length_pos_iff.2 hne) fun _ _ h => length_lt_of_numeral? h
  all_goals simp only [List.length_cons]; omega

def tokens (cs : List Char) : List Token :=
  match _h : cs.dropWhile isSpace with
  | [] => []
  | c :: rest => (Token.first (c :: rest)).1 :: tokens (Token.first (c :: rest)).2
termination_by cs.length
decreasing_by
  have := Token.length_first_lt (List.cons_ne_nil c rest)
  have := (List.dropWhile_sublist (l := cs) isSpace).length_le
  rw [_h] at this
  omega

end ContractTypings.Json
