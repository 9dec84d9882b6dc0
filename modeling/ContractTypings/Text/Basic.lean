namespace ContractTypings

/-- The code points `first`, `first + step`, and so on up to `last`. -/
structure CharRange where
  first : Nat
  last : Nat
  step : Nat
  deriving Repr, DecidableEq

abbrev CharRanges := List CharRange

def CharRange.has (r : CharRange) (c : Char) : Bool :=
  r.first ≤ c.toNat && c.toNat ≤ r.last && (c.toNat - r.first) % r.step == 0

def CharRanges.has (ranges : CharRanges) (c : Char) : Bool :=
  ranges.any fun r => r.has c

namespace Text

def whiteSpace : CharRanges :=
  [⟨0x9, 0xD, 1⟩, ⟨0x20, 0x20, 1⟩, ⟨0x85, 0x85, 1⟩, ⟨0xA0, 0xA0, 1⟩, ⟨0x1680, 0x1680, 1⟩,
   ⟨0x2000, 0x200A, 1⟩, ⟨0x2028, 0x2029, 1⟩, ⟨0x202F, 0x202F, 1⟩, ⟨0x205F, 0x205F, 1⟩,
   ⟨0x3000, 0x3000, 1⟩]

def isBlank (c : Char) : Bool := whiteSpace.has c

def trimEndChars (cs : List Char) : List Char :=
  (cs.reverse.dropWhile isBlank).reverse

def trimChars (cs : List Char) : List Char :=
  trimEndChars (cs.dropWhile isBlank)

theorem length_trimChars_le (cs : List Char) : (trimChars cs).length ≤ cs.length := by
  have hEnd : ∀ l : List Char, (trimEndChars l).length ≤ l.length := fun l => by
    simpa [trimEndChars] using (List.dropWhile_sublist (l := l.reverse) isBlank).length_le
  exact Nat.le_trans (hEnd _) (List.dropWhile_sublist _).length_le

def trimEnd (s : String) : String := String.ofList (trimEndChars s.toList)

def trim (s : String) : String := String.ofList (trimChars s.toList)

def digitZeros : List Nat :=
  [0x30, 0x660, 0x6F0, 0x7C0, 0x966, 0x9E6, 0xA66, 0xAE6, 0xB66, 0xBE6, 0xC66, 0xCE6, 0xD66,
   0xDE6, 0xE50, 0xED0, 0xF20, 0x1040, 0x1090, 0x17E0, 0x1810, 0x1946, 0x19D0, 0x1A80, 0x1A90,
   0x1B50, 0x1BB0, 0x1C40, 0x1C50, 0xA620, 0xA8D0, 0xA900, 0xA9D0, 0xA9F0, 0xAA50, 0xABF0, 0xFF10,
   0x104A0, 0x10D30, 0x10D40, 0x11066, 0x110F0, 0x11136, 0x111D0, 0x112F0, 0x11450, 0x114D0,
   0x11650, 0x116C0, 0x116D0, 0x116DA, 0x11730, 0x118E0, 0x11950, 0x11BF0, 0x11C50, 0x11D50,
   0x11DA0, 0x11F50, 0x16130, 0x16A60, 0x16AC0, 0x16B50, 0x16D70, 0x1CCF0, 0x1D7CE, 0x1D7D8,
   0x1D7E2, 0x1D7EC, 0x1D7F6, 0x1E140, 0x1E2F0, 0x1E4F0, 0x1E5F1, 0x1E950, 0x1FBF0]

def isDigit (c : Char) : Bool :=
  digitZeros.any fun z => z ≤ c.toNat && c.toNat < z + 10

def isAsciiDigit (c : Char) : Bool := '0' ≤ c && c ≤ '9'

def digitsValue (cs : List Char) : Nat :=
  cs.foldl (fun n c => 10 * n + (c.toNat - '0'.toNat)) 0

def sizeBelow? (bound : Nat) (cs : List Char) : Option Nat :=
  if cs ≠ [] ∧ cs.all isAsciiDigit ∧ digitsValue cs < bound then some (digitsValue cs) else none

/-- The lines of a text; a line feed at its very end opens no further line. -/
def lines (cs : List Char) : List (List Char) :=
  let parts := cs.splitOn '\n'
  if parts.getLast? = some [] then parts.dropLast else parts

def defuse : List Char → List Char
  | '*' :: '/' :: cs => '*' :: '\\' :: '/' :: defuse cs
  | c :: cs => c :: defuse cs
  | [] => []

def commentLine (cs : List Char) : List Char := defuse (trimEndChars cs)

end Text

end ContractTypings
