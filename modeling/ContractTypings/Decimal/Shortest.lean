import ContractTypings.Decimal.Binary64

/-!
The decimal text of a binary number: the fewest digits that read back as the number.
-/

namespace ContractTypings.Decimal

structure Scientific where
  digits : Nat
  exponent : Int
  deriving Repr, DecidableEq

def Scientific.trimmed : Nat → Int → Nat → Scientific
  | digits, exponent, 0 => ⟨digits, exponent⟩
  | digits, exponent, fuel + 1 =>
    if digits ≠ 0 ∧ digits % 10 = 0 then trimmed (digits / 10) (exponent + 1) fuel
    else ⟨digits, exponent⟩

namespace Binary64

/-- How far down, as a fraction of a unit of the last place, the reals go that round to the number:
half a unit, but a quarter at a power of two. -/
def halfGapBelow (x : Binary64) : Nat × Nat :=
  if x.mantissa = Nat.pow 2 (precision - 1) ∧ x.exponent > minExponent then (1, 4) else (1, 2)

def powerOfTwo (e : Int) : Nat × Nat :=
  if e < 0 then (1, Nat.pow 2 e.natAbs) else (Nat.pow 2 e.natAbs, 1)

def rounds (x : Binary64) (num den : Nat) : Bool :=
  let unit := powerOfTwo x.exponent
  let (gapNum, gapDen) := x.halfGapBelow
  let even := x.mantissa % 2 == 0
  -- `num / den` against `(mantissa - gap) * unit` and `(mantissa + 1 / 2) * unit`
  let value := num * unit.2
  let low := (x.mantissa * gapDen - gapNum) * unit.1 * den
  let high := (2 * x.mantissa + 1) * unit.1 * den
  (low < value * gapDen || (even && low == value * gapDen)) &&
    (value * 2 < high || (even && value * 2 == high))

def neighbours (x : Binary64) (e : Int) : Nat × Nat :=
  let (num, den) := x.ratio
  let floor := if e < 0 then num * Nat.pow 10 e.natAbs / den else num / (den * Nat.pow 10 e.natAbs)
  (floor, floor + 1)

def gridPoint (digits : Nat) (e : Int) : Nat × Nat :=
  if e < 0 then (digits, Nat.pow 10 e.natAbs) else (digits * Nat.pow 10 e.natAbs, 1)

def distance (a b : Nat × Nat) : Nat :=
  let l := a.1 * b.2
  let r := b.1 * a.2
  if l < r then r - l else l - r

def onGrid? (x : Binary64) (e : Int) : Option Scientific :=
  let (low, high) := x.neighbours e
  let hit (d : Nat) : Bool := x.rounds (gridPoint d e).1 (gridPoint d e).2
  match hit low, hit high with
  | true, true =>
    if distance (gridPoint low e) x.ratio ≤ distance (gridPoint high e) x.ratio then some ⟨low, e⟩
    else some ⟨high, e⟩
  | true, false => some ⟨low, e⟩
  | false, true => some ⟨high, e⟩
  | false, false => none

def digitCount (n : Nat) : Nat := (Nat.toDigits 10 n).length

def magnitude (x : Binary64) : Int :=
  let (num, den) := x.ratio
  if den ≤ num then (digitCount (num / den) : Int) - 1
  else -((List.range 400).find? (fun k => den ≤ num * Nat.pow 10 k)).getD 0

def shortest (x : Binary64) : Scientific :=
  let top := x.magnitude
  match (List.range 18).findSome? (fun n : Nat => x.onGrid? (top - n)) with
  | some s => Scientific.trimmed s.digits s.exponent (digitCount s.digits)
  | none => ⟨x.mantissa, 0⟩

end Binary64

def maxWhole : Int := 16

def minPoint : Int := -5

def Binary64.text (x : Binary64) : String :=
  let sign := if x.negative then "-" else ""
  if x.mantissa = 0 then sign ++ "0.0"
  else
    let s := x.shortest
    let digits := toString s.digits
    let cs := digits.toList
    let point : Int := cs.length + s.exponent
    if 0 ≤ s.exponent ∧ point ≤ maxWhole then
      sign ++ digits ++ String.ofList (List.replicate s.exponent.natAbs '0') ++ ".0"
    else if 0 < point ∧ point ≤ maxWhole then
      sign ++ String.ofList (cs.take point.natAbs) ++ "." ++ String.ofList (cs.drop point.natAbs)
    else if minPoint < point ∧ point ≤ 0 then
      sign ++ "0." ++ String.ofList (List.replicate point.natAbs '0') ++ digits
    else
      let digits := if cs.length = 1 then cs else cs.take 1 ++ '.' :: cs.drop 1
      sign ++ String.ofList digits ++ "e" ++ toString (point - 1)

end ContractTypings.Decimal
