namespace ContractTypings.Decimal

structure Binary64 where
  negative : Bool
  mantissa : Nat
  exponent : Int
  deriving Repr, DecidableEq

namespace Binary64

def precision : Nat := 53

def minExponent : Int := -1074
def maxExponent : Int := 971

def scaled (num den : Nat) (exponent : Int) : Nat × Nat :=
  if exponent < 0 then (num * Nat.pow 2 exponent.natAbs, den)
  else (num, den * Nat.pow 2 exponent.natAbs)

def roundHalfEven (num den : Nat) : Nat :=
  let q := num / den
  let twice := 2 * (num % den)
  if twice < den ∨ (twice = den ∧ q % 2 = 0) then q else q + 1

def exponentOf (num den : Nat) : Int :=
  let guess : Int := (num.log2 : Int) - den.log2 - (precision - 1 : Nat)
  let (n, d) := scaled num den guess
  max minExponent (if n / d < Nat.pow 2 (precision - 1) then guess - 1 else guess)

def nearest? (negative : Bool) (num den : Nat) : Option Binary64 :=
  if num = 0 then some ⟨negative, 0, 0⟩
  else
    let exponent := exponentOf num den
    let (n, d) := scaled num den exponent
    let mantissa := roundHalfEven n d
    let (mantissa, exponent) :=
      if mantissa = Nat.pow 2 precision then (Nat.pow 2 (precision - 1), exponent + 1)
      else (mantissa, exponent)
    if exponent > maxExponent then none else some ⟨negative, mantissa, exponent⟩

def ratio (x : Binary64) : Nat × Nat :=
  if x.exponent < 0 then (x.mantissa, Nat.pow 2 x.exponent.natAbs)
  else (x.mantissa * Nat.pow 2 x.exponent.natAbs, 1)

def maxPowerOfTen : Nat := 308

def powerOfTen (n : Nat) : Binary64 := (nearest? false (Nat.pow 10 n) 1).getD ⟨false, 0, 0⟩

def mul? (x y : Binary64) : Option Binary64 :=
  nearest? x.negative (x.ratio.1 * y.ratio.1) (x.ratio.2 * y.ratio.2)

def div? (x y : Binary64) : Option Binary64 :=
  nearest? x.negative (x.ratio.1 * y.ratio.2) (x.ratio.2 * y.ratio.1)

def divPowerOfTen (x : Binary64) (n : Nat) : Binary64 :=
  if n ≤ maxPowerOfTen then (x.div? (powerOfTen n)).getD x
  else if x.mantissa = 0 then x
  else divPowerOfTen ((x.div? (powerOfTen maxPowerOfTen)).getD x) (n - maxPowerOfTen)
termination_by n
decreasing_by simp only [maxPowerOfTen] at *; omega

/-- `± significand * 10 ^ exponent`: the significand is rounded first and then the product, so that
the result may lie off the nearest number by a unit. -/
def ofDecimal? (negative : Bool) (significand : Nat) (exponent : Int) : Option Binary64 :=
  match nearest? negative significand 1 with
  | none => none
  | some x =>
    if exponent < 0 then some (x.divPowerOfTen exponent.natAbs)
    else if exponent.natAbs ≤ maxPowerOfTen then x.mul? (powerOfTen exponent.natAbs)
    else if x.mantissa = 0 then some x
    else none

end Binary64

end ContractTypings.Decimal
