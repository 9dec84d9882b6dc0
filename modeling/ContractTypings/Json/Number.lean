import ContractTypings.Decimal.Shortest
import ContractTypings.Text.Basic

namespace ContractTypings.Json

open Decimal Text

inductive Number where
  | natural (n : Nat)
  | negative (n : Nat)
  | float (x : Binary64)
  deriving Repr, DecidableEq

def maxNatural : Nat := 18446744073709551615

def maxNegative : Nat := 9223372036854775808

def maxExponent : Nat := 2147483647

def Number.text : Number → String
  | .natural n => toString n
  | .negative n => "-" ++ toString n
  | .float x => x.text

structure Numeral where
  negative : Bool
  whole : List Char
  fraction : List Char
  exponent : Option (Bool × List Char)
  deriving Repr, DecidableEq

/-- Appends digits to a significand until one of them would take it past the largest natural
number; gives the significand and the number of digits that are left. -/
def appendDigits : Nat → List Char → Nat × Nat
  | n, [] => (n, 0)
  | n, c :: cs =>
    let next := 10 * n + (c.toNat - '0'.toNat)
    if next ≤ maxNatural then appendDigits next cs else (n, (c :: cs).length)

namespace Numeral

def significand (l : Numeral) : Nat × Int :=
  let (n, left) := appendDigits 0 l.whole
  let (m, dropped) := appendDigits n l.fraction
  (m, (left : Int) - (l.fraction.length - dropped : Nat))

def float? (l : Numeral) : Option Binary64 :=
  let (n, power) := l.significand
  match l.exponent with
  | none => Binary64.ofDecimal? l.negative n power
  | some (below, digits) =>
    let e := digitsValue digits
    if e ≤ maxExponent then
      Binary64.ofDecimal? l.negative n (if below then power - e else power + e)
    else if n = 0 ∨ below then some ⟨l.negative, 0, 0⟩
    else none

def number? (l : Numeral) : Option Number :=
  if l.fraction = [] ∧ l.exponent = none then
    let n := digitsValue l.whole
    if l.negative = false ∧ n ≤ maxNatural then some (.natural n)
    else if l.negative = true ∧ n ≠ 0 ∧ n ≤ maxNegative then some (.negative n)
    else l.float?.map .float
  else l.float?.map .float

end Numeral

end ContractTypings.Json
