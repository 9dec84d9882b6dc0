import ContractTypings.Text.Basic
import ContractTypings.TypeScript.TypeExpr

/-!
Reading type expressions of names, unions, arrays and tuples. Brackets after a type make an array of
it and bind tighter than the bars of a union; parentheses put a type together.
-/

namespace ContractTypings.TypeScript

open Text

namespace TypeReader

inductive Token where
  | name (word : List Char)
  | mark (c : Char)
  deriving Repr, DecidableEq

def isNameChar (c : Char) : Bool := c.isAlphanum || c == '_' || c == '$'

def tokens : List Char → List Token
  | [] => []
  | c :: cs =>
    if isNameChar c then
      match cs.head?.any isNameChar, tokens cs with
      | true, .name word :: rest => .name (c :: word) :: rest
      | _, rest => .name [c] :: rest
    else if isBlank c then tokens cs
    else .mark c :: tokens cs

/-- What an open bracket has in it before the current type: the items of a tuple, if it is one, and
the members of the union that the type belongs to, the last ones first. -/
structure Level where
  items : Option (List TypeExpr)
  members : List TypeExpr

inductive Operand where
  | missing
  | read (type : TypeExpr)
  | bracketed (type : TypeExpr)

structure State where
  levels : List Level
  operand : Operand

def joined (type : TypeExpr) : List TypeExpr → TypeExpr
  | [] => type
  | members => .union (type :: members).reverse

def step : State → Token → Option State
  | ⟨levels, .missing⟩, .name word => some ⟨levels, .read (.named (String.ofList word))⟩
  | ⟨levels, .missing⟩, .mark '(' => some ⟨⟨none, []⟩ :: levels, .missing⟩
  | ⟨levels, .missing⟩, .mark '[' => some ⟨⟨some [], []⟩ :: levels, .missing⟩
  | ⟨⟨some [], []⟩ :: levels, .missing⟩, .mark ']' => some ⟨levels, .read (.tuple [])⟩
  | ⟨levels, .read type⟩, .mark '[' => some ⟨levels, .bracketed type⟩
  | ⟨levels, .bracketed type⟩, .mark ']' => some ⟨levels, .read (.array type)⟩
  | ⟨⟨items, members⟩ :: levels, .read type⟩, .mark '|' =>
    some ⟨⟨items, type :: members⟩ :: levels, .missing⟩
  | ⟨⟨some items, members⟩ :: levels, .read type⟩, .mark ',' =>
    some ⟨⟨some (joined type members :: items), []⟩ :: levels, .missing⟩
  | ⟨⟨some items, members⟩ :: levels, .read type⟩, .mark ']' =>
    some ⟨levels, .read (.tuple (joined type members :: items).reverse)⟩
  | ⟨⟨none, members⟩ :: outer :: levels, .read type⟩, .mark ')' =>
    some ⟨outer :: levels, .read (joined type members)⟩
  | _, _ => none

end TypeReader

open TypeReader

def TypeExpr.ofText? (text : String) : Option TypeExpr :=
  match (tokens text.toList).foldlM step ⟨[⟨none, []⟩], .missing⟩ with
  | some ⟨[⟨none, members⟩], .read type⟩ => some (joined type members)
  | _ => none

end ContractTypings.TypeScript
