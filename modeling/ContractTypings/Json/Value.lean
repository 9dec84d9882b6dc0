import ContractTypings.Dictionary
import ContractTypings.Json.Tree

namespace ContractTypings.Json

inductive Value where
  | null
  | bool (b : Bool)
  | number (n : Number)
  | string (s : String)
  | array (elements : List Value)
  | object (members : List (String × Value))

def escapeChar (c : Char) : List Char :=
  if c = '"' then ['\\', '"']
  else if c = '\\' then ['\\', '\\']
  else if c = '\x08' then ['\\', 'b']
  else if c = '\x0c' then ['\\', 'f']
  else if c = '\n' then ['\\', 'n']
  else if c = '\r' then ['\\', 'r']
  else if c = '\t' then ['\\', 't']
  else if c.toNat < 32 then
    ['\\', 'u', '0', '0', Nat.digitChar (c.toNat / 16), Nat.digitChar (c.toNat % 16)]
  else [c]

def stringText (s : String) : String :=
  String.ofList ('"' :: s.toList.flatMap escapeChar ++ ['"'])

mutual

def Value.text : Value → String
  | .null => "null"
  | .bool b => toString b
  | .number n => n.text
  | .string s => stringText s
  | .array elements => "[" ++ ",".intercalate (elementTexts elements) ++ "]"
  | .object members => "\x7b" ++ ",".intercalate (memberTexts members) ++ "\x7d"

def elementTexts : List Value → List String
  | [] => []
  | v :: vs => v.text :: elementTexts vs

def memberTexts : List (String × Value) → List String
  | [] => []
  | (key, v) :: members => (stringText key ++ ":" ++ v.text) :: memberTexts members

end

mutual

def Value.tree : Value → Tree
  | .null => .null
  | .bool b => .bool b
  | .number n => .number (some n)
  | .string s => .string (some s)
  | .array elements => .array (elementTrees elements)
  | .object members => .object (memberTrees members)

def elementTrees : List Value → Elements
  | [] => .closed
  | v :: vs => .cons v.tree (elementTrees vs)

def memberTrees : List (String × Value) → Members
  | [] => .closed
  | (key, v) :: members => .cons (some key) v.tree (memberTrees members)

end

mutual

def Value.nesting : Value → Nat
  | .array elements => elementsNesting elements + 1
  | .object members => membersNesting members + 1
  | .null | .bool _ | .number _ | .string _ => 0

def elementsNesting : List Value → Nat
  | [] => 0
  | v :: vs => max v.nesting (elementsNesting vs)

def membersNesting : List (String × Value) → Nat
  | [] => 0
  | (_, v) :: members => max v.nesting (membersNesting members)

end

mutual

/-- Loads a tree as a value, with `room` for as many nested containers. The members of an object are
sorted by their keys, and the last of those with one key stays. -/
def Tree.load? (room : Nat) : Tree → Option Value
  | .null => some .null
  | .bool b => some (.bool b)
  | .number n => n.map .number
  | .string s => s.map .string
  | .array elements =>
    match room with
    | 0 => none
    | room + 1 => (elements.load? room).map .array
  | .object members =>
    match room with
    | 0 => none
    | room + 1 => (members.load? room ∅).map fun d => .object d.entries
  | .broken => none

def Elements.load? (room : Nat) : Elements → Option (List Value)
  | .closed => some []
  | .cut => none
  | .cons element rest => do
    let v ← element.load? room
    let vs ← rest.load? room
    some (v :: vs)

def Members.load? (room : Nat) : Members → Dictionary Value → Option (Dictionary Value)
  | .closed, d => some d
  | .cut, _ => none
  | .cons key value rest, d => do
    let key ← key
    let v ← value.load? room
    rest.load? room (d.insert key v)

end

end ContractTypings.Json
