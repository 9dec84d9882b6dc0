import ContractTypings.Json.Tree
import ContractTypings.Text.Visible

namespace ContractTypings.Json

open Text

inductive Found where
  | null
  | bool (b : Bool)
  | number (n : Number)
  | string (s : String)
  | array
  | object
  deriving Repr, DecidableEq

inductive Wanted where
  | string
  | boolean
  | sequence
  | map
  | path
  | record (name : String)
  deriving Repr, DecidableEq

inductive Mismatch where
  | missingField (field : String)
  | duplicateField (field : String)
  | wrongType (found : Found) (wanted : Wanted)
  | tooShort (position : Nat) (record : String) (fields : Nat)
  | tooLong (length : Nat)
  | noForm (record : String)
  deriving Repr, DecidableEq

inductive Fault where
  | malformed
  | mismatch (m : Mismatch)
  deriving Repr, DecidableEq

def Found.text : Found → String
  | .null => "null"
  | .bool b => "boolean `" ++ toString b ++ "`"
  | .number (.float x) => "floating point `" ++ x.text ++ "`"
  | .number n => "integer `" ++ n.text ++ "`"
  | .string s => "string " ++ visible s
  | .array => "sequence"
  | .object => "map"

def Wanted.text : Wanted → String
  | .string => "a string"
  | .boolean => "a boolean"
  | .sequence => "a sequence"
  | .map => "a map"
  | .path => "path string"
  | .record name => "struct " ++ name

def Mismatch.message : Mismatch → String
  | .missingField field => "missing field `" ++ field ++ "`"
  | .duplicateField field => "duplicate field `" ++ field ++ "`"
  | .wrongType found wanted => "invalid type: " ++ found.text ++ ", expected " ++ wanted.text
  | .tooShort position record fields =>
    "invalid length " ++ toString position ++ ", expected struct " ++ record ++ " with " ++
      toString fields ++ " elements"
  | .tooLong length =>
    "invalid length " ++ toString length ++ ", expected fewer elements in array"
  | .noForm record => "data did not match any variant of untagged enum " ++ record

/-- The fault of a tree that is not of the wanted type. A value that cannot be read at all is
malformed; an array or an object need not be read to be of a wrong type. -/
def Tree.wrongType (t : Tree) (wanted : Wanted) : Fault :=
  match t with
  | .null => .mismatch (.wrongType .null wanted)
  | .bool b => .mismatch (.wrongType (.bool b) wanted)
  | .number (some n) => .mismatch (.wrongType (.number n) wanted)
  | .string (some s) => .mismatch (.wrongType (.string s) wanted)
  | .array _ => .mismatch (.wrongType .array wanted)
  | .object _ => .mismatch (.wrongType .object wanted)
  | .number none | .string none | .broken => .malformed

end ContractTypings.Json
