import ContractTypings.Text.Basic
import ContractTypings.Text.Letter
import ContractTypings.Text.Capital

namespace ContractTypings.Contract

open Text

def isSeparator (c : Char) : Bool := isBlank c || c == '.' || c == '-'

def joinWords : Bool → List Char → List Char
  | _, [] => []
  | separated, c :: cs =>
    if isSeparator c then joinWords true cs
    else (if separated then c.toUpper else c) :: joinWords false cs

/-- The name of the contract in a file of the given stem: its words with a capital in front and no
digits before. There is none if nothing is left. -/
def name? (stem : String) : Option String :=
  match (joinWords false stem.toList).dropWhile isDigit with
  | [] => none
  | cs => some (String.ofList (capitalize cs))

def reserved : List String := [
  "break", "case", "catch", "class", "const", "continue", "debugger", "default", "delete", "do",
  "else", "enum", "export", "extends", "false", "finally", "for", "function", "if", "import",
  "in", "instanceof", "new", "null", "return", "super", "switch", "this", "throw", "true", "try",
  "typeof", "var", "void", "while", "with", "implements", "interface", "let", "package",
  "private", "protected", "public", "static", "yield", "arguments", "eval"]

def parameterName (position : Nat) (name : String) : String :=
  if name = "" then "arg" ++ toString position
  else if name ∈ reserved then name ++ "_"
  else name

def namespaceName (directory : String) : String :=
  let ident := camelCase directory
  if ident = "" ∨ ident.toList.head?.any isNumeric ∨ ident ∈ reserved then "_" ++ ident else ident

end ContractTypings.Contract
