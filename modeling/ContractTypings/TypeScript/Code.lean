/-!
The code in a source text: what stands outside of its block comments and double quoted literals. The
brackets of the code, angle brackets among them, are to be closed in the order in which they nest.
-/

namespace ContractTypings.TypeScript

mutual

def code? : List Char → Option (List Char)
  | [] => some []
  | '/' :: '*' :: cs => afterComment? cs
  | '"' :: cs => afterLiteral? cs
  | c :: cs => (code? cs).map (c :: ·)

def afterComment? : List Char → Option (List Char)
  | [] => none
  | '*' :: '/' :: cs => code? cs
  | _ :: cs => afterComment? cs

def afterLiteral? : List Char → Option (List Char)
  | [] => none
  | '"' :: cs => code? cs
  | '\\' :: _ :: cs => afterLiteral? cs
  | _ :: cs => afterLiteral? cs

end

def closing? : Char → Option Char
  | '(' => some ')'
  | '[' => some ']'
  | '\x7b' => some '\x7d'
  | '<' => some '>'
  | _ => none

def isClosing (c : Char) : Bool := c == ')' || c == ']' || c == '\x7d' || c == '>'

def closesAll : List Char → List Char → Bool
  | waiting, [] => waiting.isEmpty
  | waiting, c :: cs =>
    match closing? c with
    | some r => closesAll (r :: waiting) cs
    | none =>
      if isClosing c then
        match waiting with
        | r :: outer => c == r && closesAll outer cs
        | [] => false
      else closesAll waiting cs

def isEnclosed (text : String) : Bool := (code? text.toList).any (closesAll [])

end ContractTypings.TypeScript
