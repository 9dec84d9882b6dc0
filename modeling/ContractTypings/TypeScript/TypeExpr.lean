import ContractTypings.Text.Quoted

namespace ContractTypings.TypeScript

open Text

inductive PropertyKey where
  | ident (name : String)
  | index (position : Nat)
  | quoted (text : String)
  deriving Repr, DecidableEq

def PropertyKey.text : PropertyKey → String
  | .ident name => name
  | .index position => toString position
  | .quoted text => quote text

mutual

inductive TypeExpr where
  | named (name : String)
  | generic (name : String) (args : List TypeExpr)
  | union (members : List TypeExpr)
  | array (item : TypeExpr)
  | tuple (items : List TypeExpr)
  | object (fields : List Field)
  | literal (text : String)

structure Field where
  key : PropertyKey
  type : TypeExpr

end

namespace TypeExpr

abbrev any : TypeExpr := .named "any"
abbrev boolean : TypeExpr := .named "boolean"
abbrev number : TypeExpr := .named "number"
abbrev string : TypeExpr := .named "string"
abbrev void : TypeExpr := .named "void"

def isUnion : TypeExpr → Bool
  | .union _ => true
  | _ => false

end TypeExpr

def commaSeparated (parts : List String) : String := ", ".intercalate parts

mutual

def TypeExpr.text : TypeExpr → String
  | .named name => name
  | .generic name args => name ++ "<" ++ commaSeparated (typeTexts args) ++ ">"
  | .union members => " | ".intercalate (typeTexts members)
  | .array item => if item.isUnion then "(" ++ item.text ++ ")[]" else item.text ++ "[]"
  | .tuple items => "[" ++ commaSeparated (typeTexts items) ++ "]"
  | .object [] => "\x7b\x7d"
  | .object (field :: fields) =>
    "\x7b " ++ "; ".intercalate (field.text :: fieldTexts fields) ++ " \x7d"
  | .literal text => quote text

def Field.text : Field → String
  | ⟨key, type⟩ => key.text ++ ": " ++ type.text

def typeTexts : List TypeExpr → List String
  | [] => []
  | t :: ts => t.text :: typeTexts ts

def fieldTexts : List Field → List String
  | [] => []
  | f :: fs => f.text :: fieldTexts fs

end

end ContractTypings.TypeScript
