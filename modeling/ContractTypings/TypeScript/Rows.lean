import ContractTypings.Text.Basic
import ContractTypings.TypeScript.Scope

/-!
The lines of a module, each declaration and member by itself: those of a part stand among the lines
of the whole two spaces further in, whatever comes before. Only empty lines depend on what is around
them.
-/

namespace ContractTypings.TypeScript

open Text

abbrev Row := List Char

def unlines (rows : List Row) : List Char := rows.flatMap (· ++ ['\n'])

def indented (depth : Nat) (row : Row) : Row :=
  if row = [] then [] else List.replicate (2 * depth) ' ' ++ row

/-- Leaves out each empty row right after an empty one; the flag says whether one comes before. -/
def squeeze : Bool → List Row → List Row
  | _, [] => []
  | afterEmpty, row :: rows =>
    if afterEmpty && row.isEmpty then squeeze true rows else row :: squeeze row.isEmpty rows

def endsEmpty (afterEmpty : Bool) (rows : List Row) : Bool :=
  rows.foldl (fun _ row => row.isEmpty) afterEmpty

def commentRow (line : List Char) : Row :=
  match commentLine line with
  | [] => " *".toList
  | cs => " * ".toList ++ cs

def DocComment.rows (doc : DocComment) : List Row :=
  "/**".toList :: (doc.texts.flatMap fun text => lines text.toList).map commentRow ++
    [" */".toList]

def Method.commentRows (m : Method) : List Row :=
  match m.doc with
  | some doc => doc.rows
  | none => []

def Method.rows (m : Method) : List Row := m.commentRows ++ [m.signature.toList]

def nestedRows (first : String) (rows : List Row) (last : String) : List Row :=
  first.toList :: rows.map (indented 1) ++ [last.toList]

mutual

def Member.rows : Member → List Row
  | .method m => m.rows
  | .group key members => nestedRows (key ++ ": \x7b") (memberRows members) "\x7d;"
  | .blank => [[]]

def memberRows : List Member → List Row
  | [] => []
  | m :: ms => m.rows ++ memberRows ms

end

def interfaceHead (name : String) : Option String → String
  | none => "export interface " ++ name ++ " \x7b"
  | some base => "export interface " ++ name ++ " extends " ++ base ++ " \x7b"

def exportLine (names : List String) : Option String → String
  | none => "export type \x7b " ++ commaSeparated names ++ " \x7d;"
  | some source =>
    "export type \x7b " ++ commaSeparated names ++ " \x7d from " ++ quote source ++ ";"

def Declaration.rows : Declaration → List Row
  | .importTypes clause source =>
    [("import type " ++ clause.text ++ " from " ++ quote source ++ ";").toList]
  | .typeAlias name type => [("export type " ++ name ++ " = " ++ type.text ++ ";").toList]
  | .interface name base members =>
    nestedRows (interfaceHead name base) (memberRows members) "\x7d"
  | .exportTypes names source => [(exportLine names source).toList]

def declarationRows : Option Declaration → List Declaration → List Row
  | _, [] => []
  | previous, d :: ds =>
    (if previous.any (·.continues d) then [] else [[]]) ++ d.rows ++ declarationRows (some d) ds

def headerRows : List Row := [
  "/* Autogenerated file. Do not edit manually. */".toList, "/* tslint:disable */".toList,
  "/* eslint-disable */".toList]

def Module.rows (m : Module) : List Row :=
  headerRows ++ squeeze false (declarationRows none m.declarations)

def OneLine (texts : List String) : Prop := ∀ s ∈ texts, '\n' ∉ s.toList

instance (texts : List String) : Decidable (OneLine texts) :=
  inferInstanceAs (Decidable (∀ s ∈ texts, '\n' ∉ s.toList))

def Parameter.texts (p : Parameter) : List String := [p.name, p.type.text]

def Method.texts (m : Method) : List String :=
  m.key.text :: m.returns.text :: m.params.flatMap Parameter.texts

mutual

def Member.texts : Member → List String
  | .method m => m.texts
  | .group key members => key :: memberTexts members
  | .blank => []

def memberTexts : List Member → List String
  | [] => []
  | m :: ms => m.texts ++ memberTexts ms

end

def Declaration.texts : Declaration → List String
  | .importTypes clause source => source :: clause.names
  | .typeAlias name type => [name, type.text]
  | .interface name base members => name :: (base.toList ++ memberTexts members)
  | .exportTypes names source => source.toList ++ names

def Module.texts (m : Module) : List String := m.declarations.flatMap Declaration.texts

end ContractTypings.TypeScript
