import ContractTypings.Text.Basic
import ContractTypings.TypeScript.Declaration

namespace ContractTypings.TypeScript

open Text

structure Printer where
  reversed : List Char := []
  depth : Nat := 0

namespace Printer

def text (p : Printer) : List Char := p.reversed.reverse

def raw (cs : List Char) (p : Printer) : Printer :=
  { p with reversed := cs.reverse ++ p.reversed }

def indentation (depth : Nat) : List Char := List.replicate (2 * depth) ' '

def line (cs : List Char) (p : Printer) : Printer :=
  p.raw (indentation p.depth ++ cs ++ ['\n'])

def blank (p : Printer) : Printer :=
  match p.reversed with
  | [] => p
  | '\n' :: '\n' :: _ => p
  | cs => { p with reversed := '\n' :: cs }

def indent (p : Printer) : Printer := { p with depth := p.depth + 1 }

def outdent (p : Printer) : Printer := { p with depth := p.depth - 1 }

end Printer

def DocComment.content (doc : DocComment) : List (List Char) :=
  (doc.texts.flatMap fun text => lines text.toList).map commentLine

def DocComment.print (doc : DocComment) (p : Printer) : Printer :=
  let body := doc.content.foldl
    (fun p cs => if cs = [] then p.line [' ', '*'] else p.line (' ' :: '*' :: ' ' :: cs))
    (p.line "/**".toList)
  body.line " */".toList

def Method.print (m : Method) (p : Printer) : Printer :=
  let p := match m.doc with
    | some doc => doc.print p
    | none => p
  p.line m.signature.toList

mutual

def Member.print : Member → Printer → Printer
  | .method m, p => m.print p
  | .group key members, p =>
    let inner := printMembers members (p.line (key ++ ": \x7b").toList).indent
    inner.outdent.line "\x7d;".toList
  | .blank, p => p.blank

def printMembers : List Member → Printer → Printer
  | [], p => p
  | m :: ms, p => printMembers ms (m.print p)

end

def Declaration.print : Declaration → Printer → Printer
  | .importTypes clause source, p =>
    p.line ("import type " ++ clause.text ++ " from " ++ quote source ++ ";").toList
  | .typeAlias name type, p => p.line ("export type " ++ name ++ " = " ++ type.text ++ ";").toList
  | .interface name base members, p =>
    let base := match base with
      | some base => " extends " ++ base
      | none => ""
    let first := "export interface " ++ name ++ base ++ " \x7b"
    (printMembers members (p.line first.toList).indent).outdent.line "\x7d".toList
  | .exportTypes names source, p =>
    let source := match source with
      | some source => " from " ++ quote source
      | none => ""
    p.line ("export type \x7b " ++ commaSeparated names ++ " \x7d" ++ source ++ ";").toList

def header : String :=
  "/* Autogenerated file. Do not edit manually. */\n/* tslint:disable */\n/* eslint-disable */\n"

def printDeclarations : Option Declaration → List Declaration → Printer → Printer
  | _, [], p => p
  | previous, d :: ds, p =>
    let joined := match previous with
      | some before => before.continues d
      | none => false
    printDeclarations (some d) ds (d.print (if joined then p else p.blank))

def Module.render (m : Module) : String :=
  String.ofList (printDeclarations none m.declarations ((Printer.raw header.toList) {})).text

def Member.text (m : Member) : String :=
  trimEnd (String.ofList (m.print {}).text)

def Declaration.text (d : Declaration) : String :=
  trimEnd (String.ofList (d.print {}).text)

end ContractTypings.TypeScript
