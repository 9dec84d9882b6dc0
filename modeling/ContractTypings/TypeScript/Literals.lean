import ContractTypings.Text.Quoted
import ContractTypings.TypeScript.Declaration

namespace ContractTypings.TypeScript

open Text

def afterMark? : List Char → Option (List Char)
  | [] => none
  | '*' :: '/' :: cs => some cs
  | _ :: cs => afterMark? cs

theorem length_lt_of_afterMark? {cs rest : List Char} (h : afterMark? cs = some rest) :
    rest.length < cs.length := by
  fun_induction afterMark? cs with
  | case1 => cases h
  | case2 cs =>
    cases h
    exact Nat.lt_succ_of_lt (Nat.lt_succ_self _)
  | case3 c cs _ ih => exact Nat.lt_succ_of_lt (ih h)

def literals? : List Char → Option (List String)
  | [] => some []
  | '/' :: '*' :: cs =>
    match h : afterMark? cs with
    | some rest =>
      have := length_lt_of_afterMark? h
      literals? rest
    | none => none
  | '"' :: cs =>
    match h : Quoted.decode? ('"' :: cs) with
    | some (said, rest) =>
      have := Quoted.length_lt_of_inside? h
      (literals? rest).map (String.ofList said :: ·)
    | none => none
  | _ :: cs => literals? cs
termination_by cs => cs.length
decreasing_by
  all_goals
    simp only [List.length_cons]
    omega

def PropertyKey.quotedTexts : PropertyKey → List String
  | .ident _ | .index _ => []
  | .quoted text => [text]

mutual

def TypeExpr.quotedTexts : TypeExpr → List String
  | .named _ => []
  | .generic _ args => typesQuotedTexts args
  | .union members => typesQuotedTexts members
  | .array item => item.quotedTexts
  | .tuple items => typesQuotedTexts items
  | .object fields => fieldsQuotedTexts fields
  | .literal text => [text]

def Field.quotedTexts : Field → List String
  | ⟨key, type⟩ => key.quotedTexts ++ type.quotedTexts

def typesQuotedTexts : List TypeExpr → List String
  | [] => []
  | t :: ts => t.quotedTexts ++ typesQuotedTexts ts

def fieldsQuotedTexts : List Field → List String
  | [] => []
  | f :: fs => f.quotedTexts ++ fieldsQuotedTexts fs

end

def Method.quotedTexts (m : Method) : List String :=
  m.key.quotedTexts ++ m.params.flatMap (·.type.quotedTexts) ++ m.returns.quotedTexts

mutual

def Member.quotedTexts : Member → List String
  | .method m => m.quotedTexts
  | .group _ members => membersQuotedTexts members
  | .blank => []

def membersQuotedTexts : List Member → List String
  | [] => []
  | m :: ms => m.quotedTexts ++ membersQuotedTexts ms

end

def Declaration.quotedTexts : Declaration → List String
  | .importTypes _ source => [source]
  | .typeAlias _ type => type.quotedTexts
  | .interface _ _ members => membersQuotedTexts members
  | .exportTypes _ source => source.toList

def Module.quotedTexts (m : Module) : List String :=
  m.declarations.flatMap Declaration.quotedTexts

end ContractTypings.TypeScript
