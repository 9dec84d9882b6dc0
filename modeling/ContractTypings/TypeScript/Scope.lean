import ContractTypings.TypeScript.Declaration

namespace ContractTypings.TypeScript

def predefined : List String := ["string", "number", "boolean", "any", "void"]

mutual

def TypeExpr.names : TypeExpr → List String
  | .named name => [name]
  | .generic name args => name :: typeNames args
  | .union members => typeNames members
  | .array item => item.names
  | .tuple items => typeNames items
  | .object fields => fieldNames fields
  | .literal _ => []

def Field.names : Field → List String
  | ⟨_, type⟩ => type.names

def typeNames : List TypeExpr → List String
  | [] => []
  | t :: ts => t.names ++ typeNames ts

def fieldNames : List Field → List String
  | [] => []
  | f :: fs => f.names ++ fieldNames fs

end

mutual

def TypeExpr.applications : TypeExpr → List (String × List TypeExpr)
  | .named _ | .literal _ => []
  | .generic name args => (name, args) :: typeApplications args
  | .union members => typeApplications members
  | .array item => item.applications
  | .tuple items => typeApplications items
  | .object fields => fieldApplications fields

def Field.applications : Field → List (String × List TypeExpr)
  | ⟨_, type⟩ => type.applications

def typeApplications : List TypeExpr → List (String × List TypeExpr)
  | [] => []
  | t :: ts => t.applications ++ typeApplications ts

def fieldApplications : List Field → List (String × List TypeExpr)
  | [] => []
  | f :: fs => f.applications ++ fieldApplications fs

end

namespace Method

def types (m : Method) : List TypeExpr := m.params.map Parameter.type ++ [m.returns]

def mentioned (m : Method) : List String := m.types.flatMap TypeExpr.names

def applications (m : Method) : List (String × List TypeExpr) :=
  m.types.flatMap TypeExpr.applications

end Method

mutual

def Member.mentioned : Member → List String
  | .method m => m.mentioned
  | .group _ members => membersMentioned members
  | .blank => []

def membersMentioned : List Member → List String
  | [] => []
  | m :: ms => m.mentioned ++ membersMentioned ms

end

def ImportClause.names : ImportClause → List String
  | .default name | .all name => [name]
  | .named names => names

namespace Declaration

def aliasName? : Declaration → Option String
  | .typeAlias name _ => some name
  | _ => none

def bound : Declaration → List String
  | .importTypes clause _ => clause.names
  | .typeAlias name _ | .interface name _ _ => [name]
  | .exportTypes _ _ => []

/-- A re-export of another module refers to nothing in its own. -/
def mentioned : Declaration → List String
  | .importTypes _ _ | .exportTypes _ (some _) => []
  | .exportTypes names none => names
  | .typeAlias _ type => type.names
  | .interface _ base members => base.toList ++ membersMentioned members

end Declaration

namespace Module

def bound (m : Module) : List String := m.declarations.flatMap Declaration.bound

def mentioned (m : Module) : List String := m.declarations.flatMap Declaration.mentioned

def aliasNames (m : Module) : List String := m.declarations.filterMap Declaration.aliasName?

end Module

end ContractTypings.TypeScript
