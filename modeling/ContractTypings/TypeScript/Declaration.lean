import ContractTypings.TypeScript.TypeExpr

namespace ContractTypings.TypeScript

structure Parameter where
  name : String
  type : TypeExpr
  optional : Bool := false

def Parameter.text (p : Parameter) : String :=
  p.name ++ (if p.optional then "?" else "") ++ ": " ++ p.type.text

structure DocComment where
  texts : List String
  deriving Repr, DecidableEq

/-- No texts make no comment. -/
def DocComment.of? : List String → Option DocComment
  | [] => none
  | texts => some ⟨texts⟩

structure Method where
  doc : Option DocComment := none
  key : PropertyKey
  params : List Parameter
  returns : TypeExpr

def Method.signature (m : Method) : String :=
  m.key.text ++ "(" ++ commaSeparated (m.params.map Parameter.text) ++ "): " ++ m.returns.text ++
    ";"

inductive Member where
  | method (method : Method)
  | group (key : String) (members : List Member)
  | blank

inductive ImportClause where
  | default (name : String)
  | named (names : List String)
  | all (name : String)
  deriving Repr, DecidableEq

def ImportClause.text : ImportClause → String
  | .default name => name
  | .named names => "\x7b " ++ commaSeparated names ++ " \x7d"
  | .all name => "* as " ++ name

inductive Declaration where
  | importTypes (clause : ImportClause) (source : String)
  | typeAlias (name : String) (type : TypeExpr)
  | interface (name : String) (base : Option String) (members : List Member)
  | exportTypes (names : List String) (source : Option String)

def Declaration.continues : Declaration → Declaration → Bool
  | .importTypes _ _, .importTypes _ _ => true
  | .exportTypes _ _, .exportTypes _ _ => true
  | _, _ => false

structure Module where
  declarations : List Declaration

end ContractTypings.TypeScript
