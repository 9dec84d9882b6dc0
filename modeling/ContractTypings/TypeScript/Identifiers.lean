import ContractTypings.TypeScript.Scope

namespace ContractTypings.TypeScript

def isPlainName (name : String) : Bool :=
  name.toList.all fun c => c.isAlphanum || c == '_' || c == '$'

def PlainNames (names : List String) : Prop := ∀ n ∈ names, isPlainName n = true

instance (names : List String) : Decidable (PlainNames names) :=
  inferInstanceAs (Decidable (∀ n ∈ names, isPlainName n = true))

theorem plainNames_cons {n : String} {ns : List String} :
    PlainNames (n :: ns) ↔ isPlainName n = true ∧ PlainNames ns :=
  List.forall_mem_cons

theorem plainNames_append {ns ms : List String} :
    PlainNames (ns ++ ms) ↔ PlainNames ns ∧ PlainNames ms := by
  simp only [PlainNames, List.mem_append, or_imp, forall_and]

theorem plainNames_flatMap {α : Type} {as : List α} {f : α → List String} :
    PlainNames (as.flatMap f) ↔ ∀ a ∈ as, PlainNames (f a) := by
  simp only [PlainNames, List.mem_flatMap, forall_exists_index, and_imp]
  exact ⟨fun h a ha n hn => h n a ha hn, fun h n a ha hn => h a ha n hn⟩

def PropertyKey.identifiers : PropertyKey → List String
  | .ident name => [name]
  | .index _ | .quoted _ => []

mutual

def TypeExpr.identifiers : TypeExpr → List String
  | .named name => [name]
  | .generic name args => name :: typeIdentifiers args
  | .union members => typeIdentifiers members
  | .array item => item.identifiers
  | .tuple items => typeIdentifiers items
  | .object fields => fieldIdentifiers fields
  | .literal _ => []

def Field.identifiers : Field → List String
  | ⟨key, type⟩ => key.identifiers ++ type.identifiers

def typeIdentifiers : List TypeExpr → List String
  | [] => []
  | t :: ts => t.identifiers ++ typeIdentifiers ts

def fieldIdentifiers : List Field → List String
  | [] => []
  | f :: fs => f.identifiers ++ fieldIdentifiers fs

end

def Parameter.identifiers (p : Parameter) : List String := p.name :: p.type.identifiers

def Method.identifiers (m : Method) : List String :=
  m.key.identifiers ++ m.params.flatMap Parameter.identifiers ++ m.returns.identifiers

mutual

def Member.identifiers : Member → List String
  | .method m => m.identifiers
  | .group key members => key :: memberIdentifiers members
  | .blank => []

def memberIdentifiers : List Member → List String
  | [] => []
  | m :: ms => m.identifiers ++ memberIdentifiers ms

end

def Declaration.identifiers : Declaration → List String
  | .importTypes clause _ => clause.names
  | .typeAlias name type => name :: type.identifiers
  | .interface name base members => name :: (base.toList ++ memberIdentifiers members)
  | .exportTypes names _ => names

def Module.identifiers (m : Module) : List String := m.declarations.flatMap Declaration.identifiers

end ContractTypings.TypeScript
