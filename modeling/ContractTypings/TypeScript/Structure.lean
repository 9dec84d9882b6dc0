import ContractTypings.TypeScript.TypeExpr
import Mathlib.Data.List.Forall2

namespace ContractTypings

inductive Skeleton where
  | leaf
  | array (item : Skeleton)
  | tuple (items : List Skeleton)

namespace TypeScript

mutual

def TypeExpr.skeleton : TypeExpr → Skeleton
  | .array item => .array item.skeleton
  | .tuple items => .tuple (typeSkeletons items)
  | .named _ | .generic _ _ | .union _ | .object _ | .literal _ => .leaf

def typeSkeletons : List TypeExpr → List Skeleton
  | [] => []
  | t :: ts => t.skeleton :: typeSkeletons ts

end

mutual

def TypeExpr.leaves : TypeExpr → List TypeExpr
  | .array item => item.leaves
  | .tuple items => typeLeaves items
  | .named name => [.named name]
  | .generic name args => [.generic name args]
  | .union members => [.union members]
  | .object fields => [.object fields]
  | .literal text => [.literal text]

def typeLeaves : List TypeExpr → List TypeExpr
  | [] => []
  | t :: ts => t.leaves ++ typeLeaves ts

end

inductive TypeExpr.Assignable : TypeExpr → TypeExpr → Prop
  | refl (t : TypeExpr) : Assignable t t
  | ofAny (t : TypeExpr) : Assignable .any t
  | toAny (t : TypeExpr) : Assignable t .any
  | member {t : TypeExpr} {members : List TypeExpr} (h : t ∈ members) :
    Assignable t (.union members)
  | array {a b : TypeExpr} (h : Assignable a b) : Assignable (.array a) (.array b)
  | tuple {as bs : List TypeExpr} (h : List.Forall₂ Assignable as bs) :
    Assignable (.tuple as) (.tuple bs)

end TypeScript

end ContractTypings
