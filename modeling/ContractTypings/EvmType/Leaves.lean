import ContractTypings.EvmType.TypeScript
import ContractTypings.TypeScript.Structure

namespace ContractTypings

open TypeScript

mutual

def EvmType.skeleton : EvmType → Skeleton
  | .elementary _ | .unknown _ => .leaf
  | .array item _ => .array item.skeleton
  | .tuple components => .tuple (kindSkeletons components)

def Param.kindSkeleton : Param → Skeleton
  | ⟨_, kind, _⟩ => kind.skeleton

def kindSkeletons : List Param → List Skeleton
  | [] => []
  | p :: ps => p.kindSkeleton :: kindSkeletons ps

end

mutual

def EvmType.leaves : EvmType → List EvmType
  | .elementary type => [.elementary type]
  | .unknown raw => [.unknown raw]
  | .array item _ => item.leaves
  | .tuple components => kindLeaves components

def Param.kindLeaves : Param → List EvmType
  | ⟨_, kind, _⟩ => kind.leaves

def kindLeaves : List Param → List EvmType
  | [] => []
  | p :: ps => p.kindLeaves ++ kindLeaves ps

end

section TypeBy

variable (leaf : Elementary → TypeExpr)

mutual

def EvmType.typeBy : EvmType → TypeExpr
  | .elementary type => leaf type
  | .array item _ => .array item.typeBy
  | .tuple components => .tuple (typesBy components)
  | .unknown _ => .any

def Param.typeBy : Param → TypeExpr
  | ⟨_, kind, _⟩ => kind.typeBy

def typesBy : List Param → List TypeExpr
  | [] => []
  | p :: ps => p.typeBy :: typesBy ps

end

end TypeBy

mutual

theorem EvmType.inputType_eq_typeBy : (t : EvmType) → t.inputType = t.typeBy Elementary.inputType
  | .elementary _ | .unknown _ => rfl
  | .array item _ => congrArg TypeExpr.array item.inputType_eq_typeBy
  | .tuple components => congrArg TypeExpr.tuple (inputTypes_eq_typesBy components)

theorem Param.inputType_eq_typeBy : (p : Param) → p.inputType = p.typeBy Elementary.inputType
  | ⟨_, kind, _⟩ => kind.inputType_eq_typeBy

theorem inputTypes_eq_typesBy :
    (ps : List Param) → inputTypes ps = typesBy Elementary.inputType ps
  | [] => rfl
  | p :: ps => congrArg₂ List.cons p.inputType_eq_typeBy (inputTypes_eq_typesBy ps)

end

mutual

theorem EvmType.outputType_eq_typeBy : (t : EvmType) → t.outputType = t.typeBy Elementary.outputType
  | .elementary _ | .unknown _ => rfl
  | .array item _ => congrArg TypeExpr.array item.outputType_eq_typeBy
  | .tuple components => congrArg TypeExpr.tuple (outputTypes_eq_typesBy components)

theorem Param.outputType_eq_typeBy : (p : Param) → p.outputType = p.typeBy Elementary.outputType
  | ⟨_, kind, _⟩ => kind.outputType_eq_typeBy

theorem outputTypes_eq_typesBy :
    (ps : List Param) → outputTypes ps = typesBy Elementary.outputType ps
  | [] => rfl
  | p :: ps => congrArg₂ List.cons p.outputType_eq_typeBy (outputTypes_eq_typesBy ps)

end

end ContractTypings
