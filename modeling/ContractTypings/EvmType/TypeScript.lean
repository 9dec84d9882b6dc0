import ContractTypings.EvmType.Basic
import ContractTypings.TypeScript.TypeExpr

namespace ContractTypings

open TypeScript

def numberLike : TypeExpr := .union [.number, .string, .named "BigNumber"]

def bytesLike : TypeExpr := .union [.string, .array .number]

def Elementary.inputType : Elementary → TypeExpr
  | .int _ | .uint _ => numberLike
  | .address | .string => .string
  | .bool => .boolean
  | .fixedBytes _ | .bytes | .function => bytesLike

def Elementary.outputType : Elementary → TypeExpr
  | .bool => .boolean
  | _ => .string

mutual

def EvmType.inputType : EvmType → TypeExpr
  | .elementary type => type.inputType
  | .array item _ => .array item.inputType
  | .tuple components => .tuple (inputTypes components)
  | .unknown _ => .any

def Param.inputType : Param → TypeExpr
  | ⟨_, kind, _⟩ => kind.inputType

def inputTypes : List Param → List TypeExpr
  | [] => []
  | p :: ps => p.inputType :: inputTypes ps

end

mutual

def EvmType.outputType : EvmType → TypeExpr
  | .elementary type => type.outputType
  | .array item _ => .array item.outputType
  | .tuple components => .tuple (outputTypes components)
  | .unknown _ => .any

def Param.outputType : Param → TypeExpr
  | ⟨_, kind, _⟩ => kind.outputType

def outputTypes : List Param → List TypeExpr
  | [] => []
  | p :: ps => p.outputType :: outputTypes ps

end

/-- Decoded values as a record: each named one under its name, then all under their positions. -/
def recordType (typeOf : Param → TypeExpr) (params : List Param) : TypeExpr :=
  .object (params.filterMap (fun p => p.name.map fun name => ⟨.ident name, typeOf p⟩) ++
    params.zipIdx.map fun entry => ⟨.index entry.2, typeOf entry.1⟩)

end ContractTypings
