import ContractTypings.EvmType.Leaves
import ContractTypings.TypeScript.Scope
import Mathlib.Tactic.Common

namespace ContractTypings

open TypeScript

mutual

theorem EvmType.assignable_typeBy {leaf other : Elementary → TypeExpr}
    (h : ∀ type, (leaf type).Assignable (other type)) :
    (t : EvmType) → (t.typeBy leaf).Assignable (t.typeBy other)
  | .elementary type => h type
  | .array item _ => .array (item.assignable_typeBy h)
  | .tuple components => .tuple (assignable_typesBy h components)
  | .unknown _ => .refl _

theorem Param.assignable_typeBy {leaf other : Elementary → TypeExpr}
    (h : ∀ type, (leaf type).Assignable (other type)) :
    (p : Param) → (p.typeBy leaf).Assignable (p.typeBy other)
  | ⟨_, kind, _⟩ => kind.assignable_typeBy h

theorem assignable_typesBy {leaf other : Elementary → TypeExpr}
    (h : ∀ type, (leaf type).Assignable (other type)) :
    (ps : List Param) → List.Forall₂ TypeExpr.Assignable (typesBy leaf ps) (typesBy other ps)
  | [] => .nil
  | p :: ps => .cons (p.assignable_typeBy h) (assignable_typesBy h ps)

end

mutual

theorem EvmType.skeleton_typeBy {leaf : Elementary → TypeExpr}
    (h : ∀ type, (leaf type).skeleton = .leaf) :
    (t : EvmType) → (t.typeBy leaf).skeleton = t.skeleton
  | .elementary type => h type
  | .array item _ => congrArg Skeleton.array (item.skeleton_typeBy h)
  | .tuple components => congrArg Skeleton.tuple (typeSkeletons_typesBy h components)
  | .unknown _ => rfl

theorem Param.skeleton_typeBy {leaf : Elementary → TypeExpr}
    (h : ∀ type, (leaf type).skeleton = .leaf) :
    (p : Param) → (p.typeBy leaf).skeleton = p.kindSkeleton
  | ⟨_, kind, _⟩ => kind.skeleton_typeBy h

theorem typeSkeletons_typesBy {leaf : Elementary → TypeExpr}
    (h : ∀ type, (leaf type).skeleton = .leaf) :
    (ps : List Param) → typeSkeletons (typesBy leaf ps) = kindSkeletons ps
  | [] => rfl
  | p :: ps => congrArg₂ List.cons (p.skeleton_typeBy h) (typeSkeletons_typesBy h ps)

end

def EvmType.decodedLeaf : EvmType → TypeExpr
  | .elementary .bool => .boolean
  | .unknown _ => .any
  | _ => .string

mutual

theorem EvmType.leaves_outputType :
    (t : EvmType) → t.outputType.leaves = t.leaves.map EvmType.decodedLeaf
  | .elementary type => by cases type <;> rfl
  | .array item _ => item.leaves_outputType
  | .tuple components => leaves_outputTypes components
  | .unknown _ => rfl

theorem Param.leaves_outputType :
    (p : Param) → p.outputType.leaves = p.kindLeaves.map EvmType.decodedLeaf
  | ⟨_, kind, _⟩ => kind.leaves_outputType

theorem leaves_outputTypes :
    (ps : List Param) → typeLeaves (outputTypes ps) = (kindLeaves ps).map EvmType.decodedLeaf
  | [] => rfl
  | p :: ps => by
    rw [outputTypes, typeLeaves, p.leaves_outputType, leaves_outputTypes ps, kindLeaves,
      List.map_append]

end

namespace TypeScript

mutual

theorem TypeExpr.names_eq : (t : TypeExpr) → t.names = t.leaves.flatMap TypeExpr.names
  | .array item => item.names_eq
  | .tuple items => typeNames_eq items
  | .named _ | .generic _ _ | .union _ | .object _ | .literal _ => by simp [TypeExpr.leaves]

theorem typeNames_eq :
    (ts : List TypeExpr) → typeNames ts = (typeLeaves ts).flatMap TypeExpr.names
  | [] => rfl
  | t :: ts => by rw [typeNames, typeLeaves, List.flatMap_append, t.names_eq, typeNames_eq ts]

end

end TypeScript

theorem Elementary.assignable_outputType (type : Elementary) :
    type.outputType.Assignable type.inputType := by
  cases type with
  | int | uint => exact .member (List.mem_cons_of_mem _ List.mem_cons_self)
  | fixedBytes | bytes | function => exact .member List.mem_cons_self
  | address | bool | string => exact .refl _

theorem Elementary.skeleton_inputType (type : Elementary) : type.inputType.skeleton = .leaf := by
  cases type <;> rfl

theorem Elementary.skeleton_outputType (type : Elementary) : type.outputType.skeleton = .leaf := by
  cases type <;> rfl

theorem EvmType.mem_names_outputType {n : String} (t : EvmType) (h : n ∈ t.outputType.names) :
    n = "string" ∨ n = "boolean" ∨ n = "any" := by
  rw [TypeExpr.names_eq, t.leaves_outputType, List.flatMap_map] at h
  obtain ⟨leaf, -, hn⟩ := List.mem_flatMap.mp h
  unfold decodedLeaf at hn
  split at hn <;> simp_all [TypeExpr.names]

/-- A decoded value can be given where an argument of its type is asked for. Both types have the
arrays and tuples of that type. In the decoded one flags are boolean, types that were not understood
are `any`, and all else is text. -/
theorem EvmType.decoded_fits_argument (t : EvmType) :
    t.outputType.Assignable t.inputType ∧
    t.inputType.skeleton = t.skeleton ∧ t.outputType.skeleton = t.skeleton ∧
    t.outputType.leaves = t.leaves.map decodedLeaf ∧
    "number" ∉ t.outputType.names ∧ "BigNumber" ∉ t.outputType.names := by
  refine ⟨?_, ?_, ?_, t.leaves_outputType, ?_, ?_⟩
  · rw [t.outputType_eq_typeBy, t.inputType_eq_typeBy]
    exact t.assignable_typeBy Elementary.assignable_outputType
  · rw [t.inputType_eq_typeBy]
    exact t.skeleton_typeBy Elementary.skeleton_inputType
  · rw [t.outputType_eq_typeBy]
    exact t.skeleton_typeBy Elementary.skeleton_outputType
  · intro hn
    exact absurd (t.mem_names_outputType hn) (by decide)
  · intro hn
    exact absurd (t.mem_names_outputType hn) (by decide)

end ContractTypings
