import ContractTypings.Abi.Item
import ContractTypings.Json.Decoder

namespace ContractTypings.Abi

open Json Decoder

namespace Component

def slots (nested : Decoder (List Component)) : List (Slot Component) := [
  slot "internalType" (optional string) fun v c => { c with internalType := v },
  slot "name" string fun v c => { c with name := v },
  requiredSlot "type" string fun v c => { c with type := v },
  slot "components" nested fun v c => { c with components := v },
  slot "indexed" (optional bool) fun v c => { c with indexed := v }]

def decoderTo : Nat → Decoder Component
  | 0 => record "Component" { type := "" } []
  | depth + 1 => record "Component" { type := "" } (slots (list (decoderTo depth)))

/-- Every nested component takes room, so the room bounds the depth. -/
def decoder : Decoder Component := fun source room t => decoderTo room source room t

end Component

def Item.decoder : Decoder Item := record "Item" {} [
  slot "inputs" (list Component.decoder) fun v i => { i with inputs := v },
  slot "stateMutability" (optional string) fun v i => { i with stateMutability := v },
  slot "type" string fun v i => { i with type := v },
  slot "name" (optional string) fun v i => { i with name := v },
  slot "outputs" (list Component.decoder) fun v i => { i with outputs := v },
  slot "anonymous" (optional bool) fun v i => { i with anonymous := v },
  slot "constant" (optional bool) fun v i => { i with constant := v },
  slot "payable" (optional bool) fun v i => { i with payable := v }]

def Items.decoder : Decoder Items := list Item.decoder

def member? {α : Type} (key : String) (value : α → Value) : Option α → List (String × Value)
  | none => []
  | some a => [(key, value a)]

mutual

def Component.value : Component → Value
  | ⟨internalType, name, type, components, indexed⟩ => .object
    (member? "internalType" .string internalType ++
      [("name", .string name), ("type", .string type),
        ("components", .array (componentValues components))] ++
      member? "indexed" .bool indexed)

def componentValues : List Component → List Value
  | [] => []
  | c :: cs => c.value :: componentValues cs

end

def Item.value (i : Item) : Value := .object
  ([("inputs", .array (componentValues i.inputs))] ++
    member? "stateMutability" .string i.stateMutability ++
    [("type", .string i.type)] ++
    member? "name" .string i.name ++
    [("outputs", .array (componentValues i.outputs))] ++
    member? "anonymous" .bool i.anonymous ++
    member? "constant" .bool i.constant ++
    member? "payable" .bool i.payable)

def Items.value (items : Items) : Value := .array (items.map Item.value)

end ContractTypings.Abi
