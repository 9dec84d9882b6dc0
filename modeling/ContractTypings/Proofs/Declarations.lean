import ContractTypings.Contract.Interface
import ContractTypings.Proofs.Grouping

namespace ContractTypings

open Abi Natspec Overloads

namespace Abi.Item

def nameOrEmpty (i : Item) : String := i.name.getD ""

def signature (i : Item) : String :=
  ContractTypings.signature i.nameOrEmpty (Param.ofComponents i.inputs)

def typeName (events : Items) (i : Item) : String :=
  if isOverloaded nameOrEmpty events i then
    signatureSymbol i.nameOrEmpty (Param.ofComponents i.inputs)
  else i.nameOrEmpty

end Abi.Item

namespace Contract

def functionsInOrder (abi : Items) : Items :=
  grouped Item.nameOrEmpty (itemsOfType "function" abi)

def eventsInOrder (abi : Items) : Items :=
  grouped Item.nameOrEmpty (itemsOfType "event" abi)

theorem functionsInOrder_perm (abi : Items) :
    (functionsInOrder abi).Perm (itemsOfType "function" abi) :=
  grouped_perm _ _

theorem items_functionsOf (docs : Option Documentation) (abi : Items) :
    (functionsOf docs abi).items = (functionsInOrder abi).map (Function.ofItem docs) :=
  items_ofList Item.nameOrEmpty _ _

theorem groups_eventsOf (abi : Items) :
    (eventsOf abi).groups = (namesOf Item.nameOrEmpty (itemsOfType "event" abi)).map fun name =>
      (name, (named Item.nameOrEmpty name (itemsOfType "event" abi)).map Event.ofItem) :=
  groups_ofList Item.nameOrEmpty _ _

theorem taggedEvents_eventsOf (abi : Items) :
    taggedEvents (eventsOf abi) = (eventsInOrder abi).map fun i =>
      (Event.ofItem i, isOverloaded Item.nameOrEmpty (itemsOfType "event" abi) i) :=
  flatMap_groups_ofList Item.nameOrEmpty Event.ofItem Prod.mk _

theorem methods_functionsOf {c : Contract} {docs : Option Documentation} {abi : Items}
    (h : c.functions = functionsOf docs abi) :
    c.methods = (functionsInOrder abi).map fun i =>
      (Function.ofItem docs i).method
        (isOverloaded Item.nameOrEmpty (itemsOfType "function" abi) i) := by
  rw [methods, h]
  exact flatMap_groups_ofList Item.nameOrEmpty (Function.ofItem docs) (fun f b => f.method b) _

end Contract

end ContractTypings
