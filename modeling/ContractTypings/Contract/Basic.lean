import ContractTypings.Artifact
import ContractTypings.Contract.Name
import ContractTypings.EvmType.Parse
import ContractTypings.Failure
import ContractTypings.Overloads
import ContractTypings.TypeScript.Declaration

/-!
A contract as its ABI describes it: functions and events grouped by name. An ABI is refused if two
of its declarations could not be told apart in the generated module.
-/

namespace ContractTypings.Contract

open TypeScript

def sharedTypes : List String := [
  "Callback",
  "PayableTransactionObject",
  "NonPayableTransactionObject",
  "ContractEventLog",
  "ContractEventEmitter",
  "EventOptions",
  "BaseContract"]

def packageTypes : List (String × String) := [
  ("ContractOptions", "web3-eth-contract"),
  ("EventLog", "web3-core"),
  ("EventEmitter", "events")]

def isImported (name : String) : Bool :=
  name == "BigNumber" || packageTypes.any (fun entry => entry.1 == name) ||
    sharedTypes.contains name

def sharedSpecifier : Nat → String
  | 0 => "./types"
  | depth + 1 => String.join (List.replicate (depth + 1) "../") ++ "types"

def imports (depth : Nat) : List Declaration :=
  [.importTypes (.default "BigNumber") "bignumber.js"] ++
    packageTypes.map (fun entry => .importTypes (.named [entry.1]) entry.2) ++
    [.importTypes (.named sharedTypes) (sharedSpecifier depth)]

end ContractTypings.Contract

namespace ContractTypings

open Abi Natspec

inductive Mutability where
  | pure
  | view
  | nonpayable
  | payable
  deriving Repr, DecidableEq

def Mutability.ofItem (i : Item) : Mutability :=
  match i.stateMutability with
  | some "pure" => .pure
  | some "view" => .view
  | some "payable" => .payable
  | some _ => .nonpayable
  | none =>
    if i.payable.getD false then .payable
    else if i.constant.getD false then .view
    else .nonpayable

structure Function where
  name : String
  inputs : List Param
  outputs : List Param
  mutability : Mutability
  doc : Option FunctionDoc
  deriving DecidableEq

def Function.signature (f : Function) : String := ContractTypings.signature f.name f.inputs

def Function.ofItem (docs : Option Documentation) (i : Item) : Function :=
  let name := i.name.getD ""
  let inputs := Param.ofComponents i.inputs
  { name
    inputs
    outputs := Param.ofComponents i.outputs
    mutability := .ofItem i
    doc := (docs.bind (·.function? (ContractTypings.signature name inputs))).filter (!·.isEmpty) }

structure Event where
  name : String
  inputs : List Param
  anonymous : Bool
  deriving DecidableEq

namespace Event

def ofItem (i : Item) : Event where
  name := i.name.getD ""
  inputs := Param.ofComponents i.inputs
  anonymous := i.anonymous.getD false

def signature (e : Event) : String := ContractTypings.signature e.name e.inputs

/-- The name of the type of the event's values. Overloaded events share their name, so each is
called by the symbol of its signature. -/
def typeName (overloaded : Bool) (e : Event) : String :=
  if overloaded then signatureSymbol e.name e.inputs else e.name

end Event

structure Contract where
  name : String
  path : List String
  functions : Overloads Function
  events : Overloads Event
  deriving DecidableEq

namespace Contract

def itemsOfType (type : String) (abi : Items) : List Item := abi.filter fun i => i.type == type

def functionsOf (docs : Option Documentation) (abi : Items) : Overloads Function :=
  .ofList ((itemsOfType "function" abi).map fun i => (i.name.getD "", Function.ofItem docs i))

def eventsOf (abi : Items) : Overloads Event :=
  .ofList ((itemsOfType "event" abi).map fun i => (i.name.getD "", Event.ofItem i))

def taggedEvents (events : Overloads Event) : List (Event × Bool) :=
  events.groups.flatMap fun (_, group) => group.map fun e => (e, decide (1 < group.length))

def declaredNames (c : Contract) : List String :=
  c.name :: (taggedEvents c.events).map fun (e, overloaded) => e.typeName overloaded

def repeated? : List String → List String → Option String
  | _, [] => none
  | seen, n :: ns => if n ∈ seen then some n else repeated? (n :: seen) ns

def signatureFamilies (c : Contract) : List (List String) :=
  c.functions.items.map Function.signature ::
    c.events.groups.map fun (_, group) => group.map Event.signature

def clash? (c : Contract) : Option Failure :=
  match c.signatureFamilies.findSome? (repeated? []) with
  | some signature => some (.signatureCollision c.name signature)
  | none =>
    match c.declaredNames.find? isImported with
    | some name => some (.shadowedImport c.name name)
    | none => (repeated? [] c.declaredNames).map fun name => .signatureCollision c.name name

def ofAbi (abi : Items) (path : Path) (docs : Option Documentation) : Except Failure Contract :=
  match path.stem? with
  | none => .error (.missingFileName path)
  | some stem =>
    match name? stem with
    | none => .error (.invalidContractName stem)
    | some name =>
      let c : Contract := {
        name
        path := path.directoryNames
        functions := functionsOf docs abi
        events := eventsOf abi }
      match c.clash? with
      | some failure => .error failure
      | none => .ok c

def depth (c : Contract) : Nat := c.path.length

end Contract

end ContractTypings
