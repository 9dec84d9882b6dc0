import ContractTypings.Contract.Basic
import ContractTypings.EvmType.TypeScript
import ContractTypings.TypeScript.Printer

namespace ContractTypings

open Natspec TypeScript

def callback (value : TypeExpr) : TypeExpr := .generic "Callback" [value]

def parametersOf (inputs : List Param) : List Parameter :=
  inputs.zipIdx.map fun (p, position) => {
    name := Contract.parameterName position p.nameOrEmpty
    type := p.inputType }

def resultType : List Param → TypeExpr
  | [] => .void
  | [p] => p.outputType
  | ps => recordType Param.outputType ps

def documentedNames (doc : FunctionDoc) (inputs : List Param) : List String :=
  let names := inputs.filterMap Param.name
  names ++ doc.params.keys.filter fun name => !names.contains name

def docTexts (doc : FunctionDoc) (inputs : List Param) : List String :=
  doc.details.toList ++ doc.notice.toList ++
    (documentedNames doc inputs).filterMap
      (fun name => (doc.params.get? name).map fun text => "@param " ++ name ++ " " ++ text) ++
    doc.returns.map fun text => "@returns " ++ text

namespace Function

def transactionObject (f : Function) : String :=
  if f.mutability = .payable then "PayableTransactionObject" else "NonPayableTransactionObject"

def method (overloaded : Bool) (f : Function) : Method where
  doc := f.doc.bind fun doc => DocComment.of? (docTexts doc f.inputs)
  key := if overloaded then .quoted f.signature else .ident f.name
  params := parametersOf f.inputs
  returns := .generic f.transactionObject [resultType f.outputs]

end Function

namespace Event

/-- The topics of a log hold a hash of an indexed value that is not of fixed size. -/
def fieldType (p : Param) : TypeExpr :=
  if p.indexed && p.kind.isReference then .string else p.outputType

def declaration (overloaded : Bool) (e : Event) : Declaration :=
  .typeAlias (e.typeName overloaded) (.generic "ContractEventLog" [recordType fieldType e.inputs])

def options : Parameter := { name := "options", type := .named "EventOptions" }

def subscriptions (overloaded : Bool) (e : Event) : List Method :=
  let key : PropertyKey := if overloaded then .quoted e.signature else .ident e.name
  let value : TypeExpr := .named (e.typeName overloaded)
  let cb : Parameter := { name := "cb", type := callback value, optional := true }
  let returns : TypeExpr := .generic "ContractEventEmitter" [value]
  [{ key, params := [cb], returns },
    { key, params := [{ options with optional := true }, cb], returns }]

def listeners (e : Event) : List Method :=
  let event : Parameter := { name := "event", type := .literal e.name }
  let cb : Parameter := { name := "cb", type := callback (.named e.name) }
  [{ key := .ident "once", params := [event, cb], returns := .void },
    { key := .ident "once", params := [event, options, cb], returns := .void }]

def allEvents : Method where
  key := .ident "allEvents"
  params := [
    { options with optional := true },
    { name := "cb", type := callback (.named "EventLog"), optional := true }]
  returns := .named "EventEmitter"

end Event

namespace Contract

def methods (c : Contract) : List Method :=
  c.functions.groups.flatMap fun (_, group) => group.map (·.method (decide (1 < group.length)))

def eventTypes (c : Contract) : List Declaration :=
  (taggedEvents c.events).map fun (e, overloaded) => e.declaration overloaded

def subscriptions (c : Contract) : List Method :=
  ((taggedEvents c.events).flatMap fun (e, overloaded) => e.subscriptions overloaded) ++
    [Event.allEvents]

/-- Listeners of the events that can be told by their names alone and are not anonymous. -/
def listeners (c : Contract) : List Method :=
  c.events.groups.flatMap fun
    | (_, [e]) => if e.anonymous then [] else e.listeners
    | _ => []

def constructorMethod (c : Contract) : Method where
  key := .ident "constructor"
  params := [
    { name := "jsonInterface", type := .array .any },
    { name := "address", type := .string, optional := true },
    { name := "options", type := .named "ContractOptions", optional := true }]
  returns := .named c.name

def cloneMethod (c : Contract) : Method where
  key := .ident "clone"
  params := []
  returns := .named c.name

def members (c : Contract) : List Member :=
  [.method c.constructorMethod, .method c.cloneMethod,
    .group "methods" (c.methods.map .method),
    .group "events" (c.subscriptions.map .method)] ++
    if c.listeners.isEmpty then [] else .blank :: c.listeners.map .method

def interface (c : Contract) : Declaration := .interface c.name (some "BaseContract") c.members

def module (c : Contract) : Module where
  declarations := imports c.depth ++ c.eventTypes ++ [c.interface]

end Contract

end ContractTypings
