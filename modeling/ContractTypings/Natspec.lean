import ContractTypings.Abi.Json
import ContractTypings.Dictionary

namespace ContractTypings.Natspec

open Abi Json Decoder

structure MethodDevDoc where
  details : Option String := none
  params : Dictionary String := ∅
  legacyReturn : Option String := none
  returns : Dictionary String := ∅
  deriving DecidableEq

structure DevDoc where
  details : Option String := none
  title : Option String := none
  methods : Dictionary MethodDevDoc := ∅
  deriving DecidableEq

inductive MethodUserDoc where
  | notice (text : Option String)
  | bare (text : String)
  deriving Repr, DecidableEq

structure UserDoc where
  notice : Option String := none
  methods : Dictionary MethodUserDoc := ∅
  deriving DecidableEq

def MethodUserDoc.text? : MethodUserDoc → Option String
  | .notice text => text
  | .bare text => some text

def MethodDevDoc.decoder : Decoder MethodDevDoc := record "MethodDevDoc" {} [
  slot "details" (optional string) fun v d => { d with details := v },
  slot "params" (dictionary string) fun v d => { d with params := v },
  slot "return" (optional string) fun v d => { d with legacyReturn := v },
  slot "returns" (dictionary string) fun v d => { d with returns := v }]

def DevDoc.decoder : Decoder DevDoc := record "DevDoc" {} [
  slot "details" (optional string) fun v d => { d with details := v },
  slot "title" (optional string) fun v d => { d with title := v },
  slot "methods" (dictionary MethodDevDoc.decoder) fun v d => { d with methods := v }]

def valuesOf (key : String) : Members → List Tree
  | .closed | .cut => []
  | .cons k value rest => if k = some key then value :: valuesOf key rest else valuesOf key rest

/-- An object with at most one notice, or a text. Whatever it is, it must be readable as a whole. -/
def MethodUserDoc.decoder : Decoder MethodUserDoc := fun source room t => do
  let _ ← loaded source room t
  let noForm := .error (.mismatch (.noForm "MethodUserDoc"))
  match t with
  | .string (some s) => .ok (.bare s)
  | .object ms =>
    match valuesOf "notice" ms with
    | [] | [.null] => .ok (.notice none)
    | [.string (some s)] => .ok (.notice (some s))
    | _ => noForm
  | _ => noForm

def UserDoc.decoder : Decoder UserDoc := record "UserDoc" {} [
  slot "notice" (optional string) fun v d => { d with notice := v },
  slot "methods" (dictionary MethodUserDoc.decoder) fun v d => { d with methods := v }]

def dictionaryValue {α : Type} (value : α → Value) (d : Dictionary α) : Value :=
  .object (d.entries.map fun entry => (entry.1, value entry.2))

def MethodDevDoc.value (d : MethodDevDoc) : Value := .object
  (member? "details" .string d.details ++
    [("params", dictionaryValue .string d.params)] ++
    member? "return" .string d.legacyReturn ++
    [("returns", dictionaryValue .string d.returns)])

def DevDoc.value (d : DevDoc) : Value := .object
  (member? "details" .string d.details ++
    member? "title" .string d.title ++
    [("methods", dictionaryValue MethodDevDoc.value d.methods)])

def MethodUserDoc.value : MethodUserDoc → Value
  | .notice none => .object [("notice", .null)]
  | .notice (some text) => .object [("notice", .string text)]
  | .bare text => .string text

def UserDoc.value (d : UserDoc) : Value := .object
  (member? "notice" .string d.notice ++
    [("methods", dictionaryValue MethodUserDoc.value d.methods)])

structure FunctionDoc where
  details : Option String := none
  notice : Option String := none
  params : Dictionary String := ∅
  returns : List String := []
  deriving DecidableEq

def FunctionDoc.isEmpty (d : FunctionDoc) : Bool :=
  d.details.isNone && d.notice.isNone && d.params.isEmpty && d.returns.isEmpty

structure Documentation where
  notice : Option String := none
  methods : Dictionary FunctionDoc := ∅
  deriving DecidableEq

def FunctionDoc.ofDevDoc (d : MethodDevDoc) : FunctionDoc :=
  { details := d.details, params := d.params, returns := d.legacyReturn.toList ++ d.returns.values }

def addNotice (methods : Dictionary FunctionDoc) (entry : String × MethodUserDoc) :
    Dictionary FunctionDoc :=
  methods.insert entry.1 { (methods.get? entry.1).getD {} with notice := entry.2.text? }

def Documentation.merge? : Option DevDoc → Option UserDoc → Option Documentation
  | none, none => none
  | dev, user =>
    let ofDev :=
      .ofList ((dev.getD {}).methods.entries.map fun e => (e.1, FunctionDoc.ofDevDoc e.2))
    some {
      notice := user.bind UserDoc.notice
      methods := (user.getD {}).methods.entries.foldl addNotice ofDev }

def Documentation.function? (d : Documentation) (signature : String) : Option FunctionDoc :=
  d.methods.get? signature

end ContractTypings.Natspec
