import ContractTypings.Natspec

/-!
What a compiled artifact says about a contract. An artifact is an array of ABI items, or an object
that holds one under `abi` or under `abi` of its `compilerOutput`; any other document has no ABI.
-/

namespace ContractTypings

open Abi Json Decoder Natspec

structure Artifact where
  abi : Option Items := none
  documentation : Option Documentation := none
  deriving DecidableEq

namespace Artifact

def nonEmptyAbi? (a : Artifact) : Option Items := a.abi.filter fun items => !items.isEmpty

structure Sections where
  abi : Option Items := none
  compilerAbi : Option Items := none
  devDoc : Option DevDoc := none
  userDoc : Option UserDoc := none

def itemsOf : Value → Except Fault (Option Items)
  | .array elements => (Items.decoder.runValue (.array elements)).map some
  | _ => .ok none

def compilerItemsOf : Value → Except Fault (Option Items)
  | .object members =>
    match members.find? fun m => m.1 == "abi" with
    | some (_, v) => itemsOf v
    | none => .ok none
  | _ => .ok none

def readMember (source : Source) (room : Nat) (s : Sections) (key : String) (t : Tree) :
    Except Fault Sections :=
  match key with
  | "abi" => do
    let abi ← itemsOf (← loaded source room t)
    .ok { s with abi }
  | "compilerOutput" => do
    let compilerAbi ← compilerItemsOf (← loaded source room t)
    .ok { s with compilerAbi }
  | "devdoc" => (optional DevDoc.decoder source room t).map fun devDoc => { s with devDoc }
  | "userdoc" => (optional UserDoc.decoder source room t).map fun userDoc => { s with userDoc }
  | _ => if t.isWhole then .ok s else .error .malformed

def readMembers (source : Source) (room : Nat) : Sections → Members → Except Fault Sections
  | s, .closed => .ok s
  | _, .cut => .error .malformed
  | _, .cons none _ _ => .error .malformed
  | s, .cons (some key) t rest => do
    let s ← readMember source room s key t
    readMembers source room s rest

def ofSections (s : Sections) : Artifact where
  abi := s.abi.or s.compilerAbi
  documentation := Documentation.merge? s.devDoc s.userDoc

def decoder : Decoder Artifact
  | source, room, .array es => (Items.decoder source room (.array es)).map fun abi => { abi }
  | _, 0, .object _ => .error .malformed
  | source, room + 1, .object ms => (readMembers source room {} ms).map ofSections
  | source, room, t => (loaded source room t).map fun _ => {}

def read (text : String) : Except Fault Artifact := decoder.run text

end Artifact

end ContractTypings
