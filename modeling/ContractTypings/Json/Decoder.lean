import ContractTypings.Json.Fault
import ContractTypings.Json.Value

/-!
Decoders of JSON trees. A decoder goes through a tree from left to right, as a reader goes through
its text, and reports the first fault it meets.
-/

namespace ContractTypings.Json

def maxNesting : Nat := 127

inductive Source where
  | text
  | value
  deriving Repr, DecidableEq

/-- Reads a tree; the number says how many nested arrays and objects there is room for. -/
abbrev Decoder (α : Type) := Source → Nat → Tree → Except Fault α

namespace Decoder

variable {α β : Type}

def string : Decoder String
  | _, _, .string (some s) => .ok s
  | _, _, t => .error (t.wrongType .string)

def path : Decoder String
  | _, _, .string (some s) => .ok s
  | _, _, t => .error (t.wrongType .path)

def bool : Decoder Bool
  | _, _, .bool b => .ok b
  | _, _, t => .error (t.wrongType .boolean)

def optional (d : Decoder α) : Decoder (Option α)
  | _, _, .null => .ok none
  | source, room, t => (d source room t).map some

def elements (read : Tree → Except Fault α) : Elements → Except Fault (List α)
  | .closed => .ok []
  | .cut => .error .malformed
  | .cons t rest => do
    let a ← read t
    let as ← elements read rest
    .ok (a :: as)

def list (d : Decoder α) : Decoder (List α)
  | _, 0, .array _ => .error .malformed
  | source, room + 1, .array es => elements (d source room) es
  | _, _, t => .error (t.wrongType .sequence)

def entries (read : Tree → Except Fault α) : Members → Dictionary α → Except Fault (Dictionary α)
  | .closed, d => .ok d
  | .cut, _ => .error .malformed
  | .cons none _ _, _ => .error .malformed
  | .cons (some key) value rest, d => do
    let a ← read value
    entries read rest (d.insert key a)

def dictionary (d : Decoder α) : Decoder (Dictionary α)
  | _, 0, .object _ => .error .malformed
  | source, room + 1, .object ms => entries (d source room) ms ∅
  | _, _, t => .error (t.wrongType .map)

structure Slot (α : Type) where
  key : String
  required : Bool
  store : Source → Nat → Tree → α → Except Fault α

def slot (key : String) (d : Decoder β) (put : β → α → α) : Slot α where
  key := key
  required := false
  store source room t a := (d source room t).map fun b => put b a

def requiredSlot (key : String) (d : Decoder β) (put : β → α → α) : Slot α :=
  { slot key d put with required := true }

def unfilled? (slots : List (Slot α)) (seen : List String) : Option Mismatch :=
  (slots.find? fun s => s.required && !seen.contains s.key).map fun s => .missingField s.key

/-- Reads the members of an object into a record. The value of an unknown key is passed over as long
as it keeps to the grammar, and a known key may not be repeated. -/
def fields (slots : List (Slot α)) (source : Source) (room : Nat) :
    List String → α → Members → Except Fault α
  | seen, a, .closed =>
    match unfilled? slots seen with
    | some m => .error (.mismatch m)
    | none => .ok a
  | _, _, .cut => .error .malformed
  | _, _, .cons none _ _ => .error .malformed
  | seen, a, .cons (some key) value rest =>
    match slots.find? fun s => s.key == key with
    | none => if value.isWhole then fields slots source room seen a rest else .error .malformed
    | some s =>
      if seen.contains key then .error (.mismatch (.duplicateField key))
      else do
        let a ← s.store source room value a
        fields slots source room (key :: seen) a rest

def requiredAt? (slots : List (Slot α)) : Option Nat := slots.findIdx? fun s => s.required

/-- Reads the elements of an array into a record, in the order of its fields. `size` is the length
of the whole array, and `position` says how many elements have been read. -/
def positions (name : String) (size count : Nat) (source : Source) (room : Nat) :
    Nat → List (Slot α) → α → Elements → Except Fault α
  | _, _, _, .cut => .error .malformed
  | position, slots, a, .closed =>
    match requiredAt? slots with
    | some i => .error (.mismatch (.tooShort (position + i) name count))
    | none => .ok a
  | _, [], _, .cons _ _ =>
    match source with
    | .text => .error .malformed
    | .value => .error (.mismatch (.tooLong size))
  | position, s :: slots, a, .cons t rest => do
    let a ← s.store source room t a
    positions name size count source room (position + 1) slots a rest

def record (name : String) (initial : α) (slots : List (Slot α)) : Decoder α
  | _, 0, .array _ | _, 0, .object _ => .error .malformed
  | source, room + 1, .object ms => fields slots source room [] initial ms
  | source, room + 1, .array es =>
    positions name es.size slots.length source room 0 slots initial es
  | _, _, t => .error (t.wrongType (.record name))

def loaded : Decoder Value := fun _ room t =>
  match t.load? room with
  | some v => .ok v
  | none => .error .malformed

def run (d : Decoder α) (text : String) : Except Fault α := do
  let document := Document.ofText text
  let a ← d .text maxNesting document.tree
  if document.ended then .ok a else .error .malformed

def runValue (d : Decoder α) (v : Value) : Except Fault α := d .value maxNesting v.tree

end Decoder

end ContractTypings.Json
