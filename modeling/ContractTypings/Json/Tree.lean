import ContractTypings.Json.Token

/-!
The tree of a JSON text. Every text has one: where the text is broken off or breaks the grammar, the
tree says so at that place, so that all that was read before it is still there.
-/

namespace ContractTypings.Json

mutual

inductive Tree where
  | null
  | bool (b : Bool)
  | number (n : Option Number)
  | string (s : Option String)
  | array (elements : Elements)
  | object (members : Members)
  | broken

inductive Elements where
  | closed
  | cut
  | cons (element : Tree) (rest : Elements)

inductive Members where
  | closed
  | cut
  | cons (key : Option String) (value : Tree) (rest : Members)

end

mutual

def Tree.isWhole : Tree → Bool
  | .array elements => elements.isWhole
  | .object members => members.isWhole
  | .broken => false
  | .null | .bool _ | .number _ | .string _ => true

def Elements.isWhole : Elements → Bool
  | .closed => true
  | .cut => false
  | .cons element rest => element.isWhole && rest.isWhole

def Members.isWhole : Members → Bool
  | .closed => true
  | .cut => false
  | .cons _ value rest => value.isWhole && rest.isWhole

end

def Elements.size : Elements → Nat
  | .closed | .cut => 0
  | .cons _ rest => rest.size + 1

inductive Frame where
  | array (elements : List Tree)
  | object (members : List (Option String × Tree)) (key : Option String)

def Elements.prepend : List Tree → Elements → Elements
  | [], rest => rest
  | t :: ts, rest => prepend ts (.cons t rest)

def Members.prepend : List (Option String × Tree) → Members → Members
  | [], rest => rest
  | (key, value) :: ms, rest => prepend ms (.cons key value rest)

def Frame.cutAll : List Frame → Tree → Tree
  | [], t => t
  | .array elements :: frames, t =>
    cutAll frames (.array (Elements.prepend elements (.cons t .cut)))
  | .object members key :: frames, t =>
    cutAll frames (.object (Members.prepend members (.cons key t .cut)))

inductive Reading where
  | atValue (frames : List Frame) (first : Bool)
  | atKey (frames : List Frame) (members : List (Option String × Tree)) (first : Bool)
  | atColon (frames : List Frame) (members : List (Option String × Tree)) (key : Option String)
  | afterValue (frames : List Frame) (value : Tree)
  | fault (tree : Tree)
  | trailing (tree : Tree)

namespace Reading

def cut : Reading → Tree
  | .atValue (.array elements :: outer) _ =>
    Frame.cutAll outer (.array (Elements.prepend elements .cut))
  | .atValue frames _ => Frame.cutAll frames .broken
  | .atKey frames members _ => Frame.cutAll frames (.object (Members.prepend members .cut))
  | .atColon frames members key =>
    Frame.cutAll frames (.object (Members.prepend members (.cons key .broken .cut)))
  | .afterValue frames value => Frame.cutAll frames value
  | .fault tree => tree
  | .trailing tree => tree

def step : Reading → Token → Reading
  | .atValue frames _, .null => .afterValue frames .null
  | .atValue frames _, .bool b => .afterValue frames (.bool b)
  | .atValue frames _, .number n => .afterValue frames (.number n)
  | .atValue frames _, .string s => .afterValue frames (.string s)
  | .atValue frames _, .openArray => .atValue (.array [] :: frames) true
  | .atValue frames _, .openObject => .atKey frames [] true
  | .atValue (.array elements :: frames) true, .closeArray =>
    .afterValue frames (.array (Elements.prepend elements .closed))
  | .atKey frames members _, .string key => .atColon frames members key
  | .atKey frames members true, .closeObject =>
    .afterValue frames (.object (Members.prepend members .closed))
  | .atColon frames members key, .colon => .atValue (.object members key :: frames) false
  | .afterValue (.array elements :: frames) value, .comma =>
    .atValue (.array (value :: elements) :: frames) false
  | .afterValue (.array elements :: frames) value, .closeArray =>
    .afterValue frames (.array (Elements.prepend elements (.cons value .closed)))
  | .afterValue (.object members key :: frames) value, .comma =>
    .atKey frames ((key, value) :: members) false
  | .afterValue (.object members key :: frames) value, .closeObject =>
    .afterValue frames (.object (Members.prepend members (.cons key value .closed)))
  | .afterValue [] value, _ => .trailing value
  | .trailing tree, _ => .trailing tree
  | reading, _ => .fault reading.cut

end Reading

structure Document where
  tree : Tree
  ended : Bool

def Document.ofReading : Reading → Document
  | .trailing tree => ⟨tree, false⟩
  | reading => ⟨reading.cut, true⟩

def Document.ofTokens (tokens : List Token) : Document :=
  .ofReading (tokens.foldl Reading.step (.atValue [] false))

def Document.ofText (text : String) : Document := .ofTokens (tokens text.toList)

def Document.isWhole (d : Document) : Bool := d.tree.isWhole && d.ended

def Members.keys : Members → List String
  | .closed | .cut => []
  | .cons none _ rest => rest.keys
  | .cons (some key) _ rest => key :: rest.keys

mutual

def Tree.hasDistinctKeys : Tree → Bool
  | .array elements => elements.haveDistinctKeys
  | .object members => decide members.keys.Nodup && members.haveDistinctKeys
  | .null | .bool _ | .number _ | .string _ | .broken => true

def Elements.haveDistinctKeys : Elements → Bool
  | .closed | .cut => true
  | .cons element rest => element.hasDistinctKeys && rest.haveDistinctKeys

def Members.haveDistinctKeys : Members → Bool
  | .closed | .cut => true
  | .cons _ value rest => value.hasDistinctKeys && rest.haveDistinctKeys

end

end ContractTypings.Json
