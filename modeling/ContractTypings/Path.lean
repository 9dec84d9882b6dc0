namespace ContractTypings

structure Path where
  text : String
  deriving Repr, DecidableEq

namespace Path

inductive Component where
  | root
  | here
  | up
  | name (s : String)
  deriving Repr, DecidableEq

def Component.rank : Component → Nat
  | .root => 0
  | .here => 1
  | .up => 2
  | .name _ => 3

def Component.before : Component → Component → Bool
  | .name s, .name t => s < t
  | a, b => a.rank < b.rank

def segments (s : String) : List (List Char) := s.toList.splitOn '/'

def isIdle (segment : List Char) : Bool := segment == [] || segment == ['.']

def component? (segment : List Char) : Option Component :=
  if isIdle segment then none
  else if segment = ['.', '.'] then some .up
  else some (.name (String.ofList segment))

def isAbsolute (p : Path) : Bool := p.text.toList.head? == some '/'

def startsHere (p : Path) : Bool := (segments p.text).head? == some ['.']

def lead (p : Path) : List Component :=
  if p.isAbsolute then [.root] else if p.startsHere then [.here] else []

def components (p : Path) : List Component :=
  p.lead ++ (segments p.text).filterMap component?

def same (p q : Path) : Bool := p.components == q.components

def trimIdle (segments : List (List Char)) : List (List Char) :=
  (segments.reverse.dropWhile isIdle).reverse

def ofSegments (segments : List (List Char)) : String :=
  String.ofList (['/'].intercalate segments)

def body (p : Path) : String × List (List Char) :=
  if p.isAbsolute then ("/", (segments p.text).drop 1)
  else if p.startsHere then
    match (segments p.text).drop 1 with
    | [] => (".", [])
    | segments => (".", [] :: segments)
  else ("", segments p.text)

def parent? (p : Path) : Option Path :=
  let (lead, segments) := p.body
  match trimIdle segments with
  | [] => if lead = "." then some ⟨""⟩ else none
  | kept => some ⟨lead ++ ofSegments (trimIdle kept.dropLast)⟩

def ancestorsUpTo : Nat → Path → List Path
  | 0, _ => []
  | n + 1, p =>
    match p.parent? with
    | none => []
    | some q => q :: ancestorsUpTo n q

def ancestors (p : Path) : List Path := ancestorsUpTo p.components.length p

def fileName? (p : Path) : Option String :=
  match p.components.getLast? with
  | some (.name s) => some s
  | _ => none

/-- The part of a name before its last dot, and the part after it. A dot at the very start belongs
to the name. -/
def splitName (name : String) : String × Option String :=
  let back := name.toList.reverse
  match back.dropWhile (· != '.') with
  | _ :: c :: stem =>
    (String.ofList (c :: stem).reverse, some (String.ofList (back.takeWhile (· != '.')).reverse))
  | _ => (name, none)

def stem? (p : Path) : Option String := p.fileName?.map fun name => (splitName name).1

def extension? (p : Path) : Option String := p.fileName?.bind fun name => (splitName name).2

def join (p q : Path) : Path :=
  if q.isAbsolute then q
  else if p.text = "" ∨ p.text.toList.getLast? = some '/' then ⟨p.text ++ q.text⟩
  else ⟨p.text ++ "/" ++ q.text⟩

def joinName (p : Path) (name : String) : Path := p.join ⟨name⟩

def dropComponents : Nat → List (List Char) → List (List Char)
  | 0, segments => segments.dropWhile isIdle
  | n + 1, segments => dropComponents n ((segments.dropWhile isIdle).drop 1)

def trimmed (p : Path) : Path :=
  let (lead, segments) := p.body
  ⟨lead ++ ofSegments (trimIdle segments)⟩

def relativeTo (p base : Path) : Path :=
  if base.components.isPrefixOf p.components then
    if base.components = [] then p.trimmed
    else
      let n := base.components.length - p.lead.length
      ⟨ofSegments (trimIdle (dropComponents n (segments p.text)))⟩
  else p

def Component.text : Component → String
  | .root => "/"
  | .here => "."
  | .up => ".."
  | .name s => s

def ofComponents (components : List Component) : Path :=
  components.foldl (fun p c => p.joinName c.text) ⟨""⟩

def directoryNames (p : Path) : List String :=
  match p.parent? with
  | none => []
  | some dir => dir.components.filterMap fun
    | .name s => some s
    | _ => none

def componentsBefore : List Component → List Component → Bool
  | _, [] => false
  | [], _ :: _ => true
  | a :: as, b :: bs => if a = b then componentsBefore as bs else a.before b

def before (p q : Path) : Bool := componentsBefore p.components q.components

end Path

end ContractTypings
