import ContractTypings.Failure

namespace ContractTypings

abbrev Place := List String

inductive Entry where
  | directory
  | file (bytes : ByteArray)
  | link (target : String)

def Entry.isDirectory : Entry → Bool
  | .directory => true
  | _ => false

/-- What is where below the root, which is a directory; relative paths start at `cwd`. -/
structure FileTree where
  cwd : Place
  entries : List (Place × Entry)

namespace FileTree

def get? (t : FileTree) (place : Place) : Option Entry :=
  if place = [] then some .directory
  else (t.entries.find? fun e => e.1 == place).map Prod.snd

def put (t : FileTree) (place : Place) (entry : Entry) : FileTree :=
  { t with entries := (place, entry) :: t.entries.filter fun e => e.1 != place }

def maxName : Nat := 255
def pathBound : Nat := 4096

def maxLinks : Nat := 40

inductive Target where
  | found (place : Place) (entry : Entry)
  | missing (directory : Place) (name : String) (slashes : Bool)

/-- Goes on from a place along segments, with so many links left to pass through. A link at the very
end is passed through if `follow` says so. -/
def walk (t : FileTree) (follow : Bool) (links : Nat) (place : Place) :
    List (List Char) → Except IoCause Target
  | [] => (t.get? place).elim (.error .notFound) fun entry => .ok (.found place entry)
  | segment :: rest =>
    if !(t.get? place).any Entry.isDirectory then .error .notADirectory
    else if Path.isIdle segment then walk t follow links place rest
    else if segment = ['.', '.'] then walk t follow links place.dropLast rest
    else
      let name := String.ofList segment
      if maxName < name.utf8ByteSize then .error .nameTooLong
      else
        match t.get? (place ++ [name]) with
        | none =>
          if rest.all (· = []) then .ok (.missing place name (rest ≠ [])) else .error .notFound
        | some (.link target) =>
          if rest = [] ∧ follow = false then .ok (.found (place ++ [name]) (.link target))
          else
            match links with
            | 0 => .error .tooManyLinks
            | links + 1 =>
              let start := if (⟨target⟩ : Path).isAbsolute then [] else place
              walk t follow links start (Path.segments target ++ rest)
        | some _ => walk t follow links (place ++ [name]) rest
termination_by segments => (links, segments.length)

def vacancy? (p : Path) : Option IoCause :=
  if '\x00' ∈ p.text.toList then some .nulInName
  else if p.text = "" then some .notFound
  else none

def refusal? (p : Path) : Option IoCause :=
  (vacancy? p).or (if pathBound ≤ p.text.utf8ByteSize then some .nameTooLong else none)

def start (t : FileTree) (p : Path) : Place := if p.isAbsolute then [] else t.cwd

def locate (t : FileTree) (follow : Bool) (p : Path) : Except IoCause Target :=
  match refusal? p with
  | some cause => .error cause
  | none => t.walk follow maxLinks (t.start p) (Path.segments p.text)

def isDirectory (t : FileTree) (p : Path) : Bool :=
  match t.locate true p with
  | .ok (.found _ .directory) => true
  | _ => false

def absolutePath (place : Place) : Path := ⟨"/" ++ "/".intercalate place⟩

/-- The absolute path of what a path leads to, without links; a path that leads nowhere stays as it
is. Segments are followed one by one, so that no path is too long as a whole. -/
def resolve (t : FileTree) (p : Path) : Path :=
  match vacancy? p, t.walk true maxLinks (t.start p) (Path.segments p.text) with
  | none, .ok (.found place _) => absolutePath place
  | _, _ => p

def readBytes (t : FileTree) (p : Path) : Except IoCause ByteArray :=
  match t.locate true p with
  | .error cause => .error cause
  | .ok (.found _ (.file bytes)) => .ok bytes
  | .ok (.found _ _) => .error .isADirectory
  | .ok (.missing ..) => .error .notFound

def readText (t : FileTree) (p : Path) : Except IoCause String :=
  match t.readBytes p with
  | .error cause => .error cause
  | .ok bytes => (String.fromUTF8? bytes).elim (.error .notUtf8) .ok

def writeBytes (t : FileTree) (p : Path) (bytes : ByteArray) : Except IoCause FileTree :=
  match t.locate true p with
  | .error cause => .error cause
  | .ok (.found _ .directory) => .error .isADirectory
  | .ok (.found place _) => .ok (t.put place (.file bytes))
  | .ok (.missing _ _ true) => .error .isADirectory
  | .ok (.missing directory name false) => .ok (t.put (directory ++ [name]) (.file bytes))

def makeDirectory (t : FileTree) (p : Path) : Except IoCause FileTree :=
  match refusal? p with
  | some cause => .error cause
  | none =>
    match (Path.segments p.text).reverse.dropWhile (· = []) with
    | [] => .error .alreadyExists
    | last :: before =>
      match t.walk true maxLinks (t.start p) before.reverse with
      | .error cause => .error cause
      | .ok (.missing ..) => .error .notFound
      | .ok (.found place entry) =>
        let name := String.ofList last
        if !entry.isDirectory then .error .notADirectory
        else if Path.isIdle last ∨ last = ['.', '.'] then .error .alreadyExists
        else if maxName < name.utf8ByteSize then .error .nameTooLong
        else if (t.get? (place ++ [name])).isSome then .error .alreadyExists
        else .ok (t.put (place ++ [name]) .directory)

def ensureDirectory (t : FileTree) (p : Path) : FileTree × Option IoCause :=
  match t.makeDirectory p with
  | .ok t => (t, none)
  | .error cause => (t, if t.isDirectory p then none else some cause)

def makeDirectoriesAlong (t : FileTree) : List Path → FileTree × Option IoCause
  | [] => (t, none)
  | p :: parents =>
    if p.text = "" then (t, none)
    else
      match t.makeDirectory p with
      | .error .notFound =>
        match t.makeDirectoriesAlong parents with
        | (t, none) => t.ensureDirectory p
        | stopped => stopped
      | _ => t.ensureDirectory p

def makeDirectories (t : FileTree) (p : Path) : FileTree × Option IoCause :=
  t.makeDirectoriesAlong (p :: p.ancestors)

def sortPaths (paths : List Path) : List Path := paths.mergeSort fun p q => !q.before p

def below (root : Path) (directory place : Place) : Path :=
  (place.drop directory.length).foldl Path.joinName root

def filesBelow (t : FileTree) (directory : Place) : List Place :=
  t.entries.filterMap fun (place, entry) =>
    match entry with
    | .file _ => if directory.isPrefixOf place && place != directory then some place else none
    | _ => none

/-- The files with the extension `json` below a path, in the order of their paths. The path itself
may be such a file, and it may be a link to a directory. -/
def jsonFiles (t : FileTree) (root : Path) : List Path :=
  let below (directory : Place) := (t.filesBelow directory).map (below root directory)
  let files := match t.locate false root with
    | .ok (.found _ (.file _)) => [root]
    | .ok (.found place .directory) => below place
    | .ok (.found _ (.link _)) =>
      match t.locate true root with
      | .ok (.found place .directory) => below place
      | _ => []
    | _ => []
  sortPaths (files.filter fun p => p.extension? == some "json")

end FileTree

end ContractTypings
