import ContractTypings.Generator.Basic

namespace ContractTypings

structure Bindings where
  files : List GeneratedFile := []
  deriving Repr, DecidableEq

namespace Bindings

def size (b : Bindings) : Nat := b.files.length

def isEmpty (b : Bindings) : Bool := b.files.isEmpty

def get? (b : Bindings) (p : Path) : Option GeneratedFile := b.files.find? (·.path.same p)

def makeDirectoryOf (t : FileTree) (f : GeneratedFile) : FileTree × Option Failure :=
  match f.path.parent? with
  | none => (t, none)
  | some dir => ((t.makeDirectories dir).1, (t.makeDirectories dir).2.map (.io dir))

/-- Writes one file after making its directory; gives the tree that is left and why it stopped. -/
def writeFile (t : FileTree) (f : GeneratedFile) : FileTree × Option Failure :=
  match makeDirectoryOf t f with
  | (t, some failure) => (t, some failure)
  | (t, none) =>
    match t.writeBytes f.path f.contents.toUTF8 with
    | .ok t => (t, none)
    | .error cause => (t, some (.io f.path cause))

def writeAll (t : FileTree) : List GeneratedFile → FileTree × Option Failure
  | [] => (t, none)
  | f :: fs =>
    match writeFile t f with
    | (t, none) => writeAll t fs
    | stopped => stopped

def write (b : Bindings) (t : FileTree) : FileTree × Option Failure := writeAll t b.files

def deviation? (t : FileTree) (f : GeneratedFile) : Option Failure :=
  match t.readBytes f.path with
  | .ok bytes => if bytes.data = f.contents.toUTF8.data then none else some (.inconsistent f.path)
  | .error .notFound => some (.inconsistent f.path)
  | .error cause => some (.io f.path cause)

def inconsistency? (b : Bindings) (t : FileTree) : Option Failure :=
  b.files.findSome? (deviation? t)

end Bindings

end ContractTypings
