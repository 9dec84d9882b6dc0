import ContractTypings.Contract.Interface
import ContractTypings.FileTree.Basic
import ContractTypings.Formatter
import ContractTypings.Generator.Barrel
import ContractTypings.Generator.Layout
import ContractTypings.SharedTypes

namespace ContractTypings

open TypeScript

structure GeneratedFile where
  path : Path
  contents : String
  deriving Repr, DecidableEq

/-- The settings of a run, with the layout of its artifacts once it has been asked for. -/
structure Generator where
  config : Config := {}
  known : Option Layout := none
  deriving Repr, DecidableEq

namespace Generator

def ofConfig (c : Config) : Generator := { config := c }

def ofDirectory (t : FileTree) (root : Path) : Generator :=
  ofConfig { allFiles := t.jsonFiles root, inputDir := some root }

def setOutDir (g : Generator) (p : Path) : Generator :=
  ofConfig { g.config with outDir := some p }

def setInputDir (g : Generator) (p : Path) : Generator :=
  ofConfig { g.config with inputDir := some p }

def addFile (g : Generator) (p : Path) : Generator :=
  ofConfig { g.config with allFiles := g.config.allFiles ++ [p] }

def setPrettier (g : Generator) (on : Bool) : Generator :=
  { g with config := { g.config with prettier := on } }

def outDirPath (g : Generator) : Path := g.config.outDirPath

def layout (g : Generator) (t : FileTree) : Layout := g.known.getD (g.config.layout t)

def remember (g : Generator) (t : FileTree) : Generator := { g with known := some (g.layout t) }

def modulePath (outDir : Path) (c : Contract) : Path :=
  (c.path.foldl Path.joinName outDir).joinName (c.name ++ ".ts")

def faultIn (path : Path) : Json.Fault → Failure
  | .malformed => .json .malformed
  | .mismatch m => .malformedArtifact path m

def transformAt (outDir path relative : Path) (contents : String) :
    Except Failure (Option GeneratedFile) :=
  match Artifact.read contents with
  | .error fault => .error (faultIn path fault)
  | .ok artifact =>
    match artifact.nonEmptyAbi? with
    | none => .ok none
    | some abi =>
      (Contract.ofAbi abi relative artifact.documentation).map fun c =>
        some ⟨modulePath outDir c, c.module.render⟩

/-- The place of an artifact below the input root; one that is not listed has a root of its own,
unless one is set. -/
def placeOf (g : Generator) (t : FileTree) (p : Path) : Path :=
  let resolved := g.config.resolve t p
  match (g.layout t).get? resolved with
  | some relative => relative
  | none => resolved.relativeTo (g.config.inputRoot t [resolved])

def transform (g : Generator) (t : FileTree) (p : Path) (contents : String) :
    Except Failure (Option GeneratedFile) :=
  transformAt g.outDirPath p (g.placeOf t p) contents

def finish (g : Generator) (generated : List GeneratedFile) : List GeneratedFile :=
  let outDir := g.outDirPath
  let places := generated.filterMap fun f => ModulePlace.ofPath? (f.path.relativeTo outDir)
  ⟨outDir.joinName SharedTypes.fileName, SharedTypes.source⟩ ::
    (Barrel.directoriesOf places).map fun d =>
      ⟨(d.foldl Path.joinName outDir).joinName Barrel.fileName, (Barrel.of places d).module.render⟩

/-- The module of a listed artifact, after those that have been read; no file is read twice. -/
def moduleOf (g : Generator) (t : FileTree) (seen : List Path) (p : Path) :
    Except Failure (Option GeneratedFile) :=
  let resolved := g.config.resolve t p
  match (g.layout t).get? resolved with
  | none => .error (.duplicateOutput resolved)
  | some relative =>
    if seen.any (·.same resolved) then .error (.duplicateOutput resolved)
    else
      match t.readText resolved with
      | .error cause => .error (.io resolved cause)
      | .ok contents => transformAt g.outDirPath p relative contents

def modules (g : Generator) (t : FileTree) : List Path → List Path →
    Except Failure (List GeneratedFile)
  | _, [] => .ok []
  | seen, p :: ps => do
    let module ← g.moduleOf t seen p
    let rest ← modules g t (g.config.resolve t p :: seen) ps
    .ok (module.toList ++ rest)

def repeatedPath? : List Path → List Path → Option Path
  | _, [] => none
  | seen, p :: ps => if seen.any (·.same p) then some p else repeatedPath? (p :: seen) ps

def files (g : Generator) (t : FileTree) : Except Failure (List GeneratedFile) := do
  let generated ← g.modules t [] g.config.allFiles
  let all := generated ++ g.finish generated
  match repeatedPath? [] (all.map (·.path)) with
  | some p => .error (.duplicateOutput p)
  | none => .ok all

def formatFile (f : Formatter) (file : GeneratedFile) : GeneratedFile :=
  { file with contents := f.formatOrKeep file.contents }

def generate (g : Generator) (t : FileTree) (f : Formatter) : Except Failure (List GeneratedFile) :=
  (g.files t).map fun all => if g.config.prettier then all.map (formatFile f) else all

end Generator

end ContractTypings
