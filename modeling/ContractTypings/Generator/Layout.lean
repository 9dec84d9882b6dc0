import ContractTypings.FileTree.Basic
import ContractTypings.Generator.Config

namespace ContractTypings

def commonStart {α : Type} [DecidableEq α] : List α → List α → List α
  | a :: as, b :: bs => if a = b then a :: commonStart as bs else []
  | _, _ => []

def Path.directoryComponents (p : Path) : List Path.Component :=
  (p.parent?.map Path.components).getD []

def commonAncestor : List Path → Path
  | [] => ⟨""⟩
  | file :: files =>
    .ofComponents (files.foldl (fun shared f => commonStart shared f.directoryComponents)
      file.directoryComponents)

def isSourceDirectory (dir : Path) : Bool :=
  dir.fileName?.any fun name => ".sol".toList.isSuffixOf name.toList

def shortenArtifact (p : Path) : Path :=
  match p.parent?, p.fileName? with
  | some dir, some file =>
    match dir.parent? with
    | some outer => if isSourceDirectory dir then outer.joinName file else p
    | none => p
  | _, _ => p

/-- Shortens paths, except those that would fall together. -/
def shortenArtifacts (paths : List Path) : List Path :=
  let short := paths.map shortenArtifact
  paths.map fun p =>
    if 1 < short.countP (·.same (shortenArtifact p)) then p else shortenArtifact p

abbrev Layout := List (Path × Path)

namespace Layout

def get? (l : Layout) (resolved : Path) : Option Path :=
  (l.reverse.find? fun e => e.1.same resolved).map Prod.snd

end Layout

namespace Config

def defaultOutDir : Path := ⟨"./types/web3-bignumber/"⟩

def outDirPath (c : Config) : Path := c.cwd.join (c.outDir.getD defaultOutDir)

def resolve (c : Config) (t : FileTree) (p : Path) : Path := t.resolve (c.cwd.join p)

def inputRoot (c : Config) (t : FileTree) (files : List Path) : Path :=
  match c.inputDir with
  | some dir => c.resolve t dir
  | none => commonAncestor files

def layout (c : Config) (t : FileTree) : Layout :=
  let files := c.allFiles.map (c.resolve t)
  let root := c.inputRoot t files
  files.zip ((shortenArtifacts files).map (·.relativeTo root))

end Config

end ContractTypings
