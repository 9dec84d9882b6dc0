import ContractTypings.Generator.Basic

namespace ContractTypings

namespace Generator

inductive Start where
  | ofConfig (c : Config)
  | default
  | ofDirectory (root : Path)

inductive Call where
  | setOutDir (p : Path)
  | setInputDir (p : Path)
  | addFile (p : Path)
  | setPrettier (on : Bool)
  | transform (p : Path) (contents : String)
  | generate (f : Formatter)

inductive Answer where
  | module (result : Except Failure (Option GeneratedFile))
  | files (result : Except Failure (List GeneratedFile))

def start (t : FileTree) : Start → Generator
  | .ofConfig c => ofConfig c
  | .default => {}
  | .ofDirectory root => ofDirectory t root

/-- The generator after a call; one that needs the layout leaves it behind, even if it fails. -/
def after (t : FileTree) (g : Generator) : Call → Generator
  | .setOutDir p => g.setOutDir p
  | .setInputDir p => g.setInputDir p
  | .addFile p => g.addFile p
  | .setPrettier on => g.setPrettier on
  | .transform _ _ => g.remember t
  | .generate _ => g.remember t

def answer? (t : FileTree) (g : Generator) : Call → Option Answer
  | .transform p contents => some (.module (g.transform t p contents))
  | .generate f => some (.files (g.generate t f))
  | _ => none

def answers (t : FileTree) : Generator → List Call → List Answer
  | _, [] => []
  | g, c :: cs => (g.answer? t c).toList ++ answers t (g.after t c) cs

end Generator

namespace Config

def after (c : Config) : Generator.Call → Config
  | .setOutDir p => { c with outDir := some p }
  | .setInputDir p => { c with inputDir := some p }
  | .addFile p => { c with allFiles := c.allFiles ++ [p] }
  | .setPrettier on => { c with prettier := on }
  | .transform _ _ => c
  | .generate _ => c

def answers (t : FileTree) : Config → List Generator.Call → List Generator.Answer
  | _, [] => []
  | c, call :: calls =>
    ((Generator.ofConfig c).answer? t call).toList ++ answers t (c.after call) calls

end Config

end ContractTypings
