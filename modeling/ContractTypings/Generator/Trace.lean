import ContractTypings.Generator.Bindings
import ContractTypings.Text.Visible

namespace ContractTypings

open Abi

inductive Report where
  | unsupportedType (raw : String)
  | starting (artifacts : Nat)
  | reading (path : Path)
  | skipping (path : Path)
  | generating (module artifact : Path)
  | modules (count : Nat)
  | barrels (count : Nat)
  | unformatted (reason : String)
  | written (count : Nat)
  deriving Repr, DecidableEq

def Report.line : Report → String
  | .unsupportedType raw => "WARN unsupported ABI type `" ++ raw ++ "`, falling back to `any`"
  | .starting artifacts => "DEBUG generating bindings for " ++ toString artifacts ++ " artifacts"
  | .reading path => "TRACE reading " ++ path.text
  | .skipping path => "TRACE skipping " ++ path.text ++ ", no ABI"
  | .generating module artifact => "TRACE generating " ++ module.text ++ " from " ++ artifact.text
  | .modules count => "DEBUG generated " ++ toString count ++ " contract modules"
  | .barrels count => "DEBUG generated " ++ toString count ++ " barrel files"
  | .unformatted reason =>
    "DEBUG skipping prettier formatting err=Message(" ++ Text.visible reason ++ ")"
  | .written count => "DEBUG wrote " ++ toString count ++ " files"

namespace Contract

def unknownTypes (abi : Items) : List String :=
  ((itemsOfType "function" abi).flatMap fun i =>
    unknownKinds (Param.ofComponents i.inputs) ++ unknownKinds (Param.ofComponents i.outputs)) ++
  (itemsOfType "event" abi).flatMap fun i => unknownKinds (Param.ofComponents i.inputs)

def reports (abi : Items) (path : Path) : List Report :=
  match path.stem?.bind name? with
  | none => []
  | some _ => (unknownTypes abi).map .unsupportedType

end Contract

namespace Generator

def reportsAt (outDir path relative : Path) (contents : String) : List Report :=
  match Artifact.read contents with
  | .error _ => []
  | .ok artifact =>
    match artifact.nonEmptyAbi? with
    | none => [.skipping path]
    | some abi =>
      Contract.reports abi relative ++
        match Contract.ofAbi abi relative artifact.documentation with
        | .error _ => []
        | .ok c => [.generating (modulePath outDir c) relative]

def transformReports (g : Generator) (t : FileTree) (p : Path) (contents : String) : List Report :=
  reportsAt g.outDirPath p (g.placeOf t p) contents

def finishReports (g : Generator) (generated : List GeneratedFile) : List Report :=
  [.barrels ((g.finish generated).length - 1)]

def moduleReports (g : Generator) (t : FileTree) : List Path → List Path → List Report
  | _, [] => []
  | seen, p :: ps =>
    let resolved := g.config.resolve t p
    match (g.layout t).get? resolved with
    | none => []
    | some relative =>
      if seen.any (·.same resolved) then []
      else
        .reading resolved ::
          match t.readText resolved with
          | .error _ => []
          | .ok contents =>
            reportsAt g.outDirPath p relative contents ++
              match transformAt g.outDirPath p relative contents with
              | .error _ => []
              | .ok _ => moduleReports g t (resolved :: seen) ps

def formatReports (f : Formatter) (files : List GeneratedFile) : List Report :=
  files.filterMap fun file =>
    match f.format file.contents with
    | .ok _ => none
    | .error reason => some (.unformatted reason)

def generateReports (g : Generator) (t : FileTree) (f : Formatter) : List Report :=
  .starting g.config.allFiles.length :: g.moduleReports t [] g.config.allFiles ++
    match g.modules t [] g.config.allFiles with
    | .error _ => []
    | .ok generated =>
      .modules generated.length :: g.finishReports generated ++
        match g.files t with
        | .error _ => []
        | .ok all => if g.config.prettier then formatReports f all else []

end Generator

namespace Bindings

def writeReports (b : Bindings) (t : FileTree) : List Report :=
  match (b.write t).2 with
  | none => [.written b.size]
  | some _ => []

end Bindings

end ContractTypings
