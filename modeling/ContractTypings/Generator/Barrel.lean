import ContractTypings.Contract.Name
import ContractTypings.Path
import ContractTypings.TypeScript.Printer

/-!
The index modules of directories: each exports the contracts in its directory by name, and the
directories below it as namespaces.
-/

namespace ContractTypings

open TypeScript

def insertOrdered {α : Type} (lt : α → α → Bool) (a : α) : List α → List α
  | [] => [a]
  | b :: bs =>
    if lt a b then a :: b :: bs
    else if lt b a then b :: insertOrdered lt a bs
    else b :: bs

def orderedSet {α : Type} (lt : α → α → Bool) (as : List α) : List α :=
  as.foldr (insertOrdered lt) []

def namesInOrder (names : List String) : List String := orderedSet (fun a b => decide (a < b)) names

structure ModulePlace where
  directories : List String
  name : String
  deriving Repr, DecidableEq

def ModulePlace.ofPath? (p : Path) : Option ModulePlace :=
  p.stem?.map fun name => ⟨p.directoryNames, name⟩

def withOuter (directories : List String) : List (List String) :=
  (List.range (directories.length + 1)).map directories.take

structure Barrel where
  directories : List String
  modules : List String
  deriving Repr, DecidableEq

namespace Barrel

def fileName : String := "index.ts"

def child? (directory : List String) (m : ModulePlace) : Option String :=
  if directory.isPrefixOf m.directories then m.directories[directory.length]? else none

def of (places : List ModulePlace) (directory : List String) : Barrel where
  directories := namesInOrder (places.filterMap (child? directory))
  modules := namesInOrder ((places.filter (·.directories = directory)).map (·.name))

def directoriesOf (places : List ModulePlace) : List (List String) :=
  orderedSet (fun a b => decide (a < b)) (places.flatMap fun m => withOuter m.directories)

def module (b : Barrel) : Module where
  declarations :=
    b.directories.map (fun d => .importTypes (.all (Contract.namespaceName d)) ("./" ++ d)) ++
      b.directories.map (fun d => .exportTypes [Contract.namespaceName d] none) ++
      b.modules.map fun name => .exportTypes [name] (some ("./" ++ name))

end Barrel

end ContractTypings
