import ContractTypings.Proofs.ArtifactLayout
import ContractTypings.Proofs.ModulePlaces
import ContractTypings.Proofs.Walk
import Mathlib.Data.List.Induction

namespace ContractTypings.TypeScript

open ContractTypings.Path

/-- One component on from a directory. A step up leaves the last name out; there is nothing above
the root, and above a directory that is not known by name lies another one like it. -/
def stepFrom (directory : List Component) : Component → List Component
  | .root => [.root]
  | .here => directory
  | .name s => directory ++ [.name s]
  | .up =>
    match directory.getLast? with
    | some (.name _) => directory.dropLast
    | some .root => directory
    | _ => directory ++ [.up]

def specified (directory : List Component) (specifier : String) : List Component :=
  (Path.components ⟨specifier⟩).foldl stepFrom directory

end ContractTypings.TypeScript

namespace ContractTypings

open ContractTypings.Path TypeScript

section Specified

variable {base : List Component} {names : List String}

theorem stepFrom_up (s : String) : stepFrom (base ++ [.name s]) .up = base := by
  rw [stepFrom, List.getLast?_concat]
  exact List.dropLast_concat

theorem foldl_stepFrom_up :
    (List.replicate names.length .up).foldl stepFrom (base ++ names.map .name) = base := by
  induction names using List.reverseRecOn with
  | nil => exact List.append_nil base
  | append_singleton names s ih =>
    rw [List.length_append, List.length_singleton, List.replicate_succ, List.foldl_cons,
      List.map_append, List.map_singleton, ← List.append_assoc, stepFrom_up]
    exact ih

theorem parts_ups (depth : ℕ) :
    parts (segments (String.join (List.replicate depth "../") ++ "types")) =
      List.replicate depth .up ++ [.name "types"] := by
  induction depth with
  | zero => decide
  | succ depth ih =>
    have hs : String.join (List.replicate (depth + 1) "../") ++ "types" =
        ".." ++ "/" ++ (String.join (List.replicate depth "../") ++ "types") := by
      simp [List.replicate_succ, String.append_assoc]
    have hup : parts (segments "..") = [.up] := by decide
    rw [hs, segments_append, parts_append, ih, hup]
    rfl

theorem components_sharedSpecifier (depth : ℕ) :
    components ⟨Contract.sharedSpecifier depth⟩ =
      (if depth = 0 then [.here] else []) ++ (List.replicate depth .up ++ [.name "types"]) := by
  cases depth with
  | zero => decide
  | succ depth =>
    have hl : leadOf (segments (Contract.sharedSpecifier (depth + 1))) = [] := by
      have hs : Contract.sharedSpecifier (depth + 1) =
          ".." ++ "/" ++ (String.join (List.replicate depth "../") ++ "types") := by
        simp [Contract.sharedSpecifier, List.replicate_succ, String.append_assoc]
      have hup : segments ".." = [['.', '.']] := by decide
      rw [hs, segments_append, hup]
      rfl
    rw [components_eq, hl, if_neg (Nat.succ_ne_zero depth), Contract.sharedSpecifier, parts_ups]

theorem count_up_sharedSpecifier (depth : ℕ) :
    (components ⟨Contract.sharedSpecifier depth⟩).count .up = depth := by
  rw [components_sharedSpecifier]
  split <;> simp

theorem specified_sharedSpecifier :
    specified (base ++ names.map .name) (Contract.sharedSpecifier names.length) =
      base ++ [.name "types"] := by
  have hh : ∀ cs : List Component,
      (if names.length = 0 then [.here] else []).foldl stepFrom cs = cs := by
    intro cs
    split <;> rfl
  rw [specified, components_sharedSpecifier, List.foldl_append, hh, List.foldl_append,
    foldl_stepFrom_up]
  rfl

end Specified

namespace Contract

theorem interface_mem_module {c : Contract} {name : String} :
    (∃ base members, .interface name base members ∈ c.module.declarations) ↔ name = c.name := by
  constructor
  · rintro ⟨base, members, h⟩
    simp only [Contract.module, List.mem_append, List.mem_singleton] at h
    rcases h with (h | h) | h
    · simp [imports, packageTypes] at h
    · simp [eventTypes, Event.declaration] at h
    · cases h
      rfl
  · rintro rfl
    exact ⟨_, _, List.mem_append_right _ (List.mem_singleton_self c.interface)⟩

theorem sharedTypes_mem_module {c : Contract} {specifier : String} :
    .importTypes (.named sharedTypes) specifier ∈ c.module.declarations ↔
      specifier = sharedSpecifier c.path.length := by
  constructor
  · intro h
    simp only [Contract.module, List.mem_append, List.mem_singleton] at h
    rcases h with (h | h) | h
    · simpa [imports, packageTypes, sharedTypes, depth] using h
    · simp [eventTypes, Event.declaration] at h
    · cases h
  · rintro rfl
    apply List.mem_append_left
    apply List.mem_append_left
    exact List.mem_append_right _ (List.mem_singleton_self _)

theorem dot_not_mem_name? {stem name : String} (h : name? stem = some name) :
    '.' ∉ name.toList := by
  intro hd
  rcases mem_name? h hd with ⟨-, hs⟩ | hm
  · revert hs
    decide
  · revert hm
    decide

end Contract

structure GeneratedFile.Holds (outDir : Path) (f : GeneratedFile) (m : ModulePlace)
    (module : Module) : Prop where
  directories : ∀ s ∈ m.directories, IsName s
  name_ne_empty : m.name ≠ ""
  dot_not_mem : '.' ∉ m.name.toList
  slash_not_mem : '/' ∉ m.name.toList
  path : f.path = (m.directories.foldl joinName outDir).joinName (m.name ++ ".ts")
  components : f.path.components =
    outDir.components ++ (m.directories.map .name ++ [.name (m.name ++ ".ts")])
  contents : f.contents = module.render
  interface : ∀ name, (∃ base members, .interface name base members ∈ module.declarations) ↔
    name = m.name
  sharedTypes : ∃ specifier, (∀ source, .importTypes (.named Contract.sharedTypes) source ∈
      module.declarations ↔ source = specifier) ∧
    (Path.components ⟨specifier⟩).count .up = m.directories.length ∧
    specified f.path.directoryComponents specifier = (outDir.joinName "types").components

namespace Generator

theorem directoryComponents_file {m : ModulePlace} (h : m.IsPlain) (outDir : Path) :
    (m.file outDir).directoryComponents = outDir.components ++ m.directories.map .name := by
  rw [directoryComponents_eq, ModulePlace.components_file h, ← List.append_assoc,
    List.dropLast_concat]

theorem holds_modulePath {outDir relative : Path} {stem name : String} {c : Contract}
    (hs : relative.stem? = some stem) (hn : Contract.name? stem = some name) (hc : c.name = name)
    (hp : c.path = relative.directoryNames) :
    GeneratedFile.Holds outDir ⟨modulePath outDir c, c.module.render⟩ ⟨c.path, c.name⟩
      c.module := by
  have hm : ModulePlace.IsPlain ⟨c.path, c.name⟩ := by
    rw [hc, hp]
    exact isPlain_of_name? hs hn
  refine ⟨hm.directories, hm.name_ne_empty, ?_, hm.slash_not_mem, rfl,
    ModulePlace.components_file hm outDir, rfl, fun _ => Contract.interface_mem_module,
    Contract.sharedSpecifier c.path.length, fun _ => Contract.sharedTypes_mem_module,
    count_up_sharedSpecifier _, ?_⟩
  · change '.' ∉ c.name.toList
    rw [hc]
    exact Contract.dot_not_mem_name? hn
  · have ht : component? "types".toList = some (.name "types") := by decide
    have hd : (modulePath outDir c).directoryComponents =
        outDir.components ++ c.path.map .name := directoryComponents_file hm outDir
    rw [hd, specified_sharedSpecifier, components_joinName outDir (by decide) ht]

/-- Whatever the settings and wherever the artifact lies, its module lies in directories below the
output root, and finds the shared types there. -/
theorem transform_holds {g : Generator} {t : FileTree} {p : Path} {contents : String}
    {f : GeneratedFile} (h : g.transform t p contents = .ok (some f)) :
    ∃ m module, f.Holds g.outDirPath m module := by
  obtain ⟨artifact, abi, c, -, -, hc, rfl⟩ := transformAt_eq_ok_some_iff.mp h
  obtain ⟨stem, name, hs, hn, rfl, -⟩ := Contract.ofAbi_eq_ok_iff.mp hc
  exact ⟨_, _, holds_modulePath hs hn rfl rfl⟩

theorem transform_holds_outside : ∃ (g : Generator) (t : FileTree) (p : Path) (contents : String)
    (f : GeneratedFile), g.config.inputDir = some ⟨"/in"⟩ ∧
      p = ⟨"/else/../a.sol/my-token.v2.json"⟩ ∧
      g.transform t p contents = .ok (some f) ∧ f.path = ⟨"../gen/else/a.sol/MyTokenV2.ts"⟩ ∧
      ∃ m module, f.Holds g.outDirPath m module := by
  let g : Generator := { config := { outDir := some ⟨"../gen"⟩, inputDir := some ⟨"/in"⟩ } }
  let p : Path := ⟨"/else/../a.sol/my-token.v2.json"⟩
  have hr : FileTree.resolve ⟨[], []⟩ p = p :=
    FileTree.resolve_of_absent (s := "else") (by decide) (by decide) (by decide) rfl
  have hi : FileTree.resolve ⟨[], []⟩ ⟨"/in"⟩ = ⟨"/in"⟩ :=
    FileTree.resolve_of_absent (s := "in") (by decide) (by decide) (by decide) rfl
  have hp : g.placeOf ⟨[], []⟩ p = p := by
    have hj : Path.join ⟨""⟩ p = p := by decide
    have hd : Path.join ⟨""⟩ ⟨"/in"⟩ = ⟨"/in"⟩ := by decide
    have ho : p.relativeTo ⟨"/in"⟩ = p := by decide
    simp [g, placeOf, layout, Config.layout, Config.resolve, Config.inputRoot, Layout.get?, hj, hd,
      hr, hi, ho]
  obtain ⟨f, hf, hpath⟩ : ∃ f, g.transform ⟨[], []⟩ p "[\x7b\"type\": \"fallback\"\x7d]" =
      .ok (some f) ∧ f.path = ⟨"../gen/else/a.sol/MyTokenV2.ts"⟩ := by
    apply exists_of_path
    rw [transform, hp]
    decide +kernel
  exact ⟨g, ⟨[], []⟩, p, _, f, rfl, rfl, hf, hpath, transform_holds hf⟩

end Generator

end ContractTypings
