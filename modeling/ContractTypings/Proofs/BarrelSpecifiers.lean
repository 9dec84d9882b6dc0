import ContractTypings.Proofs.BarrelNames
import ContractTypings.Proofs.ModuleSpecifier

namespace ContractTypings

open ContractTypings.Path TypeScript

namespace TypeScript

def asModule (target : List Component) : List Component :=
  target.dropLast ++ target.getLast?.toList.map fun
    | .name s => .name (s ++ ".ts")
    | c => c

/-- The file that a specifier in a directory means: the module of that name, else the index of the
directory of that name. -/
def resolve? (files : List GeneratedFile) (directory : List Component) (specifier : String) :
    Option GeneratedFile :=
  let target := specified directory specifier
  (files.find? fun f => f.path.components == asModule target).or
    (files.find? fun f => f.path.components == target ++ [.name "index.ts"])

variable {directory : List Component} {x : String}

theorem asModule_concat :
    asModule (directory ++ [.name x]) = directory ++ [.name (x ++ ".ts")] := by
  rw [asModule, List.dropLast_concat, List.getLast?_concat]
  rfl

theorem specified_child (hx : IsName x) :
    specified directory ("./" ++ x) = directory ++ [.name x] := by
  have hs : segments ("./" ++ x) = [['.'], x.toList] := by
    have h := segments_append "." x
    rw [segments_eq_singleton (s := x) hx.2.2.2] at h
    exact h
  have hc : components ⟨"./" ++ x⟩ = [.here, .name x] := by
    rw [components_eq, hs, parts, List.filterMap_cons, List.filterMap_cons_some hx.component?]
    rfl
  rw [specified, hc]
  rfl

end TypeScript

namespace ModulePlace

variable {outDir : Path} {m : ModulePlace} {places : List ModulePlace} {d : List String}
  {x : String}

theorem mem_around : m ∈ around places ↔
    m = ⟨[], "types"⟩ ∨ m.name = "index" ∧ ∃ n ∈ places, m.directories <+: n.directories := by
  obtain ⟨d, name⟩ := m
  simp only [around, List.mem_cons, List.mem_map, Barrel.mem_directoriesOf, mk.injEq]
  apply or_congr_right
  constructor
  · rintro ⟨_, h, rfl, rfl⟩
    exact ⟨rfl, h⟩
  · rintro ⟨rfl, h⟩
    exact ⟨d, h, rfl, rfl⟩

theorem isPlain_index (hd : ∀ s ∈ d, IsName s) : IsPlain ⟨d, "index"⟩ :=
  ⟨hd, (by decide : "index" ≠ ""), (by decide : '/' ∉ "index".toList)⟩

theorem components_index (hd : ∀ s ∈ d, IsName s) (outDir : Path) :
    (file outDir ⟨d, "index"⟩).components =
      outDir.components ++ d.map .name ++ [.name "index.ts"] := by
  rw [components_file (isPlain_index hd), List.append_assoc]
  rfl

theorem resolve?_child {files : List GeneratedFile} (hd : ∀ s ∈ d, IsName s) (hx : IsName x) :
    resolve? files (outDir.components ++ d.map .name) ("./" ++ x) =
      (files.find? (·.path.same (file outDir ⟨d, x⟩))).or
        (files.find? (·.path.same (file outDir ⟨d ++ [x], "index"⟩))) := by
  have hplain : IsPlain ⟨d, x⟩ := ⟨hd, hx.1, hx.2.2.2⟩
  have hdx : ∀ s ∈ d ++ [x], IsName s := by
    intro s hs
    rcases List.mem_append.mp hs with hs | hs
    · exact hd s hs
    · rwa [List.mem_singleton.mp hs]
  have hm : asModule (outDir.components ++ d.map .name ++ [.name x]) =
      (file outDir ⟨d, x⟩).components := by
    rw [asModule_concat, components_file hplain, List.append_assoc]
  have hi : outDir.components ++ d.map .name ++ [.name x] ++ [.name "index.ts"] =
      (file outDir ⟨d ++ [x], "index"⟩).components := by
    rw [components_index hdx, List.map_append, List.map_singleton]
    simp only [List.append_assoc]
  rw [resolve?, specified_child hx, hm, hi]
  rfl

end ModulePlace

namespace Generator

variable {g : Generator} {t : FileTree} {f : Formatter} {fs ms : List GeneratedFile}
  {d : List String} {module : Module}

theorem find?_formatted {files : List GeneratedFile} {file : GeneratedFile} {p : Path}
    (hd : (files.map (·.path)).Pairwise fun p q => p.same q = false) (hf : file ∈ files)
    (hp : file.path = p) :
    (files.map (g.formatted f)).find? (·.path.same p) = some (g.formatted f file) := by
  have hpath : (g.formatted f file).path = p := (path_formatted file).trans hp
  rw [← hpath]
  apply Path.find?_same
  · rw [List.pairwise_map] at hd ⊢
    simp only [path_formatted]
    exact hd
  · exact List.mem_map_of_mem hf

section Run

variable (hm : ∀ m ∈ ms, ∃ p contents, g.transform t p contents = .ok (some m))

include hm

theorem paths_modules : ms.map (·.path) = (g.placesOf ms).map (·.file g.outDirPath) ∧
    ∀ m ∈ g.placesOf ms, m.IsPlain := by
  have hplaces : ∀ file ∈ ms, ∃ m : ModulePlace, m.IsPlain ∧ file.path = m.file g.outDirPath := by
    intro file hf
    obtain ⟨p, contents, ht⟩ := hm file hf
    exact exists_place_of_transform ht
  exact (mem_placesOf hplaces).symm

theorem exists_module {m : ModulePlace} (h : m ∈ g.placesOf ms) :
    ∃ file ∈ ms, file.path = m.file g.outDirPath := by
  have hp := List.mem_map_of_mem (f := (·.file g.outDirPath)) h
  rw [← (paths_modules hm).1] at hp
  exact List.mem_map.mp hp

theorem mem_of_same {n : ModulePlace} (hn : n.IsPlain) {file : GeneratedFile}
    (hf : file ∈ ms ++ g.finish ms) (hs : file.path.same (n.file g.outDirPath) = true) :
    n ∈ g.placesOf ms ∨ n ∈ ModulePlace.around (g.placesOf ms) := by
  obtain ⟨hpaths, hplain⟩ := paths_modules hm
  rcases List.mem_append.mp hf with hf | hf
  · have hp : file.path ∈ ms.map (·.path) := List.mem_map_of_mem hf
    rw [hpaths] at hp
    obtain ⟨m, hmem, hp⟩ := List.mem_map.mp hp
    rw [← hp, ModulePlace.same_file_iff (hplain m hmem) hn] at hs
    exact Or.inl (hs ▸ hmem)
  · have hp : file.path ∈ (g.finish ms).map (·.path) := List.mem_map_of_mem hf
    rw [paths_finish_eq] at hp
    obtain ⟨m, hmem, hp⟩ := List.mem_map.mp hp
    have hm := ModulePlace.isPlain_of_mem_around isName_of_mem_placesOf hmem
    rw [← hp, ModulePlace.same_file_iff hm hn] at hs
    exact Or.inr (hs ▸ hmem)

theorem isName_name {m : ModulePlace} (h : m ∈ g.placesOf ms) : IsName m.name := by
  obtain ⟨stem, hn⟩ := exists_stem hm h
  have hdot := Contract.dot_not_mem_name? hn
  refine ⟨Contract.name?_ne_empty hn, ?_, ?_, ((paths_modules hm).2 m h).slash_not_mem⟩
  · intro he
    rw [he] at hdot
    exact absurd hdot (by decide)
  · intro he
    rw [he] at hdot
    exact absurd hdot (by decide)

end Run

theorem isName_of_mem_index (h : (d, module) ∈ g.index ms) : ∀ s ∈ d, IsName s := by
  have hd := Index.mem_directories.mpr ⟨module, h⟩
  rw [directories_index, Barrel.mem_directoriesOf] at hd
  obtain ⟨m, hm, hpre⟩ := hd
  exact fun s hs => isName_of_mem_placesOf m hm s (hpre.subset hs)

theorem path_index (outDir : Path) (d : List String) (module : Module) :
    (Index.file outDir (d, module)).path = ModulePlace.file outDir ⟨d, "index"⟩ := by
  have hi : Barrel.fileName = "index" ++ ".ts" := by decide
  rw [Index.file, ModulePlace.file, hi]

theorem directoryComponents_index (h : (d, module) ∈ g.index ms) :
    (Index.file g.outDirPath (d, module)).path.directoryComponents =
      g.outDirPath.components ++ d.map .name := by
  rw [path_index, directoryComponents_eq, ModulePlace.components_index (isName_of_mem_index h),
    List.dropLast_concat]

section Resolve

variable (hm : ∀ m ∈ ms, ∃ p contents, g.transform t p contents = .ok (some m))
  (hd : ((ms ++ g.finish ms).map (·.path)).Pairwise fun p q => p.same q = false)
  (he : (d, module) ∈ g.index ms)

include hm hd he

theorem resolve?_module {n : String} (hn : ⟨d, n⟩ ∈ g.placesOf ms) :
    ∃ m ∈ ms, m.path = ModulePlace.file g.outDirPath ⟨d, n⟩ ∧
      resolve? ((ms ++ g.finish ms).map (g.formatted f)) (g.outDirPath.components ++ d.map .name)
        ("./" ++ n) = some (g.formatted f m) := by
  obtain ⟨m, hmem, hp⟩ := exists_module hm hn
  refine ⟨m, hmem, hp, ?_⟩
  rw [ModulePlace.resolve?_child (isName_of_mem_index he) (isName_name hm hn),
    find?_formatted hd (List.mem_append_left _ hmem) hp]
  rfl

theorem resolve?_directory {x : String} {child : Module} (hx : (d ++ [x], child) ∈ g.index ms)
    (hn : ⟨d, x⟩ ∉ g.placesOf ms) (hi : x ≠ "index") (ht : ¬ (d = [] ∧ x = "types")) :
    resolve? ((ms ++ g.finish ms).map (g.formatted f)) (g.outDirPath.components ++ d.map .name)
      ("./" ++ x) = some (g.formatted f (Index.file g.outDirPath (d ++ [x], child))) := by
  have hname : IsName x := isName_of_mem_index hx x (by simp)
  have hnone : ((ms ++ g.finish ms).map (g.formatted f)).find?
      (·.path.same (ModulePlace.file g.outDirPath ⟨d, x⟩)) = none := by
    rw [List.find?_eq_none]
    intro file hmem hs
    obtain ⟨file, hf, rfl⟩ := List.mem_map.mp hmem
    rw [path_formatted] at hs
    rcases mem_of_same hm ⟨isName_of_mem_index he, hname.1, hname.2.2.2⟩ hf hs with hp | ha
    · exact hn hp
    · rcases ModulePlace.mem_around.mp ha with h | ⟨h, -⟩
      · exact ht ((ModulePlace.mk.injEq ..).mp h)
      · exact hi h
  rw [ModulePlace.resolve?_child (isName_of_mem_index he) hname, hnone, Option.none_or]
  apply find?_formatted hd _ (path_index g.outDirPath _ child)
  apply List.mem_append_right
  rw [finish_eq]
  exact List.mem_cons_of_mem _ (List.mem_map_of_mem hx)

theorem resolve?_taken {x : String} (hx : IsName x)
    (hn : ⟨d, x⟩ ∈ g.placesOf ms ∨ x = "index" ∨ d = [] ∧ x = "types") :
    ∃ file ∈ ms ++ g.finish ms, file.path = ModulePlace.file g.outDirPath ⟨d, x⟩ ∧
      resolve? ((ms ++ g.finish ms).map (g.formatted f)) (g.outDirPath.components ++ d.map .name)
        ("./" ++ x) = some (g.formatted f file) := by
  obtain ⟨file, hf, hp⟩ : ∃ file ∈ ms ++ g.finish ms,
      file.path = ModulePlace.file g.outDirPath ⟨d, x⟩ := by
    rw [finish_eq]
    rcases hn with hn | rfl | ⟨rfl, rfl⟩
    · obtain ⟨file, hf, hp⟩ := exists_module hm hn
      exact ⟨file, List.mem_append_left _ hf, hp⟩
    · refine ⟨_, List.mem_append_right _ (List.mem_cons_of_mem _ ?_), path_index _ d module⟩
      exact List.mem_map_of_mem he
    · have ht : SharedTypes.fileName = "types" ++ ".ts" := by decide
      refine ⟨_, List.mem_append_right _ List.mem_cons_self, ?_⟩
      rw [ModulePlace.file, ht, List.foldl_nil]
  refine ⟨file, hf, hp, ?_⟩
  rw [ModulePlace.resolve?_child (isName_of_mem_index he) hx, find?_formatted hd hf hp]
  rfl

end Resolve

/-- What an index exports from a module comes from that module. What it imports as a namespace comes
from the index of the directory just if no module beside that directory has its name; else it comes
from that module, which can be a contract, the index itself or the shared types. -/
theorem index_specifiers (hg : MadeOn t g) (h : g.generate t f = .ok fs) :
    ∃ ms, g.modules t [] g.config.allFiles = .ok ms ∧
      (∀ file, file ∈ fs ∧ file.path.fileName? = some "index.ts" ↔
        ∃ e ∈ g.index ms, file = g.formatted f (Index.file g.outDirPath e)) ∧
      ∀ d module, (d, module) ∈ g.index ms →
        let directory := (Index.file g.outDirPath (d, module)).path.directoryComponents
        (∀ names source, .exportTypes names (some source) ∈ module.declarations →
          ∃ n, ∃ m ∈ ms, names = [n] ∧ source = "./" ++ n ∧
            m.path = ModulePlace.file g.outDirPath ⟨d, n⟩ ∧
            resolve? fs directory source = some (g.formatted f m)) ∧
        ∀ clause source, .importTypes clause source ∈ module.declarations →
          ∃ x child, clause = .all (Contract.namespaceName x) ∧ source = "./" ++ x ∧
            (d ++ [x], child) ∈ g.index ms ∧
            (resolve? fs directory source =
                some (g.formatted f (Index.file g.outDirPath (d ++ [x], child))) ↔
              ⟨d, x⟩ ∉ g.placesOf ms ∧ x ≠ "index" ∧ ¬ (d = [] ∧ x = "types")) ∧
            (⟨d, x⟩ ∈ g.placesOf ms ∨ x = "index" ∨ d = [] ∧ x = "types" →
              ∃ file ∈ ms ++ g.finish ms, file.path = ModulePlace.file g.outDirPath ⟨d, x⟩ ∧
                resolve? fs directory source = some (g.formatted f file)) := by
  obtain ⟨ms, hms, hm, hd, rfl⟩ := exists_modules hg h
  refine ⟨ms, hms, fun file => mem_index_iff hm, ?_⟩
  intro d module he directory
  have hdirectory : directory = g.outDirPath.components ++ d.map .name :=
    directoryComponents_index he
  obtain ⟨children, names, -, hchildren, -, hnames, hdecl⟩ :=
    (Index.isGraph_of (g.placesOf ms)).declarations d module he
  rw [hdirectory, hdecl]
  constructor
  · intro exported source hex
    obtain ⟨n, hn, rfl, rfl⟩ : ∃ n ∈ names, exported = [n] ∧ source = "./" ++ n := by
      simpa [eq_comm] using hex
    obtain ⟨m, hmem, hp, hr⟩ := resolve?_module hm hd he ((hnames n).mp hn)
    exact ⟨n, m, hmem, rfl, rfl, hp, hr⟩
  · intro clause source himport
    obtain ⟨x, hx, rfl, rfl⟩ : ∃ x ∈ children,
        clause = .all (Contract.namespaceName x) ∧ source = "./" ++ x := by
      simpa [eq_comm] using himport
    obtain ⟨child, hchild⟩ := Index.mem_directories.mp ((hchildren x).mp hx)
    have hname : IsName x := isName_of_mem_index hchild x (by simp)
    refine ⟨x, child, rfl, rfl, hchild, ⟨fun hr => ?_, ?_⟩, resolve?_taken hm hd he hname⟩
    · -- two files at once: the index below, and the one beside the directory
      by_contra htaken
      have hn : ⟨d, x⟩ ∈ g.placesOf ms ∨ x = "index" ∨ d = [] ∧ x = "types" := by
        by_contra hn
        rw [not_or, not_or] at hn
        exact htaken hn
      obtain ⟨file, -, hp, hr'⟩ := resolve?_taken hm hd he hname hn
      have hfile := congrArg GeneratedFile.path (Option.some.inj (hr.symm.trans hr'))
      rw [path_formatted, path_formatted, path_index, hp] at hfile
      have hplain : ModulePlace.IsPlain ⟨d, x⟩ :=
        ⟨isName_of_mem_index he, hname.1, hname.2.2.2⟩
      have hplain' : ModulePlace.IsPlain ⟨d ++ [x], "index"⟩ :=
        ModulePlace.isPlain_index (isName_of_mem_index hchild)
      have hsame : (ModulePlace.file g.outDirPath ⟨d ++ [x], "index"⟩).same
          (ModulePlace.file g.outDirPath ⟨d, x⟩) = true := by
        rw [hfile]
        exact Path.same_refl _
      have hdirs := congrArg ModulePlace.directories
        ((ModulePlace.same_file_iff hplain' hplain).mp hsame)
      simp at hdirs
    · rintro ⟨hn, hi, ht⟩
      exact resolve?_directory hm hd he hchild hn hi ht

theorem import_mem_module {places : List ModulePlace} {d : List String} {x : String}
    (h : d ++ [x] ∈ Barrel.directoriesOf places) :
    .importTypes (.all (Contract.namespaceName x)) ("./" ++ x) ∈
      (Barrel.of places d).module.declarations := by
  apply List.mem_append_left
  apply List.mem_append_left
  exact List.mem_map_of_mem (Barrel.mem_of_directories.mpr h)

theorem index_specifiers_vault : ∃ (g : Generator) (t : FileTree), MadeOn t g ∧
    g.config.allFiles = [⟨"/vaults/Token.json"⟩, ⟨"/Vault.json"⟩] ∧
    ∀ f, ∃ fs ms, g.generate t f = .ok fs ∧ g.modules t [] g.config.allFiles = .ok ms ∧
      ∃ module child, ([], module) ∈ g.index ms ∧ (["vaults"], child) ∈ g.index ms ∧
        resolve? fs (Index.file g.outDirPath ([], module)).path.directoryComponents "./vaults" =
          some (g.formatted f (Index.file g.outDirPath (["vaults"], child))) := by
  let text := "[\x7b\"type\": \"fallback\"\x7d]"
  let t : FileTree := ⟨[], [(["vaults"], .directory),
    (["vaults", "Token.json"], .file text.toUTF8), (["Vault.json"], .file text.toUTF8)]⟩
  let c : Config :=
    { outDir := some ⟨"out"⟩, allFiles := [⟨"/vaults/Token.json"⟩, ⟨"/Vault.json"⟩] }
  let g := ofConfig c
  have hg : MadeOn t g := MadeOn.ofConfig c
  have hlists : c.Lists t [(["vaults", "Token.json"], text), (["Vault.json"], text)] :=
    ⟨by decide, by decide, List.forall_mem_cons.mpr ⟨.of_directory (by decide) rfl rfl,
      List.forall_mem_singleton.mpr (.of_root (by decide) rfl)⟩⟩
  obtain ⟨ms, hpaths, hms, hok⟩ := exists_run hg rfl hlists rfl (by decide +kernel :
    _ = [some ⟨"out/vaults/Token.ts"⟩, some ⟨"out/Vault.ts"⟩].map some) (by decide +kernel)
  have hplaces : g.placesOf ms = [⟨["vaults"], "Token"⟩, ⟨[], "Vault"⟩] := by
    rw [placesOf_eq, hpaths]
    decide +kernel
  have hroot : [] ∈ Barrel.directoriesOf (g.placesOf ms) := by
    rw [hplaces]
    decide +kernel
  have hvaults : [] ++ ["vaults"] ∈ Barrel.directoriesOf (g.placesOf ms) := by
    rw [hplaces]
    decide +kernel
  refine ⟨g, t, hg, rfl, fun f => ?_⟩
  obtain ⟨ms', hms', -, hindex⟩ := index_specifiers hg (hok f)
  obtain rfl : ms = ms' := Except.ok.inj (hms.symm.trans hms')
  have hmodule : ([], (Barrel.of (g.placesOf ms) []).module) ∈
      g.index ms := List.mem_map_of_mem hroot
  obtain ⟨x, child, -, hx, hchild, hiff, -⟩ :=
    (hindex [] _ hmodule).2 _ _ (import_mem_module hvaults)
  obtain rfl : "vaults" = x := (String.append_right_inj _).mp hx
  refine ⟨_, ms, hok f, hms, _, child, hmodule, hchild, hiff.mpr ⟨?_, by decide, by decide⟩⟩
  rw [hplaces]
  decide

/-- A directory beside a contract with its name. -/
theorem index_specifiers_token : ¬ ∀ (g : Generator) (t : FileTree) (f : Formatter)
    (fs ms : List GeneratedFile), MadeOn t g → g.generate t f = .ok fs →
    g.modules t [] g.config.allFiles = .ok ms → ∀ d module x child, (d, module) ∈ g.index ms →
    .importTypes (.all (Contract.namespaceName x)) ("./" ++ x) ∈ module.declarations →
    (d ++ [x], child) ∈ g.index ms →
    resolve? fs (Index.file g.outDirPath (d, module)).path.directoryComponents ("./" ++ x) =
      some (g.formatted f (Index.file g.outDirPath (d ++ [x], child))) := by
  intro h
  let text := "[\x7b\"type\": \"fallback\"\x7d]"
  let t : FileTree := ⟨[], [(["Token"], .directory),
    (["Token", "Vault.json"], .file text.toUTF8), (["Token.json"], .file text.toUTF8)]⟩
  let c : Config :=
    { outDir := some ⟨"out"⟩, allFiles := [⟨"/Token/Vault.json"⟩, ⟨"/Token.json"⟩] }
  let g := ofConfig c
  have hg : MadeOn t g := MadeOn.ofConfig c
  have hlists : c.Lists t [(["Token", "Vault.json"], text), (["Token.json"], text)] :=
    ⟨by decide, by decide, List.forall_mem_cons.mpr ⟨.of_directory (by decide) rfl rfl,
      List.forall_mem_singleton.mpr (.of_root (by decide) rfl)⟩⟩
  obtain ⟨ms, hpaths, hms, hok⟩ := exists_run hg rfl hlists rfl (by decide +kernel :
    _ = [some ⟨"out/Token/Vault.ts"⟩, some ⟨"out/Token.ts"⟩].map some) (by decide +kernel)
  have hplaces : g.placesOf ms = [⟨["Token"], "Vault"⟩, ⟨[], "Token"⟩] := by
    rw [placesOf_eq, hpaths]
    decide +kernel
  have hroot : [] ∈ Barrel.directoriesOf (g.placesOf ms) := by
    rw [hplaces]
    decide +kernel
  have hchild : [] ++ ["Token"] ∈ Barrel.directoriesOf (g.placesOf ms) := by
    rw [hplaces]
    decide +kernel
  have htaken : ⟨[], "Token"⟩ ∈ g.placesOf ms := by
    rw [hplaces]
    decide
  obtain ⟨ms', hms', hm, hd, hfs⟩ := exists_modules hg (hok Formatter.absent)
  obtain rfl : ms = ms' := Except.ok.inj (hms.symm.trans hms')
  have he : ([], (Barrel.of (g.placesOf ms) []).module) ∈ g.index ms :=
    List.mem_map_of_mem hroot
  have hr := h g t Formatter.absent _ _ hg (hok _) hms [] _ "Token" _ he (import_mem_module hchild)
    (List.mem_map_of_mem hchild)
  obtain ⟨file, -, hfile, hr'⟩ := resolve?_taken hm hd he (x := "Token") (by decide) (Or.inl htaken)
  rw [directoryComponents_index he, hfs, hr'] at hr
  have hpath := congrArg GeneratedFile.path (Option.some.inj hr)
  rw [path_formatted, path_formatted, hfile, path_index] at hpath
  revert hpath
  decide +kernel

end Generator

end ContractTypings
