import ContractTypings.Proofs.CamelCase
import ContractTypings.Proofs.OutputPaths
import ContractTypings.TypeScript.Scope

namespace ContractTypings

open TypeScript

namespace TypeScript

def Declaration.exported : Declaration → List String
  | .importTypes _ _ => []
  | .typeAlias name _ | .interface name _ _ => [name]
  | .exportTypes names _ => names

def Module.exported (m : Module) : List String := m.declarations.flatMap Declaration.exported

end TypeScript

theorem Path.fileName?_joinName {p : Path} {s : String} (hs : IsName s) :
    (p.joinName s).fileName? = some s := by
  rw [fileName?_eq_some_iff, components_joinName p hs.2.2.2 hs.component?, List.getLast?_concat]

namespace Barrel

theorem exported_module (b : Barrel) :
    b.module.exported = b.directories.map Contract.namespaceName ++ b.modules := by
  have himports : (b.directories.map fun d =>
      Declaration.importTypes (.all (Contract.namespaceName d)) ("./" ++ d)).flatMap
        Declaration.exported = [] := by
    rw [List.flatMap_map, List.flatMap_eq_nil_iff]
    exact fun _ _ => rfl
  have hdirectories : (b.directories.map fun d =>
      Declaration.exportTypes [Contract.namespaceName d] none).flatMap Declaration.exported =
        b.directories.map Contract.namespaceName := by
    rw [List.flatMap_map]
    exact List.map_eq_flatMap.symm
  have hmodules : (b.modules.map fun n =>
      Declaration.exportTypes [n] (some ("./" ++ n))).flatMap Declaration.exported = b.modules := by
    rw [List.flatMap_map]
    exact List.flatMap_singleton' _
  rw [Module.exported, Barrel.module, List.flatMap_append, List.flatMap_append, himports,
    hdirectories, hmodules, List.nil_append]

theorem nodup_exported_iff {b : Barrel} (hd : b.directories.Nodup) (hm : b.modules.Nodup) :
    b.module.exported.Nodup ↔
      (∀ x ∈ b.directories, ∀ y ∈ b.directories, Text.camelCase x = Text.camelCase y → x = y) ∧
        ∀ x ∈ b.directories, ∀ n ∈ b.modules, n ≠ Contract.namespaceName x := by
  rw [exported_module, List.nodup_append, List.nodup_map_iff_inj_on hd]
  simp only [Contract.namespaceName_eq_iff, hm, true_and, List.mem_map, forall_exists_index,
    and_imp, forall_apply_eq_imp_iff₂]
  apply and_congr_right
  intro _
  simp only [ne_comm]

end Barrel

namespace Generator

variable {g : Generator} {t : FileTree} {f : Formatter} {fs ms : List GeneratedFile}

def index (g : Generator) (generated : List GeneratedFile) : Index :=
  (Barrel.directoriesOf (g.placesOf generated)).map fun d =>
    (d, (Barrel.of (g.placesOf generated) d).module)

theorem directories_index (g : Generator) (generated : List GeneratedFile) :
    (g.index generated).directories = Barrel.directoriesOf (g.placesOf generated) := by
  rw [Index.directories, index, List.map_map]
  exact List.map_id _

theorem finish_eq (g : Generator) (generated : List GeneratedFile) :
    g.finish generated = ⟨g.outDirPath.joinName SharedTypes.fileName, SharedTypes.source⟩ ::
      (g.index generated).map (Index.file g.outDirPath) := by
  rw [finish, index, List.map_map]
  rfl

def formatted (g : Generator) (f : Formatter) (file : GeneratedFile) : GeneratedFile :=
  if g.config.prettier then formatFile f file else file

theorem path_formatted (file : GeneratedFile) : (g.formatted f file).path = file.path := by
  unfold formatted
  split <;> rfl

theorem generate_eq_ok_iff : g.generate t f = .ok fs ↔
    ∃ all, g.files t = .ok all ∧ fs = all.map (g.formatted f) := by
  have hmap : ∀ all : List GeneratedFile,
      (if g.config.prettier then all.map (formatFile f) else all) = all.map (g.formatted f) := by
    intro all
    unfold formatted
    split <;> simp
  unfold generate
  cases g.files t with
  | error e => simp [Except.map]
  | ok all =>
    constructor
    · intro h
      exact ⟨all, rfl, (Except.ok.inj h).symm.trans (hmap all)⟩
    · rintro ⟨all', he, rfl⟩
      obtain rfl := Except.ok.inj he
      exact congrArg Except.ok (hmap all)

theorem exists_modules (hg : MadeOn t g) (h : g.generate t f = .ok fs) :
    ∃ ms, g.modules t [] g.config.allFiles = .ok ms ∧
      (∀ m ∈ ms, ∃ p contents, g.transform t p contents = .ok (some m)) ∧
      ((ms ++ g.finish ms).map (·.path)).Pairwise (fun p q => p.same q = false) ∧
      fs = (ms ++ g.finish ms).map (g.formatted f) := by
  obtain ⟨all, hall, rfl⟩ := generate_eq_ok_iff.mp h
  obtain ⟨os, ha, rfl, hr⟩ := (files_eq_ok_iff hg).mp hall
  refine ⟨_, (modules_eq_ok_iff hg).mpr ⟨os, ha, rfl⟩, ?_, (repeatedPath?_eq_none_iff.mp hr).2, rfl⟩
  intro m hm
  obtain ⟨hf, -⟩ := accepts_iff.mp ha
  obtain ⟨p, -, contents, -, ht⟩ := mem_reduceOption_of_forall₂ hf hm
  exact ⟨p, contents, ht⟩

theorem mem_index_iff (hm : ∀ m ∈ ms, ∃ p contents, g.transform t p contents = .ok (some m))
    {file : GeneratedFile} :
    file ∈ (ms ++ g.finish ms).map (g.formatted f) ∧ file.path.fileName? = some "index.ts" ↔
      ∃ e ∈ g.index ms, file = g.formatted f (Index.file g.outDirPath e) := by
  constructor
  · rintro ⟨hmem, hn⟩
    obtain ⟨file, hf, rfl⟩ := List.mem_map.mp hmem
    rw [path_formatted] at hn
    rcases List.mem_append.mp hf with hf | hf
    · obtain ⟨p, contents, ht⟩ := hm file hf
      obtain ⟨stem, name, hs, hname, hpath⟩ := path_of_transformAt ht
      have hplain := isPlain_of_name? hs hname
      rw [hpath, ModulePlace.file, Path.fileName?_joinName hplain.isName_file] at hn
      have hindex : name ++ ".ts" = "index" ++ ".ts" := Option.some.inj hn
      exact absurd ((String.append_left_inj _).mp hindex) (Contract.name?_ne_shared hname).2
    · rw [finish_eq] at hf
      rcases List.mem_cons.mp hf with rfl | hf
      · rw [Path.fileName?_joinName (by decide)] at hn
        exact absurd hn (by decide)
      · obtain ⟨e, he, rfl⟩ := List.mem_map.mp hf
        exact ⟨e, he, rfl⟩
  · rintro ⟨e, he, rfl⟩
    constructor
    · apply List.mem_map_of_mem
      apply List.mem_append_right
      rw [finish_eq]
      exact List.mem_cons_of_mem _ (List.mem_map_of_mem he)
    · rw [path_formatted]
      exact Path.fileName?_joinName (by decide)

theorem exists_stem (hm : ∀ m ∈ ms, ∃ p contents, g.transform t p contents = .ok (some m))
    {m : ModulePlace} (h : m ∈ g.placesOf ms) : ∃ stem, Contract.name? stem = some m.name := by
  obtain ⟨file, hf, hplace⟩ := List.mem_filterMap.mp h
  obtain ⟨p, contents, ht⟩ := hm file hf
  obtain ⟨stem, name, hs, hname, hpath⟩ := path_of_transformAt ht
  rw [hpath, ModulePlace.ofPath?_file (isPlain_of_name? hs hname)] at hplace
  obtain rfl := Option.some.inj hplace
  exact ⟨stem, hname⟩

/-- An index exports no name twice just if its directories differ in camel case and no contract has
the name of one of them. Only names from outside of ASCII, or with an underscore in front, can be
those of a contract and of a directory. -/
theorem index_exports (hg : MadeOn t g) (h : g.generate t f = .ok fs) :
    ∃ ms, g.modules t [] g.config.allFiles = .ok ms ∧
      (∀ file, file ∈ fs ∧ file.path.fileName? = some "index.ts" ↔
        ∃ e ∈ g.index ms, file = g.formatted f (Index.file g.outDirPath e)) ∧
      ∀ d module, (d, module) ∈ g.index ms →
        (module.exported.Nodup ↔
          (∀ x, d ++ [x] ∈ (g.index ms).directories → ∀ y, d ++ [y] ∈ (g.index ms).directories →
            Text.camelCase x = Text.camelCase y → x = y) ∧
          ∀ x, d ++ [x] ∈ (g.index ms).directories → ∀ n, ⟨d, n⟩ ∈ g.placesOf ms →
            n ≠ Contract.namespaceName x) ∧
        ∀ x n c, ⟨d, n⟩ ∈ g.placesOf ms → n = Contract.namespaceName x →
          n.toList.head? = some c → c = '_' ∨ 0x7A < c.toNat := by
  obtain ⟨ms, hms, hm, -, rfl⟩ := exists_modules hg h
  refine ⟨ms, hms, fun file => mem_index_iff hm, ?_⟩
  intro d module he
  obtain ⟨e, -, he⟩ := List.mem_map.mp he
  obtain ⟨rfl, rfl⟩ := Prod.mk.inj he
  constructor
  · rw [Barrel.nodup_exported_iff (Barrel.pairwise_of_directories _ e).nodup
      (Barrel.pairwise_of_modules _ e).nodup]
    simp only [Barrel.mem_of_directories, Barrel.mem_of_modules, directories_index]
  · rintro x n c hn rfl hc
    obtain ⟨stem, hstem⟩ := exists_stem hm hn
    have hcontract := Contract.head_name? hstem hc
    rcases Contract.head_namespaceName hc with hu | hl
    · exact Or.inl hu
    · right
      omega

theorem index_exports_vault : ∃ (g : Generator) (t : FileTree), MadeOn t g ∧
    g.config.allFiles = [⟨"/token-utils/Token.json"⟩, ⟨"/Vault.json"⟩] ∧
    ∀ f, ∃ fs ms, g.generate t f = .ok fs ∧ g.modules t [] g.config.allFiles = .ok ms ∧
      ∃ module, ([], module) ∈ g.index ms ∧ module.exported.Nodup := by
  let text := "[\x7b\"type\": \"fallback\"\x7d]"
  let t : FileTree := ⟨[], [(["token-utils"], .directory),
    (["token-utils", "Token.json"], .file text.toUTF8), (["Vault.json"], .file text.toUTF8)]⟩
  let c : Config :=
    { outDir := some ⟨"out"⟩, allFiles := [⟨"/token-utils/Token.json"⟩, ⟨"/Vault.json"⟩] }
  let g := ofConfig c
  have hg : MadeOn t g := MadeOn.ofConfig c
  have hlists : c.Lists t [(["token-utils", "Token.json"], text), (["Vault.json"], text)] :=
    ⟨by decide, by decide, List.forall_mem_cons.mpr ⟨.of_directory (by decide) rfl rfl,
      List.forall_mem_singleton.mpr (.of_root (by decide) rfl)⟩⟩
  obtain ⟨ms, hpaths, hms, hok⟩ := exists_run hg rfl hlists rfl (by decide +kernel :
    _ = [some ⟨"out/token-utils/Token.ts"⟩, some ⟨"out/Vault.ts"⟩].map some) (by decide +kernel)
  have hplaces : g.placesOf ms = [⟨["token-utils"], "Token"⟩, ⟨[], "Vault"⟩] := by
    rw [placesOf_eq, hpaths]
    decide +kernel
  have hdirectories : (g.index ms).directories = [[], ["token-utils"]] := by
    rw [directories_index, hplaces]
    decide +kernel
  refine ⟨g, t, hg, rfl, fun f => ?_⟩
  obtain ⟨ms', hms', -, hindex⟩ := index_exports hg (hok f)
  obtain rfl : ms = ms' := Except.ok.inj (hms.symm.trans hms')
  obtain ⟨module, hmodule⟩ := Index.mem_directories.mp
    (hdirectories ▸ List.mem_cons_self : [] ∈ (g.index ms).directories)
  refine ⟨_, ms, hok f, hms, module, hmodule, ?_⟩
  apply (hindex [] module hmodule).1.mpr
  rw [hdirectories, hplaces]
  constructor
  · intro x hx y hy _
    have hx : x = "token-utils" := by simpa using hx
    have hy : y = "token-utils" := by simpa using hy
    rw [hx, hy]
  · intro x hx n hn
    have hx : x = "token-utils" := by simpa using hx
    have hn : n = "Vault" := by simpa using hn
    rw [hx, hn]
    decide +kernel

/-- Two directories that are one in camel case. -/
theorem index_exports_token_utils : ¬ ∀ (g : Generator) (t : FileTree) (f : Formatter)
    (fs ms : List GeneratedFile), MadeOn t g → g.generate t f = .ok fs →
    g.modules t [] g.config.allFiles = .ok ms →
    ∀ d module, (d, module) ∈ g.index ms → module.exported.Nodup := by
  intro h
  let text := "[\x7b\"type\": \"fallback\"\x7d]"
  let t : FileTree := ⟨[], [(["token-utils"], .directory),
    (["token-utils", "Token.json"], .file text.toUTF8), (["token_utils"], .directory),
    (["token_utils", "Vault.json"], .file text.toUTF8)]⟩
  let c : Config :=
    { outDir := some ⟨"out"⟩,
      allFiles := [⟨"/token-utils/Token.json"⟩, ⟨"/token_utils/Vault.json"⟩] }
  let g := ofConfig c
  have hg : MadeOn t g := MadeOn.ofConfig c
  have hlists : c.Lists t [(["token-utils", "Token.json"], text),
      (["token_utils", "Vault.json"], text)] :=
    ⟨by decide, by decide, List.forall_mem_cons.mpr ⟨.of_directory (by decide) rfl rfl,
      List.forall_mem_singleton.mpr (.of_directory (by decide) rfl rfl)⟩⟩
  obtain ⟨ms, hpaths, hms, hok⟩ := exists_run hg rfl hlists rfl (by decide +kernel :
    _ = [some ⟨"out/token-utils/Token.ts"⟩, some ⟨"out/token_utils/Vault.ts"⟩].map some)
    (by decide +kernel)
  have hplaces : g.placesOf ms = [⟨["token-utils"], "Token"⟩, ⟨["token_utils"], "Vault"⟩] := by
    rw [placesOf_eq, hpaths]
    decide +kernel
  have hmem : [] ∈ Barrel.directoriesOf (g.placesOf ms) := by
    rw [hplaces]
    decide +kernel
  have hn := h g t Formatter.absent _ _ hg (hok _) hms [] _ (List.mem_map_of_mem hmem)
  rw [Barrel.exported_module, hplaces] at hn
  revert hn
  decide +kernel

end Generator

end ContractTypings
