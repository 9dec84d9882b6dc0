import ContractTypings.Generator.Basic
import ContractTypings.Proofs.Acceptance
import ContractTypings.Proofs.ContractName
import ContractTypings.Proofs.PathComponents

namespace ContractTypings

namespace ModulePlace

def file (outDir : Path) (m : ModulePlace) : Path :=
  (m.directories.foldl Path.joinName outDir).joinName (m.name ++ ".ts")

structure IsPlain (m : ModulePlace) : Prop where
  directories : ∀ s ∈ m.directories, Path.IsName s
  name_ne_empty : m.name ≠ ""
  slash_not_mem : '/' ∉ m.name.toList

theorem IsPlain.isName_file {m : ModulePlace} (h : m.IsPlain) : Path.IsName (m.name ++ ".ts") := by
  have hl : 3 < (m.name ++ ".ts").toList.length := by
    have hn : m.name.toList ≠ [] := by simpa using h.name_ne_empty
    have hp : 0 < m.name.toList.length := List.length_pos_iff.mpr hn
    rw [String.toList_append, List.length_append, show ".ts".toList.length = 3 from rfl]
    omega
  have hne : ∀ s : String, s.toList.length ≤ 3 → m.name ++ ".ts" ≠ s := by
    intro s hs he
    rw [he] at hl
    omega
  refine ⟨hne _ (by decide), hne _ (by decide), hne _ (by decide), ?_⟩
  rw [String.toList_append, List.mem_append, not_or]
  exact ⟨h.slash_not_mem, by decide⟩

theorem components_file {m : ModulePlace} (h : m.IsPlain) (outDir : Path) :
    (m.file outDir).components =
      outDir.components ++ (m.directories.map .name ++ [.name (m.name ++ ".ts")]) := by
  rw [file, Path.components_joinName _ h.isName_file.2.2.2 h.isName_file.component?,
    Path.components_foldl_joinName _ h.directories, List.append_assoc]

theorem ofPath?_file {m : ModulePlace} (h : m.IsPlain) (outDir : Path) :
    ofPath? ((m.file outDir).relativeTo outDir) = some m := by
  have hc : ((m.file outDir).relativeTo outDir).components =
      m.directories.map .name ++ [.name (m.name ++ ".ts")] := by
    rw [Path.components_relativeTo, components_file h, List.drop_left]
    rw [components_file h]
    exact List.prefix_append _ _
  have hf : ((m.file outDir).relativeTo outDir).fileName? = some (m.name ++ ".ts") := by
    rw [Path.fileName?_eq_some_iff, hc, List.getLast?_concat]
  have hd : ((m.file outDir).relativeTo outDir).directoryNames = m.directories := by
    rw [Path.directoryNames_eq, hc, List.dropLast_concat, List.filterMap_map]
    exact List.filterMap_some
  rw [ofPath?, Path.stem?, hf, hd, Option.map_some, Option.map_some,
    Path.splitName_ts h.name_ne_empty]

theorem same_file_iff {m n : ModulePlace} {outDir : Path} (hm : m.IsPlain) (hn : n.IsPlain) :
    (m.file outDir).same (n.file outDir) = true ↔ m = n := by
  rw [Path.same, beq_iff_eq, components_file hm, components_file hn]
  constructor
  · intro h
    obtain ⟨hd, hl⟩ := List.append_inj' (List.append_cancel_left h) rfl
    have hname : m.name ++ ".ts" = n.name ++ ".ts" := by simpa using hl
    have hchars := congrArg String.toList hname
    rw [String.toList_append, String.toList_append] at hchars
    have hdirs : m.directories = n.directories := by
      apply List.map_injective_iff.mpr _ hd
      intro s s' h
      exact Path.Component.name.inj h
    obtain ⟨d, s⟩ := m
    obtain ⟨d', s'⟩ := n
    obtain rfl : d = d' := hdirs
    obtain rfl : s = s' := String.toList_inj.mp (List.append_cancel_right hchars)
    rfl
  · rintro rfl
    rfl

end ModulePlace

namespace Generator

theorem transformAt_eq_ok_some_iff {outDir path relative : Path} {contents : String}
    {f : GeneratedFile} :
    transformAt outDir path relative contents = .ok (some f) ↔
      ∃ artifact abi c, Artifact.read contents = .ok artifact ∧
        artifact.nonEmptyAbi? = some abi ∧
        Contract.ofAbi abi relative artifact.documentation = .ok c ∧
        f = ⟨modulePath outDir c, c.module.render⟩ := by
  unfold transformAt
  constructor
  · intro h
    split at h
    · cases h
    next artifact hr =>
      split at h
      · cases h
      next abi ha =>
        cases hc : Contract.ofAbi abi relative artifact.documentation with
        | error e =>
          rw [hc] at h
          cases h
        | ok c =>
          rw [hc] at h
          cases h
          exact ⟨artifact, abi, c, hr, ha, hc, rfl⟩
  · rintro ⟨artifact, abi, c, hr, ha, hc, rfl⟩
    simp only [hr, ha, hc]
    rfl

theorem path_of_transformAt {outDir path relative : Path} {contents : String} {f : GeneratedFile}
    (h : transformAt outDir path relative contents = .ok (some f)) :
    ∃ stem name, relative.stem? = some stem ∧ Contract.name? stem = some name ∧
      f.path = ModulePlace.file outDir ⟨relative.directoryNames, name⟩ := by
  obtain ⟨artifact, abi, c, -, -, hc, rfl⟩ := transformAt_eq_ok_some_iff.mp h
  obtain ⟨stem, name, hs, hn, rfl, -⟩ := Contract.ofAbi_eq_ok_iff.mp hc
  exact ⟨stem, name, hs, hn, rfl⟩

theorem isPlain_of_name? {relative : Path} {stem name : String} (hs : relative.stem? = some stem)
    (hn : Contract.name? stem = some name) :
    ModulePlace.IsPlain ⟨relative.directoryNames, name⟩ where
  directories := fun _ hm => Path.isName_of_mem_directoryNames hm
  name_ne_empty := Contract.name?_ne_empty hn
  slash_not_mem := by
    apply Contract.slash_not_mem_name? hn
    obtain ⟨file, hf, rfl⟩ := Option.map_eq_some_iff.mp hs
    have hm : .name file ∈ relative.components :=
      List.mem_of_getLast? (Path.fileName?_eq_some_iff.mp hf)
    exact fun h => (Path.isName_of_mem_components hm).2.2.2 (Path.splitName_subset file h)

theorem exists_place_of_transform {g : Generator} {t : FileTree} {p : Path} {contents : String}
    {f : GeneratedFile} (h : g.transform t p contents = .ok (some f)) :
    ∃ m : ModulePlace, m.IsPlain ∧ f.path = m.file g.outDirPath := by
  obtain ⟨stem, name, hs, hn, hp⟩ := path_of_transformAt h
  exact ⟨_, isPlain_of_name? hs hn, hp⟩

theorem exists_of_path {r : Except Failure (Option GeneratedFile)} {p : Path}
    (h : r.toOption.join.map (·.path) = some p) : ∃ f, r = .ok (some f) ∧ f.path = p := by
  obtain ⟨f, hf, hp⟩ := Option.map_eq_some_iff.mp h
  refine ⟨f, ?_, hp⟩
  cases r with
  | error e => cases hf
  | ok o =>
    obtain rfl : o = some f := Option.some.inj (Option.join_eq_some_iff.mp hf)
    rfl

end Generator

end ContractTypings
