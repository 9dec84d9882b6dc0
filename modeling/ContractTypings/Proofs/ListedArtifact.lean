import ContractTypings.Proofs.ArtifactOrder
import ContractTypings.Proofs.DefaultRoot

namespace ContractTypings

namespace Path

/-- Whether a file has one place below a root, with the source directory around it or without: it
lies in none, or the root is that directory and lies in no directory with a name. -/
def HasOnePlace (root p : Path) : Prop :=
  ∀ d s file, p.components = d ++ [.name s, .name file] → ".sol".toList <:+ s.toList →
    root.components = d ++ [.name s] ∧ s ≠ file ∧ d.filterMap Component.name? = []

variable {root p q : Path} {d : List Component} {s file : String}

theorem directoryNames_relativeTo (h : root.components <+: p.components) :
    (p.relativeTo root).directoryNames = namesBelow root p := by
  rw [directoryNames_eq, components_relativeTo h, namesBelow]

theorem stem?_of_components (hp : p.components = d ++ [.name file]) :
    p.stem? = some (splitName file).1 := by
  have hf : p.fileName? = some file := by rw [fileName?_eq_some_iff, hp, List.getLast?_concat]
  rw [stem?, hf]
  rfl

theorem stem?_relativeTo (hp : p.components = d ++ [.name file]) (h : root.components <+: d) :
    (p.relativeTo root).stem? = some (splitName file).1 := by
  obtain ⟨rest, rfl⟩ := h
  rw [List.append_assoc] at hp
  apply stem?_of_components (d := rest)
  rw [components_relativeTo ⟨_, hp.symm⟩, hp, List.drop_left]

theorem stem?_relativeTo_self (h : root.components = p.components) :
    (p.relativeTo root).stem? = none := by
  have hc : (p.relativeTo root).components = [] := by
    rw [components_relativeTo (h ▸ List.prefix_rfl), h, List.drop_length]
  rw [stem?, fileName?, hc]
  rfl

theorem namesBelow_of_source (hp : p.components = d ++ [.name s, .name file])
    (hq : q.components = d ++ [.name file]) (hr : root.components <+: d) :
    namesBelow root p = namesBelow root q ++ [s] := by
  obtain ⟨rest, rfl⟩ := hr
  rw [namesBelow, namesBelow, hp, hq, List.append_assoc, List.append_assoc, List.drop_left,
    List.drop_left, List.dropLast_concat, List.dropLast_append_of_ne_nil (by simp),
    List.filterMap_append]
  rfl

end Path

open ContractTypings.Path

theorem resolve_of_absent {c : Config} {t : FileTree} {p : Path} {s : String}
    (ha : p.isAbsolute = true) (hp : [[], s.toList] <+: segments p.text) (hs : IsName s)
    (he : t.get? [s] = none) : c.resolve t p = p := by
  rw [Config.resolve, join, if_pos ha]
  exact FileTree.resolve_of_absent ha hp hs he

theorem shortenArtifact_eq_self {p : Path}
    (h : ∀ d s file, p.components = d ++ [.name s, .name file] → ¬ ".sol".toList <:+ s.toList) :
    shortenArtifact p = p := by
  cases hf : p.fileName? with
  | none =>
    unfold shortenArtifact
    rw [hf]
    split
    next he => cases he
    · rfl
  | some file =>
    rcases shortenArtifact_cases hf with ⟨d, s, hc, hs, -⟩ | ⟨he, -⟩
    · exact absurd hs (h d s file hc)
    · exact he

theorem shortenArtifact_same {p q : Path} (h : p.same q = true) :
    (shortenArtifact p).same (shortenArtifact q) = true := by
  simp only [same, beq_iff_eq] at h ⊢
  by_cases hs : ∃ d s file, p.components = d ++ [.name s, .name file] ∧ ".sol".toList <:+ s.toList
  · obtain ⟨d, s, file, hp, hs⟩ := hs
    rw [components_shortenArtifact hp hs, components_shortenArtifact (h ▸ hp) hs]
  · rw [shortenArtifact_eq_self fun d s file hc hsol => hs ⟨d, s, file, hc, hsol⟩,
      shortenArtifact_eq_self fun d s file hc hsol => hs ⟨d, s, file, h ▸ hc, hsol⟩, h]

namespace Generator

variable {outDir path relative relative' : Path} {contents : String} {f f' : GeneratedFile}

theorem transformAt_congr {stem : String} (hs : relative.stem? = some stem)
    (hs' : relative'.stem? = some stem) (hd : relative.directoryNames = relative'.directoryNames)
    (contents : String) :
    transformAt outDir path relative contents = transformAt outDir path relative' contents := by
  simp only [transformAt, Contract.ofAbi, hs, hs', hd]

theorem transformAt_moved (h : transformAt outDir path relative contents = .ok (some f))
    (hs : relative'.stem? = relative.stem?) :
    ∃ name f', transformAt outDir path relative' contents = .ok (some f') ∧
      f.path = ModulePlace.file outDir ⟨relative.directoryNames, name⟩ ∧
      f'.path = ModulePlace.file outDir ⟨relative'.directoryNames, name⟩ := by
  obtain ⟨artifact, abi, c, hr, ha, hc, rfl⟩ := transformAt_eq_ok_some_iff.mp h
  obtain ⟨stem, name, hstem, hn, rfl, hclash⟩ := Contract.ofAbi_eq_ok_iff.mp hc
  let c : Contract := ⟨name, relative'.directoryNames,
    Contract.functionsOf artifact.documentation abi, Contract.eventsOf abi⟩
  have hc' : Contract.ofAbi abi relative' artifact.documentation = .ok c :=
    Contract.ofAbi_eq_ok_iff.mpr ⟨stem, name, hs.trans hstem, hn, rfl, hclash⟩
  exact ⟨name, ⟨modulePath outDir c, c.module.render⟩,
    transformAt_eq_ok_some_iff.mpr ⟨artifact, abi, c, hr, ha, hc', rfl⟩, rfl, rfl⟩

theorem stem?_ne_none_of_transformAt
    (h : transformAt outDir path relative contents = .ok (some f)) : relative.stem? ≠ none := by
  obtain ⟨stem, -, hs, -⟩ := path_of_transformAt h
  rw [hs]
  exact nofun

theorem directoryNames_of_transformAt
    (h : transformAt outDir path relative contents = .ok (some f))
    (h' : transformAt outDir path relative' contents = .ok (some f)) :
    relative.directoryNames = relative'.directoryNames := by
  obtain ⟨stem, name, hs, hn, hp⟩ := path_of_transformAt h
  obtain ⟨stem', name', hs', hn', hp'⟩ := path_of_transformAt h'
  have hsame : (ModulePlace.file outDir ⟨relative.directoryNames, name⟩).same
      (ModulePlace.file outDir ⟨relative'.directoryNames, name'⟩) = true := by
    rw [← hp, ← hp']
    exact same_refl _
  exact congrArg ModulePlace.directories
    ((ModulePlace.same_file_iff (isPlain_of_name? hs hn) (isPlain_of_name? hs' hn')).mp hsame)

section Places

variable {root p : Path}

theorem transformAt_shortened (h : HasOnePlace root p) (contents : String) :
    transformAt outDir path ((shortenArtifact p).relativeTo root) contents =
      transformAt outDir path (p.relativeTo root) contents := by
  by_cases hsol : ∃ d s file, p.components = d ++ [.name s, .name file] ∧ ".sol".toList <:+ s.toList
  · obtain ⟨d, s, file, hp, hs⟩ := hsol
    obtain ⟨hr, hsf, hd⟩ := h d s file hp hs
    have hshort := components_shortenArtifact hp hs
    have hsplit : p.components = (d ++ [.name s]) ++ [.name file] := by simp [hp]
    have hin : root.components <+: p.components := by
      rw [hr, hsplit]
      exact List.prefix_append _ _
    have hout : ¬ root.components <+: (shortenArtifact p).components := by
      rw [hr, hshort]
      intro hpre
      have he := hpre.eq_of_length (by simp)
      simp [hsf] at he
    have hstem : (p.relativeTo root).stem? = some (splitName file).1 :=
      stem?_relativeTo hsplit (hr ▸ List.prefix_rfl)
    have hdrop : p.components.drop root.components.length = [.name file] := by
      rw [hr, hsplit, List.drop_left]
    rw [relativeTo_of_not_isPrefix hout]
    apply transformAt_congr (stem?_of_components hshort) hstem
    rw [directoryNames_eq, directoryNames_eq, hshort, List.dropLast_concat, hd,
      components_relativeTo hin, hdrop]
    rfl
  · rw [shortenArtifact_eq_self fun d s file hc hs => hsol ⟨d, s, file, hc, hs⟩]

theorem hasOnePlace_of_transformAt
    (h : transformAt outDir path (p.relativeTo root) contents = .ok (some f))
    (h' : transformAt outDir path ((shortenArtifact p).relativeTo root) contents = .ok (some f)) :
    HasOnePlace root p := by
  intro d s file hp hs
  have hshort := components_shortenArtifact hp hs
  have hnames := directoryNames_of_transformAt h h'
  have hstem := stem?_ne_none_of_transformAt h
  have hstem' := stem?_ne_none_of_transformAt h'
  have hfull : p.directoryNames = d.filterMap Component.name? ++ [s] := by
    rw [directoryNames_eq, hp, List.dropLast_append_of_ne_nil (by simp), List.filterMap_append]
    rfl
  have hcut : (shortenArtifact p).directoryNames = d.filterMap Component.name? := by
    rw [directoryNames_eq, hshort, List.dropLast_concat]
  have hsplit : p.components = (d ++ [.name s]) ++ [.name file] := by simp [hp]
  by_cases hin : root.components <+: p.components
  · have hbelow := hin
    rw [hsplit, List.prefix_concat_iff, List.prefix_concat_iff] at hbelow
    rcases hbelow with hr | hr | hr
    · exact absurd (stem?_relativeTo_self (hr.trans hsplit.symm)) hstem
    · have hout : ¬ root.components <+: (shortenArtifact p).components := by
        intro hpre
        refine hstem' (stem?_relativeTo_self (hpre.eq_of_length ?_))
        simp [hr, hshort]
      refine ⟨hr, ?_, ?_⟩
      · rintro rfl
        exact hout ⟨[], by rw [List.append_nil, hr, hshort]⟩
      · rw [directoryNames_relativeTo hin, relativeTo_of_not_isPrefix hout, hcut, namesBelow,
          hsplit, hr, List.drop_left] at hnames
        exact hnames.symm
    · have hpre : root.components <+: (shortenArtifact p).components := by
        rw [hshort]
        exact hr.trans (List.prefix_append _ _)
      rw [directoryNames_relativeTo hin, directoryNames_relativeTo hpre,
        namesBelow_of_source hp hshort hr] at hnames
      simp at hnames
  · rw [relativeTo_of_not_isPrefix hin, hfull] at hnames
    by_cases hpre : root.components <+: (shortenArtifact p).components
    · have hbelow := hpre
      rw [hshort, List.prefix_concat_iff] at hbelow
      rcases hbelow with hr | hr
      · exact absurd (stem?_relativeTo_self (hr.trans hshort.symm)) hstem'
      · apply absurd _ hin
        rw [hp]
        exact hr.trans (List.prefix_append _ _)
    · rw [relativeTo_of_not_isPrefix hpre, hcut] at hnames
      simp at hnames

end Places

section Listed

variable {g : Generator} {t : FileTree} {dir p : Path} (hg : MadeOn t g)
  (hi : g.config.inputDir = some dir)
  (hs : ∀ q ∈ g.config.allFiles, (shortenArtifact (g.config.resolve t q)).same
    (shortenArtifact (g.config.resolve t p)) = false)

include hg hi hs

theorem placeOf_unlisted :
    g.placeOf t p = (g.config.resolve t p).relativeTo (g.config.resolve t dir) := by
  have hnone : (g.layout t).get? (g.config.resolve t p) = none := by
    rw [hg.layout_eq, Layout.get?, Option.map_eq_none_iff, List.find?_eq_none]
    intro e he hsame
    rw [Config.layout_eq_map] at he
    obtain ⟨r, hr, rfl⟩ := List.mem_map.mp (List.mem_reverse.mp he)
    obtain ⟨q, hq, rfl⟩ := List.mem_map.mp hr
    have hfalse := hs q hq
    rw [shortenArtifact_same hsame] at hfalse
    cases hfalse
  simp only [placeOf, hnone, Config.inputRoot, hi]

omit hg in
theorem placeOf_addFile : (g.addFile p).placeOf t p =
    (shortenArtifact (g.config.resolve t p)).relativeTo (g.config.resolve t dir) := by
  have hfiles : (g.addFile p).config.resolvedFiles t =
      g.config.resolvedFiles t ++ [g.config.resolve t p] := by
    rw [Config.resolvedFiles, Config.resolvedFiles]
    exact List.map_append
  have hcount : ((g.addFile p).config.resolvedFiles t |>.map shortenArtifact).countP
      (·.same (shortenArtifact (g.config.resolve t p))) = 1 := by
    have hzero : ((g.config.resolvedFiles t).map shortenArtifact).countP
        (·.same (shortenArtifact (g.config.resolve t p))) = 0 := by
      rw [List.countP_eq_zero]
      intro r hr hsame
      obtain ⟨q, hq, rfl⟩ := List.mem_map.mp hr
      obtain ⟨u, hu, rfl⟩ := List.mem_map.mp hq
      rw [hs u hu] at hsame
      cases hsame
    rw [hfiles, List.map_append, List.countP_append, hzero]
    simp [same_refl]
  have hshort : shortenAmong ((g.addFile p).config.resolvedFiles t) (g.config.resolve t p) =
      shortenArtifact (g.config.resolve t p) := by
    rw [shortenAmong, hcount]
    exact if_neg (Nat.lt_irrefl 1)
  have hroot : (g.addFile p).config.inputRoot t ((g.addFile p).config.resolvedFiles t) =
      g.config.resolve t dir := by
    have hi' : (g.addFile p).config.inputDir = some dir := hi
    rw [Config.inputRoot, hi']
    rfl
  have hget : ((g.addFile p).layout t).get? (g.config.resolve t p) =
      some ((shortenArtifact (g.config.resolve t p)).relativeTo (g.config.resolve t dir)) := by
    have hlayout : (g.addFile p).layout t = (g.addFile p).config.layout t := rfl
    rw [hlayout, Config.layout_eq_map, hroot, hfiles, List.map_append, Layout.get?,
      List.reverse_append, ← hfiles]
    simp only [List.map_cons, List.map_nil, List.reverse_singleton, List.singleton_append,
      List.find?_cons, same_refl, hshort, Option.map_some]
  have hresolve : (g.addFile p).config.resolve t p = g.config.resolve t p := rfl
  rw [placeOf, hresolve, hget]

/-- Whether an artifact is listed makes no difference to its module exactly where shortening its
path does not move it. Else the module lies right in the source directory as long as the artifact
is not listed, and beside that directory from then on. -/
theorem transform_addFile :
    (HasOnePlace (g.config.resolve t dir) (g.config.resolve t p) →
      ∀ contents, (g.addFile p).transform t p contents = g.transform t p contents) ∧
    (∀ contents f, g.transform t p contents = .ok (some f) →
      ((g.addFile p).transform t p contents = .ok (some f) ↔
        HasOnePlace (g.config.resolve t dir) (g.config.resolve t p))) ∧
    ∀ d s file, (g.config.resolve t p).components = d ++ [.name s, .name file] →
      ".sol".toList <:+ s.toList → (g.config.resolve t dir).components <+: d →
      ∀ contents f, g.transform t p contents = .ok (some f) →
        ∃ directories name f', (g.addFile p).transform t p contents = .ok (some f') ∧
          f.path = ModulePlace.file g.outDirPath ⟨directories ++ [s], name⟩ ∧
          f'.path = ModulePlace.file g.outDirPath ⟨directories, name⟩ := by
  have hbefore := placeOf_unlisted hg hi hs
  have hafter := placeOf_addFile hi hs
  have hout : (g.addFile p).outDirPath = g.outDirPath := rfl
  simp only [transform, hbefore, hafter, hout]
  refine ⟨fun h contents => transformAt_shortened h contents, ?_, ?_⟩
  · intro contents f hf
    constructor
    · exact hasOnePlace_of_transformAt hf
    · intro h
      rw [transformAt_shortened h, hf]
  · intro d s file hp hsol hroot contents f hf
    have hshort := components_shortenArtifact hp hsol
    have hin : (g.config.resolve t dir).components <+: (g.config.resolve t p).components := by
      rw [hp]
      exact hroot.trans (List.prefix_append _ _)
    have hin' : (g.config.resolve t dir).components <+:
        (shortenArtifact (g.config.resolve t p)).components := by
      rw [hshort]
      exact hroot.trans (List.prefix_append _ _)
    have hsplit : (g.config.resolve t p).components = (d ++ [.name s]) ++ [.name file] := by
      simp [hp]
    have hstem := stem?_relativeTo hsplit (hroot.trans (List.prefix_append _ _))
    have hstem' := stem?_relativeTo hshort hroot
    obtain ⟨name, f', h', hpath, hpath'⟩ := transformAt_moved hf (hstem'.trans hstem.symm)
    rw [directoryNames_relativeTo hin, namesBelow_of_source hp hshort hroot] at hpath
    rw [directoryNames_relativeTo hin'] at hpath'
    exact ⟨_, name, f', h', hpath, hpath'⟩

end Listed

theorem exists_unlisted {g : Generator} {t : FileTree} {dir out : Path} {s : String}
    (hg : MadeOn t g) (hi : g.config.inputDir = some dir) (p : Path) (contents : String)
    (hs : IsName s) (he : t.get? [s] = none)
    (hbelow : ∀ q ∈ dir :: p :: g.config.allFiles,
      q.isAbsolute = true ∧ [[], s.toList] <+: segments q.text)
    (hapart : ∀ q ∈ g.config.allFiles, (shortenArtifact q).same (shortenArtifact p) = false)
    (hout : (transformAt g.outDirPath p (p.relativeTo dir) contents).toOption.join.map (·.path) =
      some out) :
    g.config.resolve t dir = dir ∧ g.config.resolve t p = p ∧
      (∀ q ∈ g.config.allFiles, (shortenArtifact (g.config.resolve t q)).same
        (shortenArtifact (g.config.resolve t p)) = false) ∧
      ∃ f, g.transform t p contents = .ok (some f) ∧ f.path = out := by
  have hr : ∀ q ∈ dir :: p :: g.config.allFiles, g.config.resolve t q = q :=
    fun q hq => resolve_of_absent (hbelow q hq).1 (hbelow q hq).2 hs he
  obtain ⟨hdir, hr⟩ := List.forall_mem_cons.mp hr
  obtain ⟨hp, hfiles⟩ := List.forall_mem_cons.mp hr
  have hshort : ∀ q ∈ g.config.allFiles, (shortenArtifact (g.config.resolve t q)).same
      (shortenArtifact (g.config.resolve t p)) = false := by
    intro q hq
    rw [hfiles q hq, hp]
    exact hapart q hq
  refine ⟨hdir, hp, hshort, exists_of_path ?_⟩
  rw [transform, placeOf_unlisted hg hi hshort, hp, hdir]
  exact hout

theorem transform_addFile_vaults : ∃ (g : Generator) (t : FileTree) (text : String), MadeOn t g ∧
    g.config.inputDir = some ⟨"/in"⟩ ∧ g.config.allFiles = [⟨"/in/Token.sol/Token.json"⟩] ∧
    g.config.resolve t ⟨"/in/v1/Vault.json"⟩ = ⟨"/in/v1/Vault.json"⟩ ∧
    g.config.resolve t ⟨"/in/v2.sol/Vault.json"⟩ = ⟨"/in/v2.sol/Vault.json"⟩ ∧
    (∃ f, g.transform t ⟨"/in/v1/Vault.json"⟩ text = .ok (some f) ∧
      (g.addFile ⟨"/in/v1/Vault.json"⟩).transform t ⟨"/in/v1/Vault.json"⟩ text = .ok (some f)) ∧
    ∃ f directories name f', g.transform t ⟨"/in/v2.sol/Vault.json"⟩ text = .ok (some f) ∧
      (g.addFile ⟨"/in/v2.sol/Vault.json"⟩).transform t ⟨"/in/v2.sol/Vault.json"⟩ text =
        .ok (some f') ∧
      f.path = ModulePlace.file g.outDirPath ⟨directories ++ ["v2.sol"], name⟩ ∧
      f'.path = ModulePlace.file g.outDirPath ⟨directories, name⟩ := by
  let g : Generator := ofConfig
    { outDir := some ⟨"out"⟩, inputDir := some ⟨"/in"⟩, allFiles := [⟨"/in/Token.sol/Token.json"⟩] }
  let t : FileTree := ⟨[], []⟩
  let text := "[\x7b\"type\": \"fallback\"\x7d]"
  have hg : MadeOn t g := MadeOn.ofConfig _
  obtain ⟨-, hv1, hs1, f1, h1, -⟩ := exists_unlisted hg rfl ⟨"/in/v1/Vault.json"⟩ text
    (by decide : IsName "in") rfl (by decide) (by decide +kernel)
    (by decide +kernel : _ = some ⟨"out/v1/Vault.ts"⟩)
  obtain ⟨hdir, hv2, hs2, f2, h2, -⟩ := exists_unlisted hg rfl ⟨"/in/v2.sol/Vault.json"⟩ text
    (by decide : IsName "in") rfl (by decide) (by decide +kernel)
    (by decide +kernel : _ = some ⟨"out/v2.sol/Vault.ts"⟩)
  have hone : HasOnePlace (g.config.resolve t ⟨"/in"⟩)
      (g.config.resolve t ⟨"/in/v1/Vault.json"⟩) := by
    intro d s file hp hsol
    have hc : components ⟨"/in/v1/Vault.json"⟩ =
        [.root, .name "in"] ++ [.name "v1", .name "Vault.json"] := by decide +kernel
    rw [hv1, hc] at hp
    obtain ⟨-, he⟩ := List.append_inj' hp rfl
    obtain rfl : "v1" = s := by simpa using (List.cons_eq_cons.mp he).1
    exact absurd hsol (by decide)
  obtain ⟨directories, name, f', h', hpath, hpath'⟩ := (transform_addFile hg rfl hs2).2.2
    [.root, .name "in"] "v2.sol" "Vault.json" (by rw [hv2]; decide +kernel) (by decide)
    (by rw [hdir]; decide +kernel) text f2 h2
  exact ⟨g, t, text, hg, rfl, rfl, hv1, hv2,
    ⟨f1, h1, ((transform_addFile hg rfl hs1).2.1 text f1 h1).mpr hone⟩,
    f2, directories, name, f', h2, h', hpath, hpath'⟩

/-- An artifact in the directory of its source file, the first to be listed. -/
theorem transform_addFile_token : ¬ ∀ (g : Generator) (t : FileTree) (dir p : Path)
    (contents : String), MadeOn t g → g.config.inputDir = some dir → p ∉ g.config.allFiles →
    (∀ q ∈ g.config.allFiles, (g.config.resolve t q).same (g.config.resolve t p) = false ∧
      (shortenArtifact (g.config.resolve t q)).same
        (shortenArtifact (g.config.resolve t p)) = false) →
    (g.addFile p).transform t p contents = g.transform t p contents := by
  intro h
  let g : Generator := ofConfig { outDir := some ⟨"out"⟩, inputDir := some ⟨"/in"⟩ }
  let t : FileTree := ⟨[], []⟩
  let p : Path := ⟨"/in/Token.sol/Token.json"⟩
  let text := "[\x7b\"type\": \"fallback\"\x7d]"
  have hg : MadeOn t g := MadeOn.ofConfig _
  have hi : g.config.inputDir = some ⟨"/in"⟩ := rfl
  obtain ⟨hdir, hp, hs, f, hf, hpath⟩ := exists_unlisted hg hi p text (by decide : IsName "in") rfl
    (by decide) (List.forall_mem_nil _) (by decide +kernel : _ = some ⟨"out/Token.sol/Token.ts"⟩)
  obtain ⟨f', hf', hpath'⟩ : ∃ f, (g.addFile p).transform t p text = .ok (some f) ∧
      f.path = ⟨"out/Token.ts"⟩ := by
    apply exists_of_path
    rw [transform, placeOf_addFile hi hs, hp, hdir]
    decide +kernel
  have he := h g t ⟨"/in"⟩ p text hg hi (by decide) (by intro q hq; cases hq)
  rw [hf, hf'] at he
  obtain rfl : f' = f := Option.some.inj (Except.ok.inj he)
  rw [hpath] at hpath'
  revert hpath'
  decide

end Generator

end ContractTypings
