import ContractTypings.Proofs.ArtifactLayout
import ContractTypings.Proofs.ModulePlaces
import ContractTypings.Proofs.Walk
import Mathlib.Data.List.Nodup

namespace ContractTypings

namespace Path

theorem root_not_mem_drop (p : Path) {n : ℕ} (hn : 0 < n) : .root ∉ p.components.drop n := by
  have hp : .root ∉ parts (segments p.text) := by
    intro h
    obtain ⟨segment, -, hc⟩ := List.mem_filterMap.mp h
    exact component?_ne_root hc
  intro h
  have hd : .root ∈ p.components.drop 1 := (List.drop_subset_drop_left _ hn) h
  unfold components lead at hd
  split_ifs at hd
  · exact hp hd
  · exact hp hd
  · exact hp (List.mem_of_mem_drop hd)

theorem isAbsolute_relativeTo_iff {p base : Path} (hp : p.isAbsolute = true)
    (hb : base.components ≠ []) :
    (p.relativeTo base).isAbsolute = true ↔ ¬ base.components <+: p.components := by
  constructor
  · intro ha h
    rw [isAbsolute_iff, components_relativeTo h] at ha
    exact p.root_not_mem_drop (List.length_pos_iff.mpr hb) (List.mem_of_mem_head? ha)
  · intro h
    rwa [relativeTo_of_not_isPrefix h]

/-- A file right in a directory named for another source file, with all files of a list in or below
that directory. -/
def AtSourceRoot (files : List Path) (p : Path) : Prop :=
  ∃ d s file, p.components = d ++ [.name s, .name file] ∧ ".sol".toList <:+ s.toList ∧ s ≠ file ∧
    ∀ q ∈ files, d ++ [.name s] <+: q.components.dropLast

end Path

open ContractTypings.Path

section Shortened

variable {files : List Path} {p : Path} {d : List Component} {s file : String}

theorem fileName?_of_components (hp : p.components = d ++ [.name s, .name file]) :
    p.fileName? = some file := by
  rw [fileName?_eq_some_iff, hp, List.getLast?_append]
  rfl

theorem components_shortenArtifact (hp : p.components = d ++ [.name s, .name file])
    (hs : ".sol".toList <:+ s.toList) :
    (shortenArtifact p).components = d ++ [.name file] := by
  rcases shortenArtifact_cases (fileName?_of_components hp) with ⟨e, u, hc, -, he⟩ | ⟨-, hn⟩
  · obtain ⟨rfl, -⟩ := List.append_inj' (hp.symm.trans hc) rfl
    exact he
  · exact absurd hs (hn d s hp)

theorem components_eq_of_shortened {q : Path} (hf : ∃ f, q.fileName? = some f)
    (hd : d ++ [.name s] <+: q.components.dropLast)
    (hq : (shortenArtifact q).components = d ++ [.name file]) :
    q.components = d ++ [.name s, .name file] := by
  obtain ⟨f, hf⟩ := hf
  rcases shortenArtifact_cases hf with ⟨e, u, hc, -, he⟩ | ⟨he, -⟩
  · obtain ⟨rfl, hl⟩ := List.append_inj' (he.symm.trans hq) rfl
    obtain rfl : f = file := by simpa using hl
    have hu : e ++ [.name s] <+: e ++ [.name u] := by simpa [hc] using hd
    obtain rfl : s = u := by simpa using (List.prefix_append_right_inj e).mp hu
    exact hc
  · rw [he] at hq
    rw [hq, List.dropLast_concat] at hd
    have hl := hd.length_le
    rw [List.length_append, List.length_singleton] at hl
    omega

theorem shortenAmong_of_atSourceRoot (hf : ∀ q ∈ files, ∃ f, q.fileName? = some f)
    (hn : (files.map components).Nodup) (hp : p.components = d ++ [.name s, .name file])
    (hs : ".sol".toList <:+ s.toList) (hd : ∀ q ∈ files, d ++ [.name s] <+: q.components.dropLast) :
    shortenAmong files p = shortenArtifact p := by
  have hc : (files.map shortenArtifact).countP (·.same (shortenArtifact p)) ≤
      (files.map components).count p.components := by
    rw [List.countP_map, List.count, List.countP_map]
    apply List.countP_mono_left
    intro q hq hsame
    have he : (shortenArtifact q).components = d ++ [.name file] := by
      rw [← components_shortenArtifact hp hs]
      simpa [same] using hsame
    simpa [hp] using components_eq_of_shortened (hf q hq) (hd q hq) he
  have h1 := List.nodup_iff_count_le_one.mp hn p.components
  rw [shortenAmong, if_neg (by omega)]

end Shortened

section DefaultRoot

variable {files : List Path} {p : Path}

theorem commonAncestor_of_atSourceRoot {d : List Component} {s file : String} (hp : p ∈ files)
    (hc : p.components = d ++ [.name s, .name file])
    (hd : ∀ q ∈ files, d ++ [.name s] <+: q.components.dropLast) :
    (commonAncestor files).components = d ++ [.name s] := by
  have hn : files ≠ [] := List.ne_nil_of_mem hp
  have hl : (commonAncestor files).components <+: d ++ [.name s] := by
    simpa [hc] using (prefix_commonAncestor_iff hn).mp List.prefix_rfl p hp
  exact hl.eq_of_length_le ((prefix_commonAncestor_iff hn).mpr hd).length_le

theorem commonAncestor_prefix_iff (hp : p ∈ files) (hf : ∀ q ∈ files, ∃ f, q.fileName? = some f)
    (hn : (files.map components).Nodup) :
    (commonAncestor files).components <+: (shortenAmong files p).components ↔
      ¬ AtSourceRoot files p := by
  have hne : files ≠ [] := List.ne_nil_of_mem hp
  have hroot : (commonAncestor files).components <+: p.components.dropLast :=
    (prefix_commonAncestor_iff hne).mp List.prefix_rfl p hp
  constructor
  · rintro h ⟨d, s, file, hc, hs, hsf, hd⟩
    rw [shortenAmong_of_atSourceRoot hf hn hc hs hd, components_shortenArtifact hc hs,
      commonAncestor_of_atSourceRoot hp hc hd] at h
    have he := h.eq_of_length (by simp)
    simp [hsf] at he
  · intro h
    obtain ⟨file, hfile⟩ := hf p hp
    have hsame : (commonAncestor files).components <+: p.components :=
      hroot.trans (List.dropLast_prefix _)
    unfold shortenAmong
    split
    · exact hsame
    rcases shortenArtifact_cases hfile with ⟨d, s, hc, hs, he⟩ | ⟨he, -⟩
    · rw [he]
      rw [hc] at hroot
      have hds : (commonAncestor files).components <+: d ++ [.name s] := by simpa using hroot
      rcases List.prefix_concat_iff.mp hds with hr | hr
      · -- the root is the source directory itself, so the file has the name of that directory
        have hsf : s = file := by
          by_contra hsf
          exact h ⟨d, s, file, hc, hs, hsf, fun q hq =>
            hr ▸ (prefix_commonAncestor_iff hne).mp List.prefix_rfl q hq⟩
        have hfile : (commonAncestor files).components = d ++ [.name file] := by rw [hr, hsf]
        exact hfile ▸ List.prefix_refl _
      · exact hr.trans (List.prefix_append _ _)
    · rw [he]
      exact hsame

end DefaultRoot

def Path.namesBelow (root p : Path) : List String :=
  (p.components.drop root.components.length).dropLast.filterMap Component.name?

namespace Config

variable {c : Config} {t : FileTree}

theorem layout_entry (hi : c.inputDir = none) {e : Path × Path} (he : e ∈ c.layout t) :
    e.1 ∈ c.resolvedFiles t ∧ e.2 = (shortenAmong (c.resolvedFiles t) e.1).relativeTo
      (commonAncestor (c.resolvedFiles t)) := by
  rw [layout_eq_map] at he
  obtain ⟨p, hp, rfl⟩ := List.mem_map.mp he
  refine ⟨hp, ?_⟩
  rw [inputRoot, hi]

theorem isAbsolute_shortenAmong {files : List Path} {p : Path} (ha : p.isAbsolute = true)
    (hf : ∃ f, p.fileName? = some f) : (shortenAmong files p).isAbsolute = true := by
  obtain ⟨f, hf⟩ := hf
  unfold shortenAmong
  split
  · exact ha
  · rcases shortenArtifact_cases hf with ⟨d, s, hc, -, he⟩ | ⟨he, -⟩
    · rw [isAbsolute_iff, hc] at ha
      rw [isAbsolute_iff, he]
      cases d with
      | nil => cases ha
      | cons x d => exact ha
    · rwa [he]

theorem commonAncestor_ne_nil {files : List Path} (hne : files ≠ [])
    (ha : ∀ p ∈ files, p.isAbsolute = true) (hf : ∀ p ∈ files, ∃ f, p.fileName? = some f) :
    (commonAncestor files).components ≠ [] := by
  have hr : [.root] <+: (commonAncestor files).components := by
    apply (prefix_commonAncestor_iff hne).mpr
    intro p hp
    obtain ⟨f, hn⟩ := hf p hp
    obtain ⟨dir, -, hc⟩ := exists_parent? hn
    have h := (isAbsolute_iff p).mp (ha p hp)
    rw [hc] at h ⊢
    rw [List.dropLast_concat]
    cases hd : dir.components with
    | nil =>
      rw [hd] at h
      cases h
    | cons x d =>
      rw [hd] at h
      cases h
      exact List.prefix_append [.root] d
  intro h
  rw [h] at hr
  cases List.prefix_nil.mp hr

theorem isAbsolute_layout_entry (hi : c.inputDir = none)
    (ha : ∀ p ∈ c.resolvedFiles t, p.isAbsolute = true)
    (hf : ∀ p ∈ c.resolvedFiles t, ∃ f, p.fileName? = some f)
    (hn : ((c.resolvedFiles t).map components).Nodup) {e : Path × Path} (he : e ∈ c.layout t) :
    e.2.isAbsolute = true ↔ AtSourceRoot (c.resolvedFiles t) e.1 := by
  obtain ⟨hp, h2⟩ := layout_entry hi he
  have hs : (shortenAmong (c.resolvedFiles t) e.1).isAbsolute = true :=
    isAbsolute_shortenAmong (ha _ hp) (hf _ hp)
  have hr := commonAncestor_ne_nil (List.ne_nil_of_mem hp) ha hf
  rw [h2, isAbsolute_relativeTo_iff hs hr, commonAncestor_prefix_iff hp hf hn, not_not]

theorem directoryNames_layout_entry (hi : c.inputDir = none)
    (hf : ∀ p ∈ c.resolvedFiles t, ∃ f, p.fileName? = some f)
    (hn : ((c.resolvedFiles t).map components).Nodup) {e : Path × Path} (he : e ∈ c.layout t) :
    (¬ AtSourceRoot (c.resolvedFiles t) e.1 → e.2.directoryNames =
        namesBelow (commonAncestor (c.resolvedFiles t)) (shortenAmong (c.resolvedFiles t) e.1)) ∧
      (AtSourceRoot (c.resolvedFiles t) e.1 → e.2.directoryNames =
        (commonAncestor (c.resolvedFiles t)).components.dropLast.filterMap Component.name?) := by
  obtain ⟨hp, h2⟩ := layout_entry hi he
  have hr := commonAncestor_prefix_iff hp hf hn
  constructor
  · intro h
    rw [directoryNames_eq, h2, components_relativeTo (hr.mpr h)]
    rfl
  · intro h
    rw [directoryNames_eq, h2, relativeTo_of_not_isPrefix fun hpre => hr.mp hpre h]
    obtain ⟨d, s, file, hc, hs, -, hd⟩ := h
    rw [shortenAmong_of_atSourceRoot hf hn hc hs hd, components_shortenArtifact hc hs,
      commonAncestor_of_atSourceRoot hp hc hd, List.dropLast_concat, List.dropLast_concat]

end Config

namespace Generator

open Config

theorem placeOf_ofConfig {c : Config} {t : FileTree}
    (hn : ((c.resolvedFiles t).map components).Nodup) {p : Path} (hp : p ∈ c.allFiles) :
    ∃ e ∈ c.layout t, e.1 = c.resolve t p ∧ (ofConfig c).placeOf t p = e.2 := by
  obtain ⟨e, he, hs, hg⟩ := exists_get?_layout (t := t) hp
  have hm : e.1 ∈ c.resolvedFiles t := by
    rw [layout_eq_map] at he
    obtain ⟨q, hq, rfl⟩ := List.mem_map.mp he
    exact hq
  have hc : e.1.components = (c.resolve t p).components := by simpa [same] using hs
  refine ⟨e, he, List.inj_on_of_nodup_map hn hm (List.mem_map_of_mem hp) hc, ?_⟩
  have hl : ((ofConfig c).layout t).get? ((ofConfig c).config.resolve t p) = some e.2 := hg
  rw [placeOf, hl]

/-- Without an input directory the places of artifacts are relative, and their modules lie in the
directories below the common root, except for artifacts right in a source directory that holds them
all: their modules lie in the directories above the root. -/
theorem layout_below_root {c : Config} {t : FileTree} (hi : c.inputDir = none)
    (hp : ∀ p ∈ c.resolvedFiles t, p.isAbsolute = true ∧ p.fileName?.isSome = true)
    (hn : ((c.resolvedFiles t).map components).Nodup) :
    ((∀ e ∈ c.layout t, e.2.isAbsolute = false) ↔
        ∀ p ∈ c.resolvedFiles t, ¬ AtSourceRoot (c.resolvedFiles t) p) ∧
      (∀ e ∈ c.layout t,
        (e.2.isAbsolute = true ↔ AtSourceRoot (c.resolvedFiles t) e.1) ∧
        ((commonAncestor (c.resolvedFiles t)).components <+:
          (shortenAmong (c.resolvedFiles t) e.1).components ↔
            ¬ AtSourceRoot (c.resolvedFiles t) e.1)) ∧
      ∀ p ∈ c.allFiles, ∀ contents f, (ofConfig c).transform t p contents = .ok (some f) →
        ∃ name,
          (¬ AtSourceRoot (c.resolvedFiles t) (c.resolve t p) →
            f.path = ModulePlace.file c.outDirPath
              ⟨namesBelow (commonAncestor (c.resolvedFiles t))
                (shortenAmong (c.resolvedFiles t) (c.resolve t p)), name⟩) ∧
          (AtSourceRoot (c.resolvedFiles t) (c.resolve t p) →
            f.path = ModulePlace.file c.outDirPath
              ⟨(commonAncestor (c.resolvedFiles t)).components.dropLast.filterMap
                Component.name?, name⟩) := by
  have ha : ∀ p ∈ c.resolvedFiles t, p.isAbsolute = true := fun p h => (hp p h).1
  have hf : ∀ p ∈ c.resolvedFiles t, ∃ f, p.fileName? = some f :=
    fun p h => Option.isSome_iff_exists.mp (hp p h).2
  have he : ∀ e ∈ c.layout t, e.2.isAbsolute = true ↔ AtSourceRoot (c.resolvedFiles t) e.1 :=
    fun e he => isAbsolute_layout_entry hi ha hf hn he
  refine ⟨?_, fun e hl => ⟨he e hl, ?_⟩, ?_⟩
  · have hm : (c.layout t).map Prod.fst = c.resolvedFiles t := by
      rw [layout_eq_map, List.map_map]
      exact List.map_id _
    constructor
    · intro h p hp hs
      obtain ⟨e, hl, rfl⟩ := List.mem_map.mp (hm ▸ hp)
      rw [← he e hl, h e hl] at hs
      cases hs
    · intro h e hl
      rw [← Bool.not_eq_true, he e hl]
      exact h e.1 (layout_entry hi hl).1
  · exact commonAncestor_prefix_iff (layout_entry hi hl).1 hf hn
  · intro p hp contents f ht
    obtain ⟨e, hl, h1, h2⟩ := placeOf_ofConfig hn hp
    obtain ⟨-, name, -, -, hpath⟩ := path_of_transformAt ht
    obtain ⟨hb, hr⟩ := directoryNames_layout_entry hi hf hn hl
    rw [h2] at hpath
    rw [h1] at hb hr
    refine ⟨name, fun h => ?_, fun h => ?_⟩
    · rw [hpath, hb h]
      rfl
    · rw [hpath, hr h]
      rfl

theorem layout_below_root_vaults : ∃ (c : Config) (t : FileTree),
    c.allFiles = [⟨"/p/Token.sol/Token.json"⟩, ⟨"/p/Vault.sol/Vault.json"⟩] ∧
      c.resolvedFiles t = c.allFiles ∧ c.inputDir = none ∧
      (∀ p ∈ c.resolvedFiles t, p.isAbsolute = true ∧ p.fileName?.isSome = true) ∧
      ((c.resolvedFiles t).map components).Nodup ∧
      (∀ e ∈ c.layout t, e.2.isAbsolute = false) ∧
      ∀ p ∈ c.resolvedFiles t, ¬ AtSourceRoot (c.resolvedFiles t) p := by
  let c : Config := { allFiles := [⟨"/p/Token.sol/Token.json"⟩, ⟨"/p/Vault.sol/Vault.json"⟩] }
  have hr : c.resolvedFiles ⟨[], []⟩ = c.allFiles := by
    apply resolvedFiles_eq
    intro p hp
    rcases List.mem_pair.mp hp with rfl | rfl
    · exact FileTree.resolve_of_absent (s := "p") (by decide) (by decide) (by decide) rfl
    · exact FileTree.resolve_of_absent (s := "p") (by decide) (by decide) (by decide) rfl
  have hp : ∀ p ∈ c.resolvedFiles ⟨[], []⟩, p.isAbsolute = true ∧ p.fileName?.isSome = true := by
    rw [hr]
    decide
  have hn : ((c.resolvedFiles ⟨[], []⟩).map components).Nodup := by
    rw [hr]
    decide
  have hl : ∀ e ∈ c.layout ⟨[], []⟩, e.2.isAbsolute = false := by
    rw [layout_eq_map, hr]
    decide +kernel
  exact ⟨c, ⟨[], []⟩, rfl, hr, rfl, hp, hn, hl, (layout_below_root rfl hp hn).1.mp hl⟩

/-- The common directory of a single artifact is its source directory, which shortening leaves
out. -/
theorem layout_absolute_token : ¬ ∀ (c : Config) (t : FileTree), c.inputDir = none →
    c.allFiles ≠ [] →
    (∀ p ∈ c.allFiles, p.isAbsolute = true ∧ p.fileName?.isSome = true ∧ c.resolve t p = p) →
    (c.allFiles.map components).Nodup → ∀ e ∈ c.layout t, e.2.isAbsolute = false := by
  intro h
  let c : Config := { allFiles := [⟨"/p/Token.sol/Token.json"⟩] }
  have hr : ∀ p ∈ c.allFiles, p.isAbsolute = true ∧ p.fileName?.isSome = true ∧
      c.resolve ⟨[], []⟩ p = p := by
    intro p hp
    obtain rfl := List.mem_singleton.mp hp
    exact ⟨by decide, by decide,
      FileTree.resolve_of_absent (s := "p") (by decide) (by decide) (by decide) rfl⟩
  have hl : c.layout ⟨[], []⟩ = [(⟨"/p/Token.sol/Token.json"⟩, ⟨"/p/Token.json"⟩)] := by
    rw [layout_eq_map, resolvedFiles_eq fun p hp => (hr p hp).2.2]
    decide +kernel
  have ha := h c ⟨[], []⟩ rfl (by decide) hr (by decide) _ (hl ▸ List.mem_singleton_self _)
  revert ha
  decide

end Generator

end ContractTypings
