import ContractTypings.Proofs.BarrelNames
import ContractTypings.Proofs.ListedArtifact
import Mathlib.Data.List.Pairwise

namespace ContractTypings

open ContractTypings.Path

namespace Config

structure ListsApart (c : Config) (t : FileTree) (r : Path) : Prop where
  listed : r ∈ c.resolvedFiles t
  once : (c.resolvedFiles t).countP (·.same r) = 1
  apart : ∀ q ∈ c.resolvedFiles t, q.same r = false →
    (shortenArtifact q).same (shortenArtifact r) = false

def ShortensApart (c : Config) (t : FileTree) : Prop :=
  ((c.resolvedFiles t).map shortenArtifact).Pairwise fun p q => p.same q = false

structure SharesRoots (c c' : Config) : Prop where
  cwd : c'.cwd = c.cwd
  outDir : c'.outDir = c.outDir
  inputDir : c'.inputDir = c.inputDir
  isSet : c.inputDir ≠ none

variable {c c' : Config} {t : FileTree} {r p q : Path}

theorem ListsApart.eq_of_same (h : c.ListsApart t r) (hq : q ∈ c.resolvedFiles t)
    (hs : q.same r = true) : q = r := by
  have hone : ((c.resolvedFiles t).filter (·.same r)).length = 1 := by
    rw [← List.countP_eq_length_filter]
    exact h.once
  obtain ⟨a, ha⟩ := List.length_eq_one_iff.mp hone
  have hmem : ∀ p ∈ c.resolvedFiles t, p.same r = true → p = a := by
    intro p hp hs
    have hm : p ∈ (c.resolvedFiles t).filter (·.same r) := List.mem_filter.mpr ⟨hp, hs⟩
    rw [ha] at hm
    exact List.mem_singleton.mp hm
  rw [hmem q hq hs, hmem r h.listed (same_refl r)]

theorem ListsApart.shortenAmong_eq (h : c.ListsApart t r) :
    shortenAmong (c.resolvedFiles t) r = shortenArtifact r := by
  have hcount : ((c.resolvedFiles t).map shortenArtifact).countP (·.same (shortenArtifact r)) =
      (c.resolvedFiles t).countP (·.same r) := by
    rw [List.countP_map]
    apply List.countP_congr
    intro q hq
    constructor
    · intro hs
      by_contra hn
      rw [Bool.not_eq_true] at hn
      exact absurd hs (by simp [h.apart q hq hn])
    · exact shortenArtifact_same
  rw [shortenAmong, hcount, h.once]
  exact if_neg (Nat.lt_irrefl 1)

theorem ListsApart.get?_layout (h : c.ListsApart t r) (hp : p.same r = true) :
    (c.layout t).get? p = some (c.placeIn t r) := by
  have hc : p.components = r.components := by simpa [same] using hp
  cases hf : (c.layout t).reverse.find? fun e => e.1.same p with
  | none =>
    have hm : (r, c.placeIn t r) ∈ (c.layout t).reverse := by
      rw [List.mem_reverse, layout_eq_map]
      exact List.mem_map.mpr ⟨r, h.listed, rfl⟩
    exact absurd (List.find?_eq_none.mp hf _ hm) (by simp [same, hc])
  | some e =>
    have hs : e.1.same p = true := List.find?_some (p := fun e : Path × Path => e.1.same p) hf
    have he : e ∈ c.layout t := List.mem_reverse.mp (List.mem_of_find?_eq_some hf)
    rw [layout_eq_map] at he
    obtain ⟨q, hq, rfl⟩ := List.mem_map.mp he
    obtain rfl : q = r := h.eq_of_same hq (by simpa [same, hc] using hs)
    rw [Layout.get?, hf]
    rfl

theorem ShortensApart.listsApart (h : c.ShortensApart t) (hr : r ∈ c.resolvedFiles t) :
    c.ListsApart t r := by
  have hp : (c.resolvedFiles t).Pairwise fun p q =>
      (shortenArtifact p).same (shortenArtifact q) = false := List.pairwise_map.mp h
  have hsymm : Std.Symm fun p q => (shortenArtifact p).same (shortenArtifact q) = false :=
    ⟨fun _ _ => same_eq_false_symm⟩
  have hne : ∀ p ∈ c.resolvedFiles t, ∀ q ∈ c.resolvedFiles t, p ≠ q →
      (shortenArtifact p).same (shortenArtifact q) = false :=
    fun p hp' q hq hn => hp.forall hp' hq hn
  have hsame : ∀ q ∈ c.resolvedFiles t, q.same r = true ↔ q = r := by
    intro q hq
    constructor
    · intro hs
      by_contra hn
      have hf := hne q hq r hr hn
      rw [shortenArtifact_same hs] at hf
      cases hf
    · rintro rfl
      exact same_refl q
  have hnodup : (c.resolvedFiles t).Nodup := by
    apply hp.imp
    rintro p q hs rfl
    rw [same_refl] at hs
    cases hs
  refine ⟨hr, ?_, ?_⟩
  · rw [List.countP_congr (q := (· == r)) fun q hq => by rw [hsame q hq, beq_iff_eq]]
    exact List.count_eq_one_of_mem hnodup hr
  · intro q hq hs
    apply hne q hq r hr
    rintro rfl
    rw [same_refl] at hs
    cases hs

theorem SharesRoots.resolve (h : SharesRoots c c') (t : FileTree) (p : Path) :
    c'.resolve t p = c.resolve t p := by
  rw [Config.resolve, h.cwd, Config.resolve]

theorem SharesRoots.outDirPath (h : SharesRoots c c') : c'.outDirPath = c.outDirPath := by
  rw [Config.outDirPath, h.cwd, h.outDir, Config.outDirPath]

theorem SharesRoots.inputRoot (h : SharesRoots c c') (t : FileTree) (files files' : List Path) :
    c'.inputRoot t files' = c.inputRoot t files := by
  obtain ⟨dir, hd⟩ := Option.ne_none_iff_exists'.mp h.isSet
  simp only [Config.inputRoot, h.inputDir, hd, h.resolve]

theorem SharesRoots.placeIn_eq (h : SharesRoots c c') (hr : c.ListsApart t r)
    (hr' : c'.ListsApart t r) : c'.placeIn t r = c.placeIn t r := by
  rw [placeIn, placeIn, hr.shortenAmong_eq, hr'.shortenAmong_eq, h.inputRoot]

theorem SharesRoots.resolvedFiles_sublist (h : SharesRoots c c')
    (hs : c'.allFiles.Sublist c.allFiles) (t : FileTree) :
    (c'.resolvedFiles t).Sublist (c.resolvedFiles t) := by
  rw [resolvedFiles, resolvedFiles, funext (h.resolve t)]
  exact hs.map _

theorem ShortensApart.sublist (h : c.ShortensApart t)
    (hs : (c'.resolvedFiles t).Sublist (c.resolvedFiles t)) : c'.ShortensApart t :=
  List.Pairwise.sublist (hs.map shortenArtifact) h

end Config

namespace Generator

variable {g g' : Generator} {t : FileTree} {r p q : Path} {f : Formatter}
  {fs fs' : List GeneratedFile}

theorem MadeOn.placeOf_eq (hg : MadeOn t g) (hr : g.config.ListsApart t r)
    (hp : (g.config.resolve t p).same r = true) : g.placeOf t p = g.config.placeIn t r := by
  simp only [placeOf, hg.layout_eq, hr.get?_layout hp]

theorem exists_transformed_of_forall₂ {ps : List Path} {os : List (Option GeneratedFile)}
    (h : List.Forall₂ (g.Transformed t) ps os) : ∀ p ∈ ps, ∃ o, g.Transformed t p o := by
  induction h with
  | nil => simp
  | cons ho _ ih => exact List.forall_mem_cons.mpr ⟨⟨_, ho⟩, ih⟩

theorem exists_outcomes (hg : MadeOn t g) (h : g.generate t f = .ok fs) :
    ∃ os, List.Forall₂ (g.Transformed t) g.config.allFiles os ∧
      g.files t = .ok (os.reduceOption ++ g.finish os.reduceOption) ∧
      fs = (os.reduceOption ++ g.finish os.reduceOption).map (g.formatted f) := by
  obtain ⟨all, hall, rfl⟩ := generate_eq_ok_iff.mp h
  obtain ⟨os, ha, rfl, -⟩ := (files_eq_ok_iff hg).mp hall
  exact ⟨os, (accepts_iff.mp ha).1, hall, rfl⟩

section Shared

variable (hg : MadeOn t g) (hg' : MadeOn t g') (hc : Config.SharesRoots g.config g'.config)

include hg hg' hc

theorem transform_of_listsApart (hr : g.config.ListsApart t r) (hr' : g'.config.ListsApart t r)
    (hp : (g.config.resolve t p).same r = true) (contents : String) :
    g'.transform t p contents = g.transform t p contents := by
  have hp' : (g'.config.resolve t p).same r = true := by rwa [hc.resolve]
  rw [transform, transform, hg.placeOf_eq hr hp, hg'.placeOf_eq hr' hp', hc.placeIn_eq hr hr',
    outDirPath, outDirPath, hc.outDirPath]

theorem transformed_iff_of_listsApart (hr : g.config.ListsApart t (g.config.resolve t p))
    (hr' : g'.config.ListsApart t (g.config.resolve t p)) {o : Option GeneratedFile} :
    g'.Transformed t p o ↔ g.Transformed t p o := by
  simp only [Transformed, hc.resolve, transform_of_listsApart hg hg' hc hr hr' (same_refl _)]

theorem transformed_of_listsApart {m : GeneratedFile}
    (hr : g.config.ListsApart t (g.config.resolve t p))
    (hr' : g'.config.ListsApart t (g.config.resolve t p))
    (hq : g'.config.resolve t q = g.config.resolve t p) (h : g.Transformed t p (some m)) :
    g'.Transformed t q (some m) := by
  obtain ⟨contents, hread, ht⟩ := h
  have hplace : g'.placeOf t q = g.placeOf t p := by
    rw [hg'.placeOf_eq hr' (hq ▸ same_refl _), hg.placeOf_eq hr (same_refl _),
      hc.placeIn_eq hr hr']
  refine ⟨contents, hq ▸ hread, ?_⟩
  rw [transform, transformAt_eq_ok_some_iff] at ht ⊢
  rwa [hplace, outDirPath, hc.outDirPath]

theorem mem_or_of_shortensApart (hd : g.config.ShortensApart t) (hd' : g'.config.ShortensApart t)
    (hn : g'.config.prettier = g.config.prettier) (h : g.generate t f = .ok fs)
    (h' : g'.generate t f = .ok fs') {file : GeneratedFile} (hf : file ∈ fs) :
    file ∈ fs' ∨ file.path.fileName? = some Barrel.fileName ∨
      ∃ p ∈ g.config.allFiles, g.config.resolve t p ∉ g'.config.resolvedFiles t ∧
        ∃ m, g.Transformed t p (some m) ∧ file = g.formatted f m := by
  have hformat : g'.formatted f = g.formatted f := by
    funext file
    rw [formatted, hn, formatted]
  obtain ⟨os, hos, -, rfl⟩ := exists_outcomes hg h
  obtain ⟨os', hos', -, rfl⟩ := exists_outcomes hg' h'
  obtain ⟨m, hm, rfl⟩ := List.mem_map.mp hf
  rcases List.mem_append.mp hm with hm | hm
  · obtain ⟨p, hp, ht⟩ := mem_reduceOption_of_forall₂ hos hm
    by_cases hr : g.config.resolve t p ∈ g'.config.resolvedFiles t
    · left
      obtain ⟨q, hq, hqp⟩ := List.mem_map.mp hr
      have ht' : g'.Transformed t q (some m) := transformed_of_listsApart hg hg' hc
        (hd.listsApart (List.mem_map_of_mem hp)) (hd'.listsApart hr) hqp ht
      have hm' : m ∈ os'.reduceOption :=
        (mem_reduceOption_iff (rightUnique_transformed g' t) hos').mpr ⟨q, hq, ht'⟩
      exact List.mem_map.mpr ⟨m, List.mem_append_left _ hm', by rw [hformat]⟩
    · exact Or.inr (Or.inr ⟨p, hp, hr, m, ht, rfl⟩)
  · rw [finish_eq] at hm
    rcases List.mem_cons.mp hm with rfl | hm
    · left
      refine List.mem_map.mpr ⟨_, List.mem_append_right _ ?_, by rw [hformat]⟩
      rw [finish_eq, outDirPath, outDirPath, hc.outDirPath]
      exact List.mem_cons_self
    · right
      left
      obtain ⟨e, -, rfl⟩ := List.mem_map.mp hm
      rw [path_formatted]
      exact Path.fileName?_joinName (by decide)

theorem generate_of_sublist (hd : g.config.ShortensApart t)
    (hs : g'.config.allFiles.Sublist g.config.allFiles) (h : g.generate t f = .ok fs) :
    ∃ fs', g'.generate t f = .ok fs' := by
  have hsub := hc.resolvedFiles_sublist hs t
  have hd' := hd.sublist hsub
  have hiff : ∀ p ∈ g'.config.allFiles, ∀ o, g'.Transformed t p o ↔ g.Transformed t p o := by
    intro p hp o
    have hr : g.config.resolve t p ∈ g'.config.resolvedFiles t := by
      rw [← hc.resolve]
      exact List.mem_map_of_mem hp
    exact transformed_iff_of_listsApart hg hg' hc (hd.listsApart (hsub.subset hr))
      (hd'.listsApart hr)
  obtain ⟨os, hos, hok, -⟩ := exists_outcomes hg h
  obtain ⟨-, hclash⟩ := (files_ok_iff hg hos).mp hok
  obtain ⟨os', hos'⟩ : ∃ os', List.Forall₂ (g'.Transformed t) g'.config.allFiles os' := by
    apply exists_transformed
    intro p hp
    obtain ⟨o, ho⟩ := exists_transformed_of_forall₂ hos p (hs.subset hp)
    exact ⟨o, (hiff p hp o).mpr ho⟩
  have hok' : g'.files t = .ok (os'.reduceOption ++ g'.finish os'.reduceOption) := by
    apply (files_ok_iff hg' hos').mpr
    refine ⟨rfl, ?_⟩
    intro p q hpq
    obtain ⟨hsame, hm⟩ := not_clash_iff.mp (hclash p q (hpq.trans hs))
    apply not_clash_iff.mpr
    refine ⟨by rwa [hc.resolve, hc.resolve], ?_⟩
    intro m n hpm hqn
    exact hm m n ((hiff p (hpq.subset (by simp)) _).mp hpm)
      ((hiff q (hpq.subset (by simp)) _).mp hqn)
  exact ⟨_, generate_eq_ok_iff.mpr ⟨_, hok', rfl⟩⟩

/-- Two generators with the same roots, and whatever artifacts. An artifact that both list once,
with a shortened path that is its own in both, is transformed to the same. Where no artifacts share
a shortened path, runs differ only by indices and by the modules of artifacts that the other does
not list, and a run that succeeds still does so after artifacts have been removed. -/
theorem transform_among_others :
    (∀ r p, g.config.ListsApart t r → g'.config.ListsApart t r →
      (g.config.resolve t p).same r = true →
        ∀ contents, g'.transform t p contents = g.transform t p contents) ∧
    (g.config.ShortensApart t →
      (g'.config.ShortensApart t → g'.config.prettier = g.config.prettier → ∀ f fs fs',
        g.generate t f = .ok fs → g'.generate t f = .ok fs' → ∀ file ∈ fs,
          file ∈ fs' ∨ file.path.fileName? = some Barrel.fileName ∨
            ∃ p ∈ g.config.allFiles, g.config.resolve t p ∉ g'.config.resolvedFiles t ∧
              ∃ m, g.Transformed t p (some m) ∧ file = g.formatted f m) ∧
      (g'.config.allFiles.Sublist g.config.allFiles → ∀ f,
        (∃ fs, g.generate t f = .ok fs) → ∃ fs', g'.generate t f = .ok fs')) := by
  refine ⟨fun r p hr hr' hp => transform_of_listsApart hg hg' hc hr hr' hp, fun hd => ⟨?_, ?_⟩⟩
  · intro hd' hn f fs fs' h h' file hf
    exact mem_or_of_shortensApart hg hg' hc hd hd' hn h h' hf
  · rintro hs f ⟨fs, h⟩
    exact generate_of_sublist hg hg' hc hd hs h

end Shared

theorem transform_among_others_vault : ∃ (g g' : Generator) (t : FileTree) (m : GeneratedFile),
    MadeOn t g ∧ MadeOn t g' ∧ g.config.SharesRoots g'.config ∧
    g.config.allFiles = [⟨"/Vault.sol/Vault.json"⟩, ⟨"/Token.json"⟩] ∧
    g'.config.allFiles = [⟨"/v2/Vault.json"⟩, ⟨"/Vault.sol/Vault.json"⟩] ∧
    g.config.ShortensApart t ∧ g'.config.ShortensApart t ∧ m.path = ⟨"out/Vault.ts"⟩ ∧
    (∃ text, g.transform t ⟨"/Vault.sol/Vault.json"⟩ text = .ok (some m) ∧
      g'.transform t ⟨"/Vault.sol/Vault.json"⟩ text = .ok (some m)) ∧
    ∀ f, ∃ fs fs', g.generate t f = .ok fs ∧ g'.generate t f = .ok fs' ∧ ∀ file ∈ fs,
      file ∈ fs' ∨ file.path.fileName? = some Barrel.fileName ∨
        ∃ p ∈ g.config.allFiles, g.config.resolve t p ∉ g'.config.resolvedFiles t ∧
          ∃ m, g.Transformed t p (some m) ∧ file = g.formatted f m := by
  let text := "[\x7b\"type\": \"fallback\"\x7d]"
  let t : FileTree := ⟨[], [(["Vault.sol"], .directory),
    (["Vault.sol", "Vault.json"], .file text.toUTF8), (["Token.json"], .file text.toUTF8),
    (["v2"], .directory), (["v2", "Vault.json"], .file text.toUTF8)]⟩
  let c : Config := { outDir := some ⟨"out"⟩, inputDir := some ⟨"/"⟩, allFiles :=
    [⟨"/Vault.sol/Vault.json"⟩, ⟨"/Token.json"⟩] }
  let c' : Config := { c with allFiles := [⟨"/v2/Vault.json"⟩, ⟨"/Vault.sol/Vault.json"⟩] }
  have hc : c.SharesRoots c' := ⟨rfl, rfl, rfl, by decide⟩
  have hg : MadeOn t (ofConfig c) := MadeOn.ofConfig c
  have hg' : MadeOn t (ofConfig c') := MadeOn.ofConfig c'
  have hlists : c.Lists t [(["Vault.sol", "Vault.json"], text), (["Token.json"], text)] :=
    ⟨by decide, by decide, List.forall_mem_cons.mpr ⟨.of_directory (by decide) rfl rfl,
      List.forall_mem_singleton.mpr (.of_root (by decide) rfl)⟩⟩
  have hlists' : c'.Lists t [(["v2", "Vault.json"], text), (["Vault.sol", "Vault.json"], text)] :=
    ⟨by decide, by decide, List.forall_mem_cons.mpr ⟨.of_directory (by decide) rfl rfl,
      List.forall_mem_singleton.mpr (.of_directory (by decide) rfl rfl)⟩⟩
  have hroot (files : List Path) : c.inputRoot t files = ⟨"/"⟩ := t.resolve_root
  have hroot' (files : List Path) : c'.inputRoot t files = ⟨"/"⟩ := t.resolve_root
  have hfiles : c.resolvedFiles t = c.allFiles := Config.resolvedFiles_eq fun _ => hlists.resolve
  have hfiles' : c'.resolvedFiles t = c'.allFiles :=
    Config.resolvedFiles_eq fun _ => hlists'.resolve
  have hd : c.ShortensApart t := by
    rw [Config.ShortensApart, hfiles]
    decide +kernel
  have hd' : c'.ShortensApart t := by
    rw [Config.ShortensApart, hfiles']
    decide +kernel
  obtain ⟨hone, hruns⟩ := transform_among_others hg hg' hc
  have hmem : ⟨"/Vault.sol/Vault.json"⟩ ∈ c.resolvedFiles t := by
    rw [hfiles]
    exact List.mem_cons_self
  have hmem' : ⟨"/Vault.sol/Vault.json"⟩ ∈ c'.resolvedFiles t := by
    rw [hfiles']
    exact List.mem_cons_of_mem _ List.mem_cons_self
  have hsame : ∀ contents, (ofConfig c').transform t ⟨"/Vault.sol/Vault.json"⟩ contents =
      (ofConfig c).transform t ⟨"/Vault.sol/Vault.json"⟩ contents :=
    hone ⟨"/Vault.sol/Vault.json"⟩ ⟨"/Vault.sol/Vault.json"⟩ (hd.listsApart hmem)
      (hd'.listsApart hmem') (by
        rw [show (ofConfig c).config = c from rfl, hlists.resolve List.mem_cons_self, same_refl])
  obtain ⟨m, hm, hpath⟩ : ∃ m,
      (ofConfig c).transform t ⟨"/Vault.sol/Vault.json"⟩ text = .ok (some m) ∧
        m.path = ⟨"out/Vault.ts"⟩ := by
    apply exists_of_path
    rw [transform_of_lists hg hlists (hroot _) List.mem_cons_self]
    decide +kernel
  obtain ⟨ms, -, -, hok⟩ := exists_run hg rfl hlists (hroot _) (by decide +kernel :
    _ = [some ⟨"out/Vault.ts"⟩, some ⟨"out/Token.ts"⟩].map some) (by decide +kernel)
  obtain ⟨ms', -, -, hok'⟩ := exists_run hg' rfl hlists' (hroot' _) (by decide +kernel :
    _ = [some ⟨"out/v2/Vault.ts"⟩, some ⟨"out/Vault.ts"⟩].map some) (by decide +kernel)
  refine ⟨ofConfig c, ofConfig c', t, m, hg, hg', hc, rfl, rfl, hd, hd', hpath,
    ⟨text, hm, (hsame text).trans hm⟩, fun f => ?_⟩
  exact ⟨_, _, hok f, hok' f, (hruns hd).1 hd' rfl f _ _ (hok f) (hok' f)⟩

end Generator

end ContractTypings
