import ContractTypings.Proofs.CommonDirectory
import ContractTypings.Proofs.OutputPaths
import Mathlib.Data.List.Perm.Basic

namespace ContractTypings

theorem Path.relativeTo_congr (p : Path) {base base' : Path}
    (h : base.components = base'.components) : p.relativeTo base = p.relativeTo base' := by
  simp only [relativeTo, h]

section Files

variable {files files' : List Path}

theorem components_commonAncestor_of_perm (h : files.Perm files') :
    (commonAncestor files).components = (commonAncestor files').components :=
  congrArg Path.components (commonAncestor_congr fun _ => (h.map Path.components).mem_iff)

theorem shortenAmong_of_perm (h : files.Perm files') (p : Path) :
    shortenAmong files p = shortenAmong files' p := by
  unfold shortenAmong
  rw [(h.map shortenArtifact).countP_eq]

end Files

namespace Config

variable {c : Config} {files : List Path} {t : FileTree} {p : Path}

def placeIn (c : Config) (t : FileTree) (p : Path) : Path :=
  (shortenAmong (c.resolvedFiles t) p).relativeTo (c.inputRoot t (c.resolvedFiles t))

theorem components_inputRoot_of_perm (c : Config) (t : FileTree) {files' : List Path}
    (h : files.Perm files') :
    (c.inputRoot t files).components = (c.inputRoot t files').components := by
  cases hi : c.inputDir with
  | some dir => simp only [inputRoot, hi]
  | none =>
    simp only [inputRoot, hi]
    exact components_commonAncestor_of_perm h

theorem placeIn_of_perm (h : c.allFiles.Perm files) (t : FileTree) (p : Path) :
    c.placeIn t p = { c with allFiles := files }.placeIn t p := by
  have hr : (c.resolvedFiles t).Perm (resolvedFiles { c with allFiles := files } t) :=
    h.map (c.resolve t)
  rw [placeIn, placeIn, shortenAmong_of_perm hr]
  exact Path.relativeTo_congr _ (c.components_inputRoot_of_perm t hr)

theorem get?_layout (h : (c.resolvedFiles t).Pairwise fun p q => p.same q = false)
    (hp : p ∈ c.allFiles) :
    (c.layout t).get? (c.resolve t p) = some (c.placeIn t (c.resolve t p)) := by
  have hd : (c.layout t).reverse.Pairwise fun e e' => e.1.same e'.1 = false := by
    rw [List.pairwise_reverse, layout_eq_map, List.pairwise_map]
    exact h.imp Path.same_eq_false_symm
  have hm : (c.resolve t p, c.placeIn t (c.resolve t p)) ∈ (c.layout t).reverse := by
    rw [List.mem_reverse, layout_eq_map]
    apply List.mem_map_of_mem (f := fun q => (q, c.placeIn t q))
    exact List.mem_map_of_mem hp
  rw [Layout.get?, Path.find?_same hd hm, Option.map_some]

end Config

namespace Generator

variable {g g' : Generator} {t : FileTree} {p : Path} {files : List Path}

theorem placeOf_of_perm (hg : MadeOn t g) (hg' : MadeOn t g')
    (hc : g'.config = { g.config with allFiles := files }) (hp : g.config.allFiles.Perm files)
    (hd : (g.config.resolvedFiles t).Pairwise fun q r => q.same r = false)
    (hm : p ∈ g.config.allFiles) : g'.placeOf t p = g.placeOf t p := by
  have hr : g'.config.resolve t p = g.config.resolve t p := by rw [hc]; rfl
  have hd' : (g'.config.resolvedFiles t).Pairwise fun q r => q.same r = false := by
    rw [hc]
    exact ((hp.map (g.config.resolve t)).pairwise_iff Path.same_eq_false_symm).mp hd
  have hm' : p ∈ g'.config.allFiles := by
    rw [hc]
    exact hp.mem_iff.mp hm
  have he : (g'.layout t).get? (g'.config.resolve t p) =
      (g.layout t).get? (g.config.resolve t p) := by
    rw [hg.layout_eq, hg'.layout_eq, Config.get?_layout hd' hm', Config.get?_layout hd hm, hr, hc,
      Config.placeIn_of_perm hp]
  rw [placeOf, placeOf, he, hg.layout_eq, Config.get?_layout hd hm]

theorem transformed_of_perm (hg : MadeOn t g) (hg' : MadeOn t g')
    (hc : g'.config = { g.config with allFiles := files }) (hp : g.config.allFiles.Perm files)
    (hd : (g.config.resolvedFiles t).Pairwise fun q r => q.same r = false)
    (hm : p ∈ g.config.allFiles) {o : Option GeneratedFile} (h : g.Transformed t p o) :
    g'.Transformed t p o := by
  obtain ⟨contents, hr, ht⟩ := h
  refine ⟨contents, ?_, ?_⟩
  · rw [hc]
    exact hr
  · rw [transform, placeOf_of_perm hg hg' hc hp hd hm, outDirPath, hc]
    exact ht

theorem finish_of_perm (hc : g'.config = { g.config with allFiles := files })
    {ms ms' : List GeneratedFile} (h : ms.Perm ms') : g'.finish ms' = g.finish ms := by
  have ho : g'.outDirPath = g.outDirPath := by
    rw [outDirPath, hc]
    rfl
  have hf : g'.finish ms' = g.finish ms' := by
    unfold finish
    rw [ho]
  rw [hf]
  exact g.finish_congr fun _ => h.symm.mem_iff

theorem files_of_perm (hg : MadeOn t g) (hg' : MadeOn t g')
    (hc : g'.config = { g.config with allFiles := files }) (hp : g.config.allFiles.Perm files)
    {fs : List GeneratedFile} (h : g.files t = .ok fs) :
    ∃ ms ms', g.modules t [] g.config.allFiles = .ok ms ∧
      g'.modules t [] g'.config.allFiles = .ok ms' ∧ ms.Perm ms' ∧ fs = ms ++ g.finish ms ∧
      g'.files t = .ok (ms' ++ g.finish ms) := by
  obtain ⟨os, ha, rfl, hr⟩ := (files_eq_ok_iff hg).mp h
  obtain ⟨hf, hd, -⟩ := accepts_iff.mp ha
  obtain ⟨os', hf', hos⟩ := List.perm_comp_forall₂ hp.symm hf
  have hm : os'.reduceOption.Perm os.reduceOption := hos.filterMap id
  have ha' : Accepts g' t [] g'.config.allFiles os' := by
    apply accepts_iff.mpr
    refine ⟨?_, ?_, by simp⟩
    · have hmem : ∀ p ∈ files, p ∈ g.config.allFiles := fun p h => hp.mem_iff.mpr h
      rw [hc]
      apply List.Forall₂.imp _ ((List.forall₂_and_left _ _).mpr ⟨hmem, hf'⟩)
      rintro p o ⟨hm, ht⟩
      exact transformed_of_perm hg hg' hc hp hd hm ht
    · rw [hc]
      exact ((hp.map (g.config.resolve t)).pairwise_iff Path.same_eq_false_symm).mp hd
  have hfin : g'.finish os'.reduceOption = g.finish os.reduceOption := finish_of_perm hc hm.symm
  refine ⟨_, _, (modules_eq_ok_iff hg).mpr ⟨os, ha, rfl⟩,
    (modules_eq_ok_iff hg').mpr ⟨os', ha', rfl⟩, hm.symm, rfl, ?_⟩
  rw [← hfin]
  apply (files_eq_ok_iff hg').mpr
  refine ⟨os', ha', rfl, repeatedPath?_eq_none_iff.mpr ⟨by simp, ?_⟩⟩
  rw [hfin]
  apply List.Perm.pairwise_iff Path.same_eq_false_symm _ |>.mpr
  · exact (repeatedPath?_eq_none_iff.mp hr).2
  · exact (hm.append_right _).map _

/-- Runs without formatting over the same artifacts in two orders both succeed or both fail; the
modules of one are those of the other in another order, and the shared files are the same. -/
theorem generate_of_perm (hg : MadeOn t g) (hg' : MadeOn t g')
    (hc : g'.config = { g.config with allFiles := files }) (hp : g.config.allFiles.Perm files)
    (hn : g.config.prettier = false) (f : Formatter) :
    ((∃ fs, g.generate t f = .ok fs) ↔ ∃ fs, g'.generate t f = .ok fs) ∧
    ∀ fs fs', g.generate t f = .ok fs → g'.generate t f = .ok fs' →
      ∃ ms ms' shared, g.modules t [] g.config.allFiles = .ok ms ∧
        g'.modules t [] files = .ok ms' ∧ ms.Perm ms' ∧
        g.finish ms = shared ∧ g'.finish ms' = shared ∧
        fs = ms ++ shared ∧ fs' = ms' ++ shared := by
  have hn' : g'.config.prettier = false := by rw [hc]; exact hn
  have hfiles : g'.config.allFiles = files := by rw [hc]
  rw [generate_eq_files hn, generate_eq_files hn']
  constructor
  · constructor
    · rintro ⟨fs, h⟩
      obtain ⟨ms, ms', -, -, -, -, h'⟩ := files_of_perm hg hg' hc hp h
      exact ⟨_, h'⟩
    · have hc' : g.config = { g'.config with allFiles := g.config.allFiles } := by rw [hc]
      have hp' : g'.config.allFiles.Perm g.config.allFiles := by
        rw [hfiles]
        exact hp.symm
      rintro ⟨fs, h⟩
      obtain ⟨ms, ms', -, -, -, -, h'⟩ := files_of_perm hg' hg hc' hp' h
      exact ⟨_, h'⟩
  · intro fs fs' h h'
    obtain ⟨ms, ms', hms, hms', hperm, rfl, he⟩ := files_of_perm hg hg' hc hp h
    rw [hfiles] at hms'
    rw [he] at h'
    exact ⟨ms, ms', _, hms, hms', hperm, rfl, finish_of_perm hc hperm, rfl, (Except.ok.inj h').symm⟩

theorem generate_of_perm_tokens : ∃ (g g' : Generator) (t : FileTree), MadeOn t g ∧ MadeOn t g' ∧
    g.config.allFiles = [⟨"/Token.json"⟩, ⟨"/Vault.json"⟩] ∧
    g'.config.allFiles = [⟨"/Vault.json"⟩, ⟨"/Token.json"⟩] ∧
    ∀ f, (∃ fs, g.generate t f = .ok fs) ∧ ∃ fs, g'.generate t f = .ok fs := by
  let text := "[\x7b\"type\": \"fallback\"\x7d]"
  let t : FileTree :=
    ⟨[], [(["Token.json"], .file text.toUTF8), (["Vault.json"], .file text.toUTF8)]⟩
  let c : Config := { outDir := some ⟨"out"⟩, allFiles := [⟨"/Token.json"⟩, ⟨"/Vault.json"⟩] }
  let g := ofConfig c
  let g' := ofConfig { c with allFiles := [⟨"/Vault.json"⟩, ⟨"/Token.json"⟩] }
  have hg : MadeOn t g := MadeOn.ofConfig _
  have hg' : MadeOn t g' := MadeOn.ofConfig _
  have hlists : g.config.Lists t [(["Token.json"], text), (["Vault.json"], text)] :=
    ⟨by decide, by decide, List.forall_mem_cons.mpr ⟨.of_root (by decide) rfl,
      List.forall_mem_singleton.mpr (.of_root (by decide) rfl)⟩⟩
  obtain ⟨ms, -, -, hok⟩ := exists_run hg rfl hlists rfl (by decide +kernel :
    _ = [some ⟨"out/Token.ts"⟩, some ⟨"out/Vault.ts"⟩].map some) (by decide)
  refine ⟨g, g', t, hg, hg', rfl, rfl, fun f => ⟨⟨_, hok f⟩, ?_⟩⟩
  exact (generate_of_perm hg hg' rfl (List.Perm.swap _ _ _) rfl f).1.mp ⟨_, hok f⟩

end Generator

end ContractTypings
