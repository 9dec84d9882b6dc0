import ContractTypings.Generator.Layout
import ContractTypings.Proofs.Walk

namespace ContractTypings

section CommonStart

variable {α : Type} [DecidableEq α]

theorem prefix_commonStart_iff {as bs cs : List α} :
    cs <+: commonStart as bs ↔ cs <+: as ∧ cs <+: bs := by
  induction as generalizing bs cs with
  | nil =>
    simp only [commonStart, List.prefix_nil]
    constructor
    · rintro rfl
      exact ⟨rfl, List.nil_prefix⟩
    · exact And.left
  | cons a as ih =>
    cases bs with
    | nil =>
      simp only [commonStart, List.prefix_nil]
      constructor
      · rintro rfl
        exact ⟨List.nil_prefix, rfl⟩
      · exact And.right
    | cons b bs =>
      rw [commonStart]
      cases cs with
      | nil => simp
      | cons c cs =>
        split
        next hab =>
          subst hab
          rw [List.cons_prefix_cons, List.cons_prefix_cons, List.cons_prefix_cons, ih]
          constructor
          · rintro ⟨hc, ha, hb⟩
            exact ⟨⟨hc, ha⟩, hc, hb⟩
          · rintro ⟨⟨hc, ha⟩, -, hb⟩
            exact ⟨hc, ha, hb⟩
        next hab =>
          rw [List.cons_prefix_cons, List.cons_prefix_cons, List.prefix_nil]
          constructor
          · intro h
            cases h
          · rintro ⟨⟨rfl, -⟩, hb, -⟩
            exact absurd hb hab

theorem prefix_foldl_commonStart_iff {β : Type} {f : β → List α} {bs : List β} {as cs : List α} :
    cs <+: bs.foldl (fun shared b => commonStart shared (f b)) as ↔
      cs <+: as ∧ ∀ b ∈ bs, cs <+: f b := by
  induction bs generalizing as with
  | nil => simp
  | cons b bs ih =>
    rw [List.foldl_cons, ih, prefix_commonStart_iff, List.forall_mem_cons, and_assoc]

end CommonStart

namespace Path

theorem directoryComponents_eq (p : Path) : p.directoryComponents = p.components.dropLast := by
  unfold directoryComponents
  rcases p.parent?_eq with ⟨hn, hc | hc⟩ | ⟨q, hq, hc⟩
  · rw [hn, hc]
    rfl
  · rw [hn, hc]
    rfl
  · rw [hq, ← hc]
    rfl

end Path

theorem shared_isPrefix (file : Path) (files : List Path) :
    files.foldl (fun shared q => commonStart shared q.directoryComponents)
      file.directoryComponents <+: file.components := by
  have h : files.foldl (fun shared q => commonStart shared q.directoryComponents)
      file.directoryComponents <+: file.directoryComponents :=
    (prefix_foldl_commonStart_iff.mp List.prefix_rfl).1
  apply h.trans
  rw [Path.directoryComponents_eq]
  exact List.dropLast_prefix _

theorem prefix_commonAncestor_iff {files : List Path} (hn : files ≠ []) {cs : List Path.Component} :
    cs <+: (commonAncestor files).components ↔ ∀ p ∈ files, cs <+: p.components.dropLast := by
  obtain ⟨f, fs, rfl⟩ := List.exists_cons_of_ne_nil hn
  rw [commonAncestor, Path.components_ofComponents (shared_isPrefix f fs),
    prefix_foldl_commonStart_iff, List.forall_mem_cons]
  simp only [Path.directoryComponents_eq]

theorem ofComponents_commonAncestor (files : List Path) :
    Path.ofComponents (commonAncestor files).components = commonAncestor files := by
  cases files with
  | nil => rfl
  | cons f fs => rw [commonAncestor, Path.components_ofComponents (shared_isPrefix f fs)]

theorem isSourceDirectory_eq_true_iff {dir : Path} {s : String} (h : dir.fileName? = some s) :
    isSourceDirectory dir = true ↔ ".sol".toList <:+ s.toList := by
  rw [isSourceDirectory, h, Option.any_some, List.isSuffixOf_iff_suffix]

theorem shortenArtifact_cases {p : Path} {file : String} (h : p.fileName? = some file) :
    (∃ d s, p.components = d ++ [.name s, .name file] ∧ ".sol".toList <:+ s.toList ∧
        (shortenArtifact p).components = d ++ [.name file]) ∨
      shortenArtifact p = p ∧
        ∀ d s, p.components = d ++ [.name s, .name file] → ¬ ".sol".toList <:+ s.toList := by
  obtain ⟨dir, hd, hp⟩ := Path.exists_parent? h
  have hf : Path.IsName file :=
    Path.isName_of_mem_components (hp ▸ List.mem_append_right _ (by simp))
  -- the directory is the one that any split of the components names
  have hs {d : List Path.Component} {s : String} (hc : p.components = d ++ [.name s, .name file]) :
      dir.fileName? = some s := by
    have he : dir.components ++ [.name file] = (d ++ [.name s]) ++ [.name file] := by
      rw [← hp, hc, List.append_assoc]
      rfl
    rw [Path.fileName?_eq_some_iff, List.append_cancel_right he, List.getLast?_concat]
  by_cases hsol : isSourceDirectory dir = true
  · left
    obtain ⟨s, hn⟩ : ∃ s, dir.fileName? = some s := by
      cases hn : dir.fileName? with
      | none => simp [isSourceDirectory, hn] at hsol
      | some s => exact ⟨s, rfl⟩
    obtain ⟨outer, ho, hc⟩ := Path.exists_parent? hn
    refine ⟨outer.components, s, ?_, (isSourceDirectory_eq_true_iff hn).mp hsol, ?_⟩
    · rw [hp, hc, List.append_assoc]
      rfl
    · simp only [shortenArtifact, hd, h, ho, hsol, if_true]
      exact Path.components_joinName outer hf.2.2.2 hf.component?
  · right
    constructor
    · simp only [shortenArtifact, hd, h]
      split
      · rw [if_neg hsol]
      · rfl
    · intro d s hc hsuf
      exact hsol ((isSourceDirectory_eq_true_iff (hs hc)).mpr hsuf)

def shortenAmong (files : List Path) (p : Path) : Path :=
  if 1 < (files.map shortenArtifact).countP (·.same (shortenArtifact p)) then p
  else shortenArtifact p

namespace Config

def resolvedFiles (c : Config) (t : FileTree) : List Path := c.allFiles.map (c.resolve t)

theorem resolvedFiles_eq {c : Config} {t : FileTree} (h : ∀ p ∈ c.allFiles, c.resolve t p = p) :
    c.resolvedFiles t = c.allFiles :=
  (List.map_congr_left h).trans (List.map_id _)

theorem layout_eq_map (c : Config) (t : FileTree) :
    c.layout t = (c.resolvedFiles t).map fun p =>
      (p, (shortenAmong (c.resolvedFiles t) p).relativeTo (c.inputRoot t (c.resolvedFiles t))) := by
  have hz {α β : Type} (f : α → β) (as : List α) :
      as.zip (as.map f) = as.map fun a => (a, f a) := by
    induction as with
    | nil => rfl
    | cons a as ih => rw [List.map_cons, List.zip_cons_cons, ih, List.map_cons]
  have hl : c.layout t = (c.resolvedFiles t).zip ((c.resolvedFiles t).map fun p =>
      (shortenAmong (c.resolvedFiles t) p).relativeTo (c.inputRoot t (c.resolvedFiles t))) := by
    unfold layout shortenArtifacts
    dsimp only
    rw [List.map_map]
    rfl
  rw [hl, hz]

theorem exists_get?_layout {c : Config} {t : FileTree} {p : Path} (hp : p ∈ c.allFiles) :
    ∃ e ∈ c.layout t, e.1.same (c.resolve t p) = true ∧
      (c.layout t).get? (c.resolve t p) = some e.2 := by
  have hm : c.resolve t p ∈ (c.layout t).map Prod.fst := by
    rw [layout_eq_map, List.map_map]
    exact List.mem_map.mpr ⟨c.resolve t p, List.mem_map_of_mem hp, rfl⟩
  obtain ⟨e, he, hr⟩ := List.mem_map.mp hm
  cases hf : (c.layout t).reverse.find? fun e => e.1.same (c.resolve t p) with
  | none =>
    have hs := List.find?_eq_none.mp hf e (List.mem_reverse.mpr he)
    exact absurd (by simp [hr, Path.same]) hs
  | some e' =>
    have hs := List.find?_some hf
    refine ⟨e', List.mem_reverse.mp (List.mem_of_find?_eq_some hf), hs, ?_⟩
    rw [Layout.get?, hf, Option.map_some]

structure Lists (c : Config) (t : FileTree) (texts : List (Place × String)) : Prop where
  allFiles : c.allFiles = texts.map fun e => FileTree.absolutePath e.1
  nodup : (texts.map Prod.fst).Nodup
  hasFile : ∀ e ∈ texts, t.HasFile e.1 e.2

namespace Lists

variable {c : Config} {t : FileTree} {texts : List (Place × String)}

theorem resolve (h : c.Lists t texts) {p : Path} (hp : p ∈ c.allFiles) : c.resolve t p = p := by
  rw [h.allFiles] at hp
  obtain ⟨e, he, rfl⟩ := List.mem_map.mp hp
  rw [Config.resolve, Path.join, if_pos (FileTree.isAbsolute_absolutePath e.1)]
  exact (h.hasFile e he).resolve

theorem eq_of_same (h : c.Lists t texts) {p q : Path} (hp : p ∈ c.allFiles) (hq : q ∈ c.allFiles)
    (hs : p.same q = true) : p = q := by
  rw [h.allFiles] at hp hq
  obtain ⟨d, hd, rfl⟩ := List.mem_map.mp hp
  obtain ⟨e, he, rfl⟩ := List.mem_map.mp hq
  exact congrArg _ ((h.hasFile d hd).fits.eq_of_same (h.hasFile e he).fits hs)

theorem pairwise (h : c.Lists t texts) : c.allFiles.Pairwise fun p q => p.same q = false := by
  rw [h.allFiles, List.pairwise_map]
  apply (List.pairwise_map.mp h.nodup).imp_of_mem
  intro d e hd he hne
  rw [← Bool.not_eq_true]
  exact fun hs => hne ((h.hasFile d hd).fits.eq_of_same (h.hasFile e he).fits hs)

theorem get?_layout (h : c.Lists t texts) {p : Path} (hp : p ∈ c.allFiles) :
    (c.layout t).get? p =
      some ((shortenAmong c.allFiles p).relativeTo (c.inputRoot t c.allFiles)) := by
  obtain ⟨e, he, hs, hget⟩ := exists_get?_layout (t := t) hp
  rw [h.resolve hp] at hs hget
  rw [layout_eq_map, resolvedFiles_eq fun _ => h.resolve] at he
  obtain ⟨q, hq, rfl⟩ := List.mem_map.mp he
  obtain rfl := h.eq_of_same hq hp hs
  exact hget

end Lists

end Config

end ContractTypings
