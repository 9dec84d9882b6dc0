import ContractTypings.Generator.Bindings
import ContractTypings.Proofs.RunPhases
import Mathlib.Data.List.Nodup

namespace ContractTypings

namespace ModulePlace

variable {outDir : Path} {m n : ModulePlace} {places : List ModulePlace}

theorem directories_of_ofPath? {p : Path} (h : ofPath? p = some m) :
    m.directories = p.directoryNames := by
  rw [ofPath?] at h
  obtain ⟨name, -, rfl⟩ := Option.map_eq_some_iff.mp h
  rfl

theorem pairwise_file_iff (h : ∀ m ∈ places, m.IsPlain) :
    (places.map (·.file outDir)).Pairwise (fun p q => p.same q = false) ↔ places.Nodup := by
  rw [List.pairwise_map]
  apply List.Pairwise.iff_of_mem
  intro m n hm hn
  rw [← Bool.not_eq_true, same_file_iff (h m hm) (h n hn)]

def around (places : List ModulePlace) : List ModulePlace :=
  ⟨[], "types"⟩ :: (Barrel.directoriesOf places).map fun d => ⟨d, "index"⟩

theorem nodup_around (places : List ModulePlace) : (around places).Nodup := by
  apply List.nodup_cons.mpr
  constructor
  · intro h
    obtain ⟨d, -, hd⟩ := List.mem_map.mp h
    revert hd
    simp
  · apply List.Nodup.map
    · intro d d' h
      exact congrArg directories h
    · apply (Barrel.pairwise_directoriesOf places).imp
      rintro d d' hlt rfl
      exact List.lt_irrefl d hlt

theorem name_of_mem_around (h : m ∈ around places) : m.name = "types" ∨ m.name = "index" := by
  rcases List.mem_cons.mp h with rfl | h
  · exact Or.inl rfl
  · obtain ⟨d, -, rfl⟩ := List.mem_map.mp h
    exact Or.inr rfl

theorem directories_of_mem_around (hp : ∀ m ∈ places, ∀ s ∈ m.directories, Path.IsName s)
    (h : m ∈ around places) : ∀ s ∈ m.directories, Path.IsName s := by
  rcases List.mem_cons.mp h with rfl | h
  · simp
  · obtain ⟨d, hd, rfl⟩ := List.mem_map.mp h
    obtain ⟨n, hn, hpre⟩ := Barrel.mem_directoriesOf.mp hd
    exact fun s hs => hp n hn s (hpre.subset hs)

theorem isPlain_of_mem_around (hp : ∀ m ∈ places, ∀ s ∈ m.directories, Path.IsName s)
    (h : m ∈ around places) : m.IsPlain := by
  have hd := directories_of_mem_around hp h
  rcases name_of_mem_around h with hn | hn
  · exact ⟨hd, hn ▸ by decide, hn ▸ by decide⟩
  · exact ⟨hd, hn ▸ by decide, hn ▸ by decide⟩

end ModulePlace

theorem Contract.name?_ne_shared {stem name : String} (h : name? stem = some name) :
    name ≠ "types" ∧ name ≠ "index" := by
  constructor
  · rintro rfl
    have := head_name? h rfl
    revert this
    decide
  · rintro rfl
    have := head_name? h rfl
    revert this
    decide

section Forall₂

variable {α β : Type} {R : α → Option β → Prop} {as : List α} {os : List (Option β)}

theorem mem_reduceOption_of_forall₂ (h : List.Forall₂ R as os) {b : β} (hb : b ∈ os.reduceOption) :
    ∃ a ∈ as, R a (some b) := by
  induction h with
  | nil => cases hb
  | @cons a o as os ho _ ih =>
    rw [Generator.reduceOption_cons, List.mem_append] at hb
    rcases hb with hb | hb
    · obtain rfl : o = some b := Option.mem_toList.mp hb
      exact ⟨a, List.mem_cons_self, ho⟩
    · obtain ⟨a', ha, hr⟩ := ih hb
      exact ⟨a', List.mem_cons_of_mem a ha, hr⟩

theorem mem_reduceOption_iff (hu : Relator.RightUnique R) (h : List.Forall₂ R as os) {b : β} :
    b ∈ os.reduceOption ↔ ∃ a ∈ as, R a (some b) := by
  constructor
  · exact mem_reduceOption_of_forall₂ h
  · rintro ⟨a, ha, hb⟩
    induction h with
    | nil => cases ha
    | cons ho _ ih =>
      rw [Generator.reduceOption_cons, List.mem_append]
      rcases List.mem_cons.mp ha with rfl | ha
      · obtain rfl := hu ho hb
        exact Or.inl (List.mem_singleton_self b)
      · exact Or.inr (ih ha)

theorem pairwise_reduceOption_iff (hu : Relator.RightUnique R) (h : List.Forall₂ R as os)
    {S : β → β → Prop} : os.reduceOption.Pairwise S ↔
      as.Pairwise fun a a' => ∀ b b', R a (some b) → R a' (some b') → S b b' := by
  induction h with
  | nil => simp
  | @cons a o as os ho h ih =>
    rw [Generator.reduceOption_cons, List.pairwise_cons, ← ih]
    cases o with
    | none =>
      have hn : ∀ b, ¬ R a (some b) := fun b hb => nomatch hu ho hb
      simp [hn]
    | some b =>
      have hb : ∀ b', R a (some b') ↔ b' = b := by
        intro b'
        constructor
        · intro h
          exact Option.some.inj (hu h ho)
        · rintro rfl
          exact ho
      rw [Option.toList_some, List.singleton_append, List.pairwise_cons]
      apply and_congr_left
      intro _
      simp only [mem_reduceOption_iff hu h, hb]
      constructor
      · rintro h a' ha c c' rfl hc
        exact h c' ⟨a', ha, hc⟩
      · rintro h c' ⟨a', ha, hc⟩
        exact h a' ha b c' rfl hc

end Forall₂

namespace Generator

variable {g : Generator} {t : FileTree} {p q : Path} {os : List (Option GeneratedFile)}

def Describes (g : Generator) (t : FileTree) (p : Path) (c : Contract) : Prop :=
  ∃ contents artifact abi, t.readText (g.config.resolve t p) = .ok contents ∧
    Artifact.read contents = .ok artifact ∧ artifact.nonEmptyAbi? = some abi ∧
    Contract.ofAbi abi (g.placeOf t p) artifact.documentation = .ok c

/-- Two artifacts that are the same file, or describe contracts with one place for their modules. -/
def Clash (g : Generator) (t : FileTree) (p q : Path) : Prop :=
  (g.config.resolve t p).same (g.config.resolve t q) = true ∨
    ∃ c d, g.Describes t p c ∧ g.Describes t q d ∧ c.path = d.path ∧ c.name = d.name

theorem rightUnique_transformed (g : Generator) (t : FileTree) :
    Relator.RightUnique (g.Transformed t) := by
  rintro p o o' ⟨contents, hr, ht⟩ ⟨contents', hr', ht'⟩
  obtain rfl := Except.ok.inj (hr.symm.trans hr')
  exact Except.ok.inj (ht.symm.trans ht')

theorem transformed_some_iff {f : GeneratedFile} : g.Transformed t p (some f) ↔
    ∃ c, g.Describes t p c ∧ f = ⟨modulePath g.outDirPath c, c.module.render⟩ := by
  constructor
  · rintro ⟨contents, hr, ht⟩
    obtain ⟨artifact, abi, c, ha, hn, hc, rfl⟩ := transformAt_eq_ok_some_iff.mp ht
    exact ⟨c, ⟨contents, artifact, abi, hr, ha, hn, hc⟩, rfl⟩
  · rintro ⟨c, ⟨contents, artifact, abi, hr, ha, hn, hc⟩, rfl⟩
    exact ⟨contents, hr, transformAt_eq_ok_some_iff.mpr ⟨artifact, abi, c, ha, hn, hc, rfl⟩⟩

theorem Describes.isPlain {c : Contract} (h : g.Describes t p c) :
    ModulePlace.IsPlain ⟨c.path, c.name⟩ := by
  obtain ⟨-, artifact, abi, -, -, -, hc⟩ := h
  obtain ⟨stem, name, hs, hn, rfl, -⟩ := Contract.ofAbi_eq_ok_iff.mp hc
  exact isPlain_of_name? hs hn

theorem same_modulePath_iff {c d : Contract} (hc : g.Describes t p c) (hd : g.Describes t q d) :
    (modulePath g.outDirPath c).same (modulePath g.outDirPath d) = true ↔
      c.path = d.path ∧ c.name = d.name := by
  have hf := @ModulePlace.same_file_iff _ _ g.outDirPath hc.isPlain hd.isPlain
  rw [ModulePlace.mk.injEq] at hf
  exact hf

theorem not_clash_iff : ¬ g.Clash t p q ↔
    (g.config.resolve t p).same (g.config.resolve t q) = false ∧
      ∀ f f', g.Transformed t p (some f) → g.Transformed t q (some f') →
        f.path.same f'.path = false := by
  rw [Clash, not_or, Bool.not_eq_true]
  apply and_congr_right
  intro _
  constructor
  · rintro h f f' hf hf'
    obtain ⟨c, hc, rfl⟩ := transformed_some_iff.mp hf
    obtain ⟨d, hd, rfl⟩ := transformed_some_iff.mp hf'
    rw [← Bool.not_eq_true, same_modulePath_iff hc hd]
    exact fun he => h ⟨c, d, hc, hd, he⟩
  · rintro h ⟨c, d, hc, hd, he⟩
    have hs := h _ _ (transformed_some_iff.mpr ⟨c, hc, rfl⟩) (transformed_some_iff.mpr ⟨d, hd, rfl⟩)
    rw [(same_modulePath_iff hc hd).mpr he] at hs
    cases hs

theorem paths_finish_eq (g : Generator) (generated : List GeneratedFile) :
    (g.finish generated).map (·.path) =
      (ModulePlace.around (g.placesOf generated)).map (·.file g.outDirPath) := by
  have ht : SharedTypes.fileName = "types" ++ ".ts" := by decide
  have hi : Barrel.fileName = "index" ++ ".ts" := by decide
  rw [paths_finish, ModulePlace.around, List.map_cons, List.map_map, ht, hi]
  simp only [ModulePlace.file, Function.comp_def, List.foldl_nil]

theorem isName_of_mem_placesOf {generated : List GeneratedFile} :
    ∀ m ∈ g.placesOf generated, ∀ s ∈ m.directories, Path.IsName s := by
  intro m hm s hs
  obtain ⟨f, -, hf⟩ := List.mem_filterMap.mp hm
  rw [ModulePlace.directories_of_ofPath? hf] at hs
  exact Path.isName_of_mem_directoryNames hs

theorem module_not_finish {contents : String} {f : GeneratedFile}
    (h : g.transform t p contents = .ok (some f)) {generated : List GeneratedFile}
    {s : GeneratedFile} (hs : s ∈ g.finish generated) : f.path.same s.path = false := by
  obtain ⟨stem, name, hstem, hn, hpath⟩ := path_of_transformAt h
  have hm : s.path ∈ (g.finish generated).map (·.path) := List.mem_map_of_mem hs
  rw [paths_finish_eq] at hm
  obtain ⟨m, hm, hs⟩ := List.mem_map.mp hm
  have hplain := ModulePlace.isPlain_of_mem_around isName_of_mem_placesOf hm
  rw [hpath, ← hs, ← Bool.not_eq_true,
    ModulePlace.same_file_iff (isPlain_of_name? hstem hn) hplain]
  rintro rfl
  obtain ⟨ht, hi⟩ := Contract.name?_ne_shared hn
  exact (ModulePlace.name_of_mem_around hm).elim ht hi

theorem pairwise_output_iff {modules : List GeneratedFile}
    (h : ∀ f ∈ modules, ∃ p contents, g.transform t p contents = .ok (some f)) :
    ((modules ++ g.finish modules).map (·.path)).Pairwise (fun p q => p.same q = false) ↔
      modules.Pairwise fun f f' => f.path.same f'.path = false := by
  have hfinish : ((g.finish modules).map (·.path)).Pairwise fun p q => p.same q = false := by
    have hplain : ∀ m ∈ ModulePlace.around (g.placesOf modules), m.IsPlain :=
      fun m hm => ModulePlace.isPlain_of_mem_around isName_of_mem_placesOf hm
    rw [paths_finish_eq]
    exact (ModulePlace.pairwise_file_iff hplain).mpr (ModulePlace.nodup_around _)
  rw [List.map_append, List.pairwise_append, List.pairwise_map]
  constructor
  · exact fun h => h.1
  · intro hp
    refine ⟨hp, hfinish, ?_⟩
    intro q hq r hr
    obtain ⟨f, hf, rfl⟩ := List.mem_map.mp hq
    obtain ⟨s, hs, rfl⟩ := List.mem_map.mp hr
    obtain ⟨p, contents, ht⟩ := h f hf
    exact module_not_finish ht hs

theorem exists_transformed {ps : List Path} (h : ∀ p ∈ ps, ∃ o, g.Transformed t p o) :
    ∃ os, List.Forall₂ (g.Transformed t) ps os := by
  induction ps with
  | nil => exact ⟨[], List.Forall₂.nil⟩
  | cons p ps ih =>
    obtain ⟨⟨o, ho⟩, hps⟩ := List.forall_mem_cons.mp h
    obtain ⟨os, hos⟩ := ih hps
    exact ⟨o :: os, List.Forall₂.cons ho hos⟩

theorem distinct_iff (hf : List.Forall₂ (g.Transformed t) g.config.allFiles os) :
    (g.config.allFiles.map (g.config.resolve t)).Pairwise (fun q r => q.same r = false) ∧
        ((os.reduceOption ++ g.finish os.reduceOption).map (·.path)).Pairwise
          (fun q r => q.same r = false) ↔
      ∀ p q, [p, q].Sublist g.config.allFiles → ¬ g.Clash t p q := by
  have hmodules : ∀ f ∈ os.reduceOption, ∃ p contents,
      g.transform t p contents = .ok (some f) := by
    intro f hm
    obtain ⟨p, -, contents, -, ht⟩ := mem_reduceOption_of_forall₂ hf hm
    exact ⟨p, contents, ht⟩
  rw [pairwise_output_iff hmodules,
    pairwise_reduceOption_iff (rightUnique_transformed g t) hf, List.pairwise_map,
    ← List.pairwise_and_iff]
  simp only [← not_clash_iff]
  rw [List.pairwise_iff_forall_sublist]

theorem outcome_of_transformed {before : List Path} {o : Option GeneratedFile} {e : Failure}
    (ht : g.Transformed t p o) (he : g.outcome t before p = .error e) :
    e = .duplicateOutput (g.config.resolve t p) := by
  obtain ⟨contents, hr, ht⟩ := ht
  unfold outcome at he
  split at he
  · cases he
    rfl
  · rw [hr] at he
    dsimp only at he
    rw [ht] at he
    cases he

theorem files_ok_iff (hg : MadeOn t g)
    (hf : List.Forall₂ (g.Transformed t) g.config.allFiles os) {fs : List GeneratedFile} :
    g.files t = .ok fs ↔ fs = os.reduceOption ++ g.finish os.reduceOption ∧
      ∀ p q, [p, q].Sublist g.config.allFiles → ¬ g.Clash t p q := by
  rw [files_eq_ok_iff hg, ← distinct_iff hf]
  constructor
  · rintro ⟨os', ha, rfl, hr⟩
    obtain ⟨hf', hd, -⟩ := accepts_iff.mp ha
    obtain rfl := List.right_unique_forall₂' (rightUnique_transformed g t) hf hf'
    exact ⟨rfl, hd, (repeatedPath?_eq_none_iff.mp hr).2⟩
  · rintro ⟨rfl, hd, hp⟩
    exact ⟨os, accepts_iff.mpr ⟨hf, hd, by simp⟩, rfl,
      repeatedPath?_eq_none_iff.mpr ⟨by simp, hp⟩⟩

theorem exists_run (hg : MadeOn t g) (hn : g.config.prettier = false)
    {texts : List (Place × String)} (h : g.config.Lists t texts) {root : Path}
    (hroot : g.config.inputRoot t g.config.allFiles = root) {paths : List (Option Path)}
    (hpaths : (texts.map fun e => (resultOf g.config root e).toOption.map (Option.map (·.path))) =
      paths.map some)
    (hd : paths.reduceOption.Pairwise fun p q => p.same q = false) :
    ∃ ms, ms.map (·.path) = paths.reduceOption ∧ g.modules t [] g.config.allFiles = .ok ms ∧
      ∀ f, g.generate t f = .ok (ms ++ g.finish ms) := by
  obtain ⟨os, hf, ho⟩ := exists_transformed_of_lists hg h hroot hpaths
  have hms : os.reduceOption.map (·.path) = paths.reduceOption := by
    rw [← List.reduceOption_map, ho]
  have htransform : ∀ f ∈ os.reduceOption, ∃ p contents,
      g.transform t p contents = .ok (some f) := by
    intro f hm
    obtain ⟨p, -, contents, -, ht⟩ := mem_reduceOption_of_forall₂ hf hm
    exact ⟨p, contents, ht⟩
  have hresolved : (g.config.allFiles.map (g.config.resolve t)).Pairwise
      fun q r => q.same r = false := by
    rw [List.map_congr_left fun p hp => h.resolve hp, List.map_id']
    exact h.pairwise
  have ha : Accepts g t [] g.config.allFiles os := accepts_iff.mpr ⟨hf, hresolved, by simp⟩
  have hr :
      repeatedPath? [] ((os.reduceOption ++ g.finish os.reduceOption).map (·.path)) = none := by
    rw [← hms, List.pairwise_map] at hd
    exact repeatedPath?_eq_none_iff.mpr ⟨by simp, (pairwise_output_iff htransform).mpr hd⟩
  refine ⟨os.reduceOption, hms, (modules_eq_ok_iff hg).mpr ⟨os, ha, rfl⟩, fun f => ?_⟩
  rw [generate_eq_files hn]
  exact (files_eq_ok_iff hg).mpr ⟨os, ha, rfl, hr⟩

theorem files_eq_duplicateOutput (hg : MadeOn t g)
    (hr : ∀ p ∈ g.config.allFiles, ∃ o, g.Transformed t p o) {e : Failure}
    (he : g.files t = .error e) : ∃ p, e = .duplicateOutput p := by
  rcases (files_eq_error_iff hg).mp he with hf | ⟨os, p, -, -, rfl⟩
  · obtain ⟨qs, p, rest, hps, -, ho⟩ := fails_iff.mp hf
    have hp : p ∈ g.config.allFiles := by
      rw [hps]
      exact List.mem_append_right _ List.mem_cons_self
    obtain ⟨o, ht⟩ := hr p hp
    exact ⟨_, outcome_of_transformed ht ho⟩
  · exact ⟨p, rfl⟩

theorem generate_eq_map (g : Generator) (t : FileTree) (f : Formatter) :
    ∃ format : GeneratedFile → GeneratedFile, (∀ file, (format file).path = file.path) ∧
      g.generate t f = (g.files t).map (List.map format) := by
  unfold generate
  cases g.config.prettier with
  | true => exact ⟨formatFile f, fun _ => rfl, rfl⟩
  | false =>
    refine ⟨id, fun _ => rfl, ?_⟩
    cases g.files t with
    | error e => rfl
    | ok fs => simp [Except.map]

/-- A run over artifacts that can all be transformed fails just if two of them are the same file or
describe contracts with one place, and then because of an output path; otherwise each output path
leads to its own file. No module, of whatever artifact, has the path of a shared file. -/
theorem generate_outputs (hg : MadeOn t g)
    (hr : ∀ p ∈ g.config.allFiles, ∃ o, g.Transformed t p o) (f : Formatter) :
    ((∃ e, g.generate t f = .error e) ↔
      ∃ p q, [p, q].Sublist g.config.allFiles ∧ g.Clash t p q) ∧
    (∀ e, g.generate t f = .error e → ∃ p, e = .duplicateOutput p) ∧
    (∀ files, g.generate t f = .ok files →
      (files.map (·.path)).Pairwise (fun p q => p.same q = false) ∧
      ∀ file ∈ files, Bindings.get? ⟨files⟩ file.path = some file) ∧
    ∀ t' p contents module, g.transform t' p contents = .ok (some module) →
      ∀ generated, ∀ file ∈ g.finish generated, module.path.same file.path = false := by
  obtain ⟨os, hf⟩ := exists_transformed hr
  obtain ⟨format, hpath, hgen⟩ := g.generate_eq_map t f
  have herror : ∀ e, g.generate t f = .error e ↔ g.files t = .error e := by
    intro e
    rw [hgen]
    cases g.files t <;> simp [Except.map]
  refine ⟨?_, ?_, ?_, fun t' p contents module h generated file hm => module_not_finish h hm⟩
  · simp only [herror]
    constructor
    · rintro ⟨e, he⟩
      by_contra hn
      have hok := (files_ok_iff hg hf).mpr ⟨rfl, fun p q hs hc => hn ⟨p, q, hs, hc⟩⟩
      rw [he] at hok
      cases hok
    · rintro ⟨p, q, hs, hc⟩
      cases hfiles : g.files t with
      | error e => exact ⟨e, rfl⟩
      | ok fs => exact absurd hc (((files_ok_iff hg hf).mp hfiles).2 p q hs)
  · intro e he
    exact files_eq_duplicateOutput hg hr ((herror e).mp he)
  · intro files hok
    have hd : (files.map (·.path)).Pairwise fun p q => p.same q = false := by
      rw [hgen] at hok
      cases hfiles : g.files t with
      | error e =>
        rw [hfiles] at hok
        cases hok
      | ok fs =>
        rw [hfiles] at hok
        cases hok
        obtain ⟨rfl, hn⟩ := (files_ok_iff hg hf).mp hfiles
        have hpaths : (fun file : GeneratedFile => file.path) ∘ format = fun file => file.path :=
          funext hpath
        rw [List.map_map, hpaths]
        exact ((distinct_iff hf).mpr hn).2
    exact ⟨hd, fun file hm => Path.find?_same (List.pairwise_map.mp hd) hm⟩

theorem generate_outputs_tokens : ∃ (g : Generator) (t : FileTree), MadeOn t g ∧
    g.config.allFiles = [⟨"/Token.json"⟩, ⟨"/token.json"⟩] ∧
    (∀ p ∈ g.config.allFiles, ∃ module, g.Transformed t p (some module)) ∧
    ∀ f, ∃ p, g.generate t f = .error (.duplicateOutput p) := by
  let text := "[\x7b\"type\": \"fallback\"\x7d]"
  let t : FileTree :=
    ⟨[], [(["Token.json"], .file text.toUTF8), (["token.json"], .file text.toUTF8)]⟩
  let g := ofConfig { outDir := some ⟨"out"⟩, allFiles := [⟨"/Token.json"⟩, ⟨"/token.json"⟩] }
  have hg : MadeOn t g := MadeOn.ofConfig _
  have hlists : g.config.Lists t [(["Token.json"], text), (["token.json"], text)] :=
    ⟨by decide, by decide, List.forall_mem_cons.mpr ⟨.of_root (by decide) rfl,
      List.forall_mem_singleton.mpr (.of_root (by decide) rfl)⟩⟩
  obtain ⟨os, hf, hpaths⟩ := exists_transformed_of_lists hg hlists rfl (by decide +kernel :
    _ = [some ⟨"out/Token.ts"⟩, some ⟨"out/Token.ts"⟩].map some)
  obtain ⟨file, file', ht, ht', hpath⟩ : ∃ file file' : GeneratedFile,
      g.Transformed t ⟨"/Token.json"⟩ (some file) ∧
      g.Transformed t ⟨"/token.json"⟩ (some file') ∧ file.path = file'.path := by
    cases hf with
    | cons ht hf =>
      cases hf with
      | cons ht' _ =>
        simp only [List.map_cons, List.cons.injEq, Option.map_eq_some_iff] at hpaths
        obtain ⟨⟨file, rfl, hpath⟩, ⟨file', rfl, hpath'⟩, -⟩ := hpaths
        exact ⟨file, file', ht, ht', hpath.trans hpath'.symm⟩
  have hm : ∀ p ∈ g.config.allFiles, ∃ module, g.Transformed t p (some module) :=
    List.forall_mem_cons.mpr ⟨⟨file, ht⟩, List.forall_mem_singleton.mpr ⟨file', ht'⟩⟩
  have hclash : g.Clash t ⟨"/Token.json"⟩ ⟨"/token.json"⟩ := by
    obtain ⟨c, hc, rfl⟩ := transformed_some_iff.mp ht
    obtain ⟨d, hd, rfl⟩ := transformed_some_iff.mp ht'
    have hsame : modulePath g.outDirPath c = modulePath g.outDirPath d := hpath
    refine Or.inr ⟨c, d, hc, hd, (same_modulePath_iff hc hd).mp ?_⟩
    rw [hsame]
    exact Path.same_refl _
  refine ⟨g, t, hg, rfl, hm, fun f => ?_⟩
  obtain ⟨hfail, hdup, -⟩ := generate_outputs hg (fun p hp => (hm p hp).imp' some fun _ h => h) f
  obtain ⟨e, he⟩ := hfail.mpr ⟨_, _, List.Sublist.refl _, hclash⟩
  obtain ⟨p, rfl⟩ := hdup e he
  exact ⟨p, he⟩

end Generator

end ContractTypings
