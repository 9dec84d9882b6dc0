import ContractTypings.Proofs.ArtifactLayout
import ContractTypings.Proofs.ModuleGraph
import Mathlib.Data.List.Forall2
import Mathlib.Data.List.ReduceOption

namespace ContractTypings.Generator

/-- The generators that come from configurations while the files stay as they are. Every builder
starts anew from a configuration, except the one for formatting. -/
inductive MadeOn (t : FileTree) : Generator → Prop
  | ofConfig (c : Config) : MadeOn t (ofConfig c)
  | setPrettier {g : Generator} (on : Bool) (h : MadeOn t g) : MadeOn t (g.setPrettier on)
  | remember {g : Generator} (h : MadeOn t g) : MadeOn t (g.remember t)

theorem MadeOn.layout_eq {t : FileTree} {g : Generator} (h : MadeOn t g) :
    g.layout t = g.config.layout t := by
  induction h with
  | ofConfig c => rfl
  | setPrettier on _ ih => exact ih
  | remember _ ih => exact ih

def Transformed (g : Generator) (t : FileTree) (p : Path) (o : Option GeneratedFile) : Prop :=
  ∃ contents, t.readText (g.config.resolve t p) = .ok contents ∧ g.transform t p contents = .ok o

def outcome (g : Generator) (t : FileTree) (before : List Path) (p : Path) :
    Except Failure (Option GeneratedFile) :=
  if before.any fun q => (g.config.resolve t q).same (g.config.resolve t p) then
    .error (.duplicateOutput (g.config.resolve t p))
  else
    match t.readText (g.config.resolve t p) with
    | .error cause => .error (.io (g.config.resolve t p) cause)
    | .ok contents => g.transform t p contents

inductive Accepts (g : Generator) (t : FileTree) :
    List Path → List Path → List (Option GeneratedFile) → Prop
  | nil {before : List Path} : Accepts g t before [] []
  | cons {before ps : List Path} {p : Path} {o : Option GeneratedFile}
      {os : List (Option GeneratedFile)} (ho : g.outcome t before p = .ok o)
      (h : Accepts g t (before ++ [p]) ps os) : Accepts g t before (p :: ps) (o :: os)

inductive Fails (g : Generator) (t : FileTree) : List Path → List Path → Failure → Prop
  | here {before ps : List Path} {p : Path} {e : Failure} (ho : g.outcome t before p = .error e) :
      Fails g t before (p :: ps) e
  | later {before ps : List Path} {p : Path} {o : Option GeneratedFile} {e : Failure}
      (ho : g.outcome t before p = .ok o) (h : Fails g t (before ++ [p]) ps e) :
      Fails g t before (p :: ps) e

def HasRead (g : Generator) (t : FileTree) (seen before : List Path) : Prop :=
  ∀ r : Path, seen.any (·.same r) = before.any fun q => (g.config.resolve t q).same r

section Modules

variable {g : Generator} {t : FileTree} {before ps seen : List Path} {p : Path}

theorem outcome_eq_ok_iff {o : Option GeneratedFile} : g.outcome t before p = .ok o ↔
    (∀ q ∈ before, (g.config.resolve t q).same (g.config.resolve t p) = false) ∧
      g.Transformed t p o := by
  unfold outcome Transformed
  split
  next h =>
    obtain ⟨q, hq, hs⟩ := List.any_eq_true.mp h
    constructor
    · intro h
      cases h
    · rintro ⟨hn, -⟩
      rw [hn q hq] at hs
      cases hs
  next h =>
    have hn : ∀ q ∈ before, (g.config.resolve t q).same (g.config.resolve t p) = false := by
      simpa using h
    cases t.readText (g.config.resolve t p) with
    | error cause => simp
    | ok contents =>
      constructor
      · intro h
        exact ⟨hn, contents, rfl, h⟩
      · rintro ⟨-, _, hc, h⟩
        cases hc
        exact h

theorem moduleOf_eq_outcome (hg : MadeOn t g) (hp : p ∈ g.config.allFiles)
    (hs : HasRead g t seen before) : g.moduleOf t seen p = g.outcome t before p := by
  obtain ⟨e, -, -, he⟩ := Config.exists_get?_layout (t := t) hp
  have hl : (g.layout t).get? (g.config.resolve t p) = some e.2 := by
    rw [hg.layout_eq]
    exact he
  have ht : ∀ contents, g.transform t p contents = transformAt g.outDirPath p e.2 contents := by
    intro contents
    rw [transform, placeOf, hl]
  cases hr : t.readText (g.config.resolve t p) with
  | error cause => simp only [moduleOf, outcome, hl, hs _, hr]
  | ok contents => simp only [moduleOf, outcome, hl, hs _, hr, ht]

theorem HasRead.nil (g : Generator) (t : FileTree) : HasRead g t [] [] := by
  intro r
  rw [List.any_nil, List.any_nil]

theorem HasRead.cons (hs : HasRead g t seen before) (p : Path) :
    HasRead g t (g.config.resolve t p :: seen) (before ++ [p]) := by
  intro r
  rw [List.any_cons, hs, List.any_append, List.any_cons, List.any_nil, Bool.or_false, Bool.or_comm]

theorem reduceOption_cons {α : Type} (o : Option α) (os : List (Option α)) :
    (o :: os).reduceOption = o.toList ++ os.reduceOption := by
  cases o <;> rfl

theorem modules_of_accepts (hg : MadeOn t g) {os : List (Option GeneratedFile)}
    (ha : Accepts g t before ps os) (hp : ∀ p ∈ ps, p ∈ g.config.allFiles)
    (hs : HasRead g t seen before) : g.modules t seen ps = .ok os.reduceOption := by
  induction ha generalizing seen with
  | nil => rfl
  | cons ho _ ih =>
    obtain ⟨hp, hps⟩ := List.forall_mem_cons.mp hp
    rw [modules, moduleOf_eq_outcome hg hp hs, ho, ih hps (hs.cons _), reduceOption_cons]
    rfl

theorem modules_of_fails (hg : MadeOn t g) {e : Failure} (hf : Fails g t before ps e)
    (hp : ∀ p ∈ ps, p ∈ g.config.allFiles) (hs : HasRead g t seen before) :
    g.modules t seen ps = .error e := by
  induction hf generalizing seen with
  | here ho =>
    obtain ⟨hp, -⟩ := List.forall_mem_cons.mp hp
    rw [modules, moduleOf_eq_outcome hg hp hs, ho]
    rfl
  | later ho _ ih =>
    obtain ⟨hp, hps⟩ := List.forall_mem_cons.mp hp
    rw [modules, moduleOf_eq_outcome hg hp hs, ho, ih hps (hs.cons _)]
    rfl

theorem accepts_or_fails (g : Generator) (t : FileTree) (before ps : List Path) :
    (∃ os, Accepts g t before ps os) ∨ ∃ e, Fails g t before ps e := by
  induction ps generalizing before with
  | nil => exact Or.inl ⟨[], Accepts.nil⟩
  | cons p ps ih =>
    cases ho : g.outcome t before p with
    | error e => exact Or.inr ⟨e, Fails.here ho⟩
    | ok o =>
      rcases ih (before ++ [p]) with ⟨os, h⟩ | ⟨e, h⟩
      · exact Or.inl ⟨o :: os, Accepts.cons ho h⟩
      · exact Or.inr ⟨e, Fails.later ho h⟩

theorem modules_eq_ok_iff (hg : MadeOn t g) {ms : List GeneratedFile} :
    g.modules t [] g.config.allFiles = .ok ms ↔
      ∃ os, Accepts g t [] g.config.allFiles os ∧ ms = os.reduceOption := by
  constructor
  · intro h
    rcases accepts_or_fails g t [] g.config.allFiles with ⟨os, ha⟩ | ⟨e, hf⟩
    · rw [modules_of_accepts hg ha (fun _ => id) (HasRead.nil g t)] at h
      cases h
      exact ⟨os, ha, rfl⟩
    · rw [modules_of_fails hg hf (fun _ => id) (HasRead.nil g t)] at h
      cases h
  · rintro ⟨os, ha, rfl⟩
    exact modules_of_accepts hg ha (fun _ => id) (HasRead.nil g t)

theorem modules_eq_error_iff (hg : MadeOn t g) {e : Failure} :
    g.modules t [] g.config.allFiles = .error e ↔ Fails g t [] g.config.allFiles e := by
  constructor
  · intro h
    rcases accepts_or_fails g t [] g.config.allFiles with ⟨os, ha⟩ | ⟨e, hf⟩
    · rw [modules_of_accepts hg ha (fun _ => id) (HasRead.nil g t)] at h
      cases h
    · rw [modules_of_fails hg hf (fun _ => id) (HasRead.nil g t)] at h
      cases h
      exact hf
  · intro hf
    exact modules_of_fails hg hf (fun _ => id) (HasRead.nil g t)

theorem accepts_iff {os : List (Option GeneratedFile)} : Accepts g t before ps os ↔
    List.Forall₂ (g.Transformed t) ps os ∧
      (ps.map (g.config.resolve t)).Pairwise (fun q r => q.same r = false) ∧
      ∀ q ∈ before, ∀ p ∈ ps, (g.config.resolve t q).same (g.config.resolve t p) = false := by
  constructor
  · intro h
    induction h with
    | nil => exact ⟨List.Forall₂.nil, List.Pairwise.nil, by simp⟩
    | @cons before ps p o os ho _ ih =>
      obtain ⟨hn, ht⟩ := outcome_eq_ok_iff.mp ho
      obtain ⟨hf, hd, hb⟩ := ih
      refine ⟨List.Forall₂.cons ht hf, List.pairwise_cons.mpr ⟨?_, hd⟩, ?_⟩
      · intro r hr
        obtain ⟨q, hq, rfl⟩ := List.mem_map.mp hr
        exact hb p (List.mem_append_right before List.mem_cons_self) q hq
      · intro q hq r hr
        rcases List.mem_cons.mp hr with rfl | hr
        · exact hn q hq
        · exact hb q (List.mem_append_left _ hq) r hr
  · rintro ⟨hf, hd, hb⟩
    induction hf generalizing before with
    | nil => exact Accepts.nil
    | @cons p o ps os ht _ ih =>
      obtain ⟨hp, hd⟩ := List.pairwise_cons.mp hd
      apply Accepts.cons
      · apply outcome_eq_ok_iff.mpr
        exact ⟨fun q hq => hb q hq p List.mem_cons_self, ht⟩
      · apply ih hd
        intro q hq r hr
        rcases List.mem_append.mp hq with hq | hq
        · exact hb q hq r (List.mem_cons_of_mem p hr)
        · obtain rfl := List.mem_singleton.mp hq
          exact hp _ (List.mem_map_of_mem hr)

theorem fails_iff {e : Failure} : Fails g t before ps e ↔
    ∃ qs p rest, ps = qs ++ p :: rest ∧
      (∀ as q bs, qs = as ++ q :: bs → ∃ o, g.outcome t (before ++ as) q = .ok o) ∧
      g.outcome t (before ++ qs) p = .error e := by
  constructor
  · intro h
    induction h with
    | @here before ps p e ho => exact ⟨[], p, ps, rfl, by simp, by rwa [List.append_nil]⟩
    | @later before ps p o e ho _ ih =>
      obtain ⟨qs, r, rest, rfl, hq, hr⟩ := ih
      refine ⟨p :: qs, r, rest, rfl, ?_, by simpa using hr⟩
      intro as q bs has
      cases as with
      | nil =>
        obtain ⟨rfl, -⟩ := List.cons.inj has
        exact ⟨o, by rwa [List.append_nil]⟩
      | cons a as =>
        obtain ⟨rfl, hqs⟩ := List.cons.inj has
        simpa using hq as q bs hqs
  · rintro ⟨qs, p, rest, rfl, hq, hp⟩
    induction qs generalizing before with
    | nil =>
      rw [List.append_nil] at hp
      exact Fails.here hp
    | cons q qs ih =>
      obtain ⟨o, ho⟩ := hq [] q qs rfl
      rw [List.append_nil] at ho
      apply Fails.later ho
      apply ih
      · intro as r bs has
        simpa using hq (q :: as) r bs (congrArg _ has)
      · simpa using hp

end Modules

theorem repeatedPath?_eq_none_iff {seen ps : List Path} : repeatedPath? seen ps = none ↔
    (∀ q ∈ seen, ∀ p ∈ ps, q.same p = false) ∧ ps.Pairwise fun q p => q.same p = false := by
  induction ps generalizing seen with
  | nil => simp [repeatedPath?]
  | cons p ps ih =>
    rw [repeatedPath?, List.pairwise_cons]
    split
    next h =>
      obtain ⟨q, hq, hs⟩ := List.any_eq_true.mp h
      constructor
      · intro h
        cases h
      · rintro ⟨hn, -⟩
        rw [hn q hq p List.mem_cons_self] at hs
        cases hs
    next h =>
      have hn : ∀ q ∈ seen, q.same p = false := by simpa using h
      rw [ih, List.forall_mem_cons]
      constructor
      · rintro ⟨⟨hp, hs⟩, hd⟩
        refine ⟨?_, hp, hd⟩
        intro q hq r hr
        rcases List.mem_cons.mp hr with rfl | hr
        · exact hn q hq
        · exact hs q hq r hr
      · rintro ⟨hs, hp, hd⟩
        exact ⟨⟨hp, fun q hq r hr => hs q hq r (List.mem_cons_of_mem p hr)⟩, hd⟩

theorem generate_eq_files {g : Generator} (hp : g.config.prettier = false) (t : FileTree)
    (f : Formatter) : g.generate t f = g.files t := by
  rw [generate, hp]
  cases g.files t <;> rfl

theorem files_of_modules_error {g : Generator} {t : FileTree} {e : Failure}
    (h : g.modules t [] g.config.allFiles = .error e) : g.files t = .error e := by
  rw [files, h]
  rfl

theorem files_of_modules_ok {g : Generator} {t : FileTree} {ms : List GeneratedFile}
    (h : g.modules t [] g.config.allFiles = .ok ms) : g.files t =
      match repeatedPath? [] ((ms ++ g.finish ms).map (·.path)) with
      | some p => .error (.duplicateOutput p)
      | none => .ok (ms ++ g.finish ms) := by
  rw [files, h]
  rfl

theorem files_eq_ok_iff {g : Generator} {t : FileTree} (hg : MadeOn t g)
    {fs : List GeneratedFile} : g.files t = .ok fs ↔
      ∃ os, Accepts g t [] g.config.allFiles os ∧
        fs = os.reduceOption ++ g.finish os.reduceOption ∧
        repeatedPath? [] (fs.map (·.path)) = none := by
  constructor
  · intro h
    rcases accepts_or_fails g t [] g.config.allFiles with ⟨os, ha⟩ | ⟨e, hf⟩
    · rw [files_of_modules_ok ((modules_eq_ok_iff hg).mpr ⟨os, ha, rfl⟩)] at h
      split at h
      · cases h
      next hr =>
        cases h
        exact ⟨os, ha, rfl, hr⟩
    · rw [files_of_modules_error ((modules_eq_error_iff hg).mpr hf)] at h
      cases h
  · rintro ⟨os, ha, rfl, hr⟩
    rw [files_of_modules_ok ((modules_eq_ok_iff hg).mpr ⟨os, ha, rfl⟩), hr]

theorem files_eq_error_iff {g : Generator} {t : FileTree} (hg : MadeOn t g) {e : Failure} :
    g.files t = .error e ↔ Fails g t [] g.config.allFiles e ∨
      ∃ os p, Accepts g t [] g.config.allFiles os ∧
        repeatedPath? [] ((os.reduceOption ++ g.finish os.reduceOption).map (·.path)) = some p ∧
        e = .duplicateOutput p := by
  constructor
  · intro h
    rcases accepts_or_fails g t [] g.config.allFiles with ⟨os, ha⟩ | ⟨e', hf⟩
    · rw [files_of_modules_ok ((modules_eq_ok_iff hg).mpr ⟨os, ha, rfl⟩)] at h
      split at h
      next p hr =>
        cases h
        exact Or.inr ⟨os, p, ha, hr, rfl⟩
      · cases h
    · rw [files_of_modules_error ((modules_eq_error_iff hg).mpr hf)] at h
      cases h
      exact Or.inl hf
  · rintro (hf | ⟨os, p, ha, hr, rfl⟩)
    · exact files_of_modules_error ((modules_eq_error_iff hg).mpr hf)
    · rw [files_of_modules_ok ((modules_eq_ok_iff hg).mpr ⟨os, ha, rfl⟩), hr]

section Listed

variable {g : Generator} {t : FileTree} {texts : List (Place × String)} {root : Path}

theorem transform_of_lists (hg : MadeOn t g) (h : g.config.Lists t texts)
    (hroot : g.config.inputRoot t g.config.allFiles = root) {p : Path}
    (hp : p ∈ g.config.allFiles) (contents : String) : g.transform t p contents =
      transformAt g.outDirPath p ((shortenAmong g.config.allFiles p).relativeTo root) contents := by
  have hget := h.get?_layout hp
  rw [hroot] at hget
  rw [transform, placeOf, hg.layout_eq, h.resolve hp, hget]

def resultOf (c : Config) (root : Path) (e : Place × String) :
    Except Failure (Option GeneratedFile) :=
  let p := FileTree.absolutePath e.1
  transformAt c.outDirPath p ((shortenAmong c.allFiles p).relativeTo root) e.2

theorem exists_transformed_of_lists (hg : MadeOn t g) (h : g.config.Lists t texts)
    (hroot : g.config.inputRoot t g.config.allFiles = root) {paths : List (Option Path)}
    (hpaths : (texts.map fun e => (resultOf g.config root e).toOption.map (Option.map (·.path))) =
      paths.map some) :
    ∃ os, List.Forall₂ (g.Transformed t) g.config.allFiles os ∧
      os.map (Option.map (·.path)) = paths := by
  have hok : ∀ e ∈ texts, ∃ o, resultOf g.config root e = .ok o := by
    intro e he
    have hm := List.mem_map_of_mem
      (f := fun e => (resultOf g.config root e).toOption.map (Option.map (·.path))) he
    rw [hpaths] at hm
    obtain ⟨path, -, hpath⟩ := List.mem_map.mp hm
    cases hr : resultOf g.config root e with
    | ok o => exact ⟨o, rfl⟩
    | error failure =>
      rw [hr] at hpath
      cases hpath
  refine ⟨texts.map fun e => (resultOf g.config root e).toOption.join, ?_, ?_⟩
  · rw [h.allFiles, List.forall₂_map_left_iff, List.forall₂_map_right_iff, List.forall₂_same]
    intro e he
    have hp : FileTree.absolutePath e.1 ∈ g.config.allFiles := by
      rw [h.allFiles]
      exact List.mem_map_of_mem he
    obtain ⟨o, ho⟩ := hok e he
    refine ⟨e.2, ?_, ?_⟩
    · rw [h.resolve hp]
      exact (h.hasFile e he).readText
    · rw [transform_of_lists hg h hroot hp]
      exact ho.trans (by rw [ho]; rfl)
  · apply List.map_injective_iff.mpr (Option.some_injective _)
    rw [← hpaths, List.map_map, List.map_map]
    apply List.map_congr_left
    intro e he
    obtain ⟨o, ho⟩ := hok e he
    simp [ho, Except.toOption]

end Listed

/-- A run without formatting gives what its artifacts are transformed to, in order, and then the
files that depend on these. It fails for the first artifact that repeats another, cannot be read or
cannot be transformed; or, if there is none, because two of its files have one path. -/
theorem generate_eq_phases {g : Generator} {t : FileTree} (hg : MadeOn t g)
    (hp : g.config.prettier = false) (f : Formatter) :
    (∀ files, g.generate t f = .ok files ↔ ∃ os : List (Option GeneratedFile),
      List.Forall₂ (g.Transformed t) g.config.allFiles os ∧
      (g.config.allFiles.map (g.config.resolve t)).Pairwise (fun q r => q.same r = false) ∧
      files = os.reduceOption ++ g.finish os.reduceOption ∧
      (files.map (·.path)).Pairwise fun q r => q.same r = false) ∧
    ∀ e, g.generate t f = .error e ↔
      (∃ before p rest, g.config.allFiles = before ++ p :: rest ∧
        (∀ as q bs, before = as ++ q :: bs → ∃ o, g.outcome t as q = .ok o) ∧
        g.outcome t before p = .error e) ∨
      ∃ (os : List (Option GeneratedFile)) (p : Path),
        List.Forall₂ (g.Transformed t) g.config.allFiles os ∧
        (g.config.allFiles.map (g.config.resolve t)).Pairwise (fun q r => q.same r = false) ∧
        repeatedPath? [] ((os.reduceOption ++ g.finish os.reduceOption).map (·.path)) = some p ∧
        e = .duplicateOutput p := by
  have ha : ∀ os, Accepts g t [] g.config.allFiles os ↔
      List.Forall₂ (g.Transformed t) g.config.allFiles os ∧
        (g.config.allFiles.map (g.config.resolve t)).Pairwise (fun q r => q.same r = false) := by
    intro os
    rw [accepts_iff]
    simp
  have hf : ∀ e, Fails g t [] g.config.allFiles e ↔
      ∃ before p rest, g.config.allFiles = before ++ p :: rest ∧
        (∀ as q bs, before = as ++ q :: bs → ∃ o, g.outcome t as q = .ok o) ∧
        g.outcome t before p = .error e := by
    intro e
    rw [fails_iff]
    simp only [List.nil_append]
  have hd : ∀ ps : List Path, repeatedPath? [] ps = none ↔
      ps.Pairwise fun q r => q.same r = false := by
    intro ps
    rw [repeatedPath?_eq_none_iff]
    simp
  rw [generate_eq_files hp]
  constructor
  · intro files
    rw [files_eq_ok_iff hg]
    simp only [ha, hd, and_assoc]
  · intro e
    rw [files_eq_error_iff hg, hf]
    simp only [ha, and_assoc]

theorem generate_eq_phases_skipping : ∃ (g : Generator) (t : FileTree), MadeOn t g ∧
    g.config.prettier = false ∧
    g.config.allFiles = [⟨"/vaults/Vault.json"⟩, ⟨"/Library.json"⟩, ⟨"/Token.json"⟩] ∧
    g.Transformed t ⟨"/Library.json"⟩ none ∧
    ∀ f, ∃ files, g.generate t f = .ok files ∧ files.map (·.path) = [⟨"out/vaults/Vault.ts"⟩,
      ⟨"out/Token.ts"⟩, ⟨"out/types.ts"⟩, ⟨"out/index.ts"⟩, ⟨"out/vaults/index.ts"⟩] := by
  let text := "[\x7b\"type\": \"fallback\"\x7d]"
  let t : FileTree := ⟨[], [(["vaults"], .directory), (["Token.json"], .file text.toUTF8),
    (["vaults", "Vault.json"], .file text.toUTF8), (["Library.json"], .file "\x7b\x7d".toUTF8)]⟩
  let g := ofConfig { outDir := some ⟨"out"⟩, allFiles :=
    [⟨"/vaults/Vault.json"⟩, ⟨"/Library.json"⟩, ⟨"/Token.json"⟩] }
  have hg : MadeOn t g := MadeOn.ofConfig _
  have hlists : g.config.Lists t [(["vaults", "Vault.json"], text),
      (["Library.json"], "\x7b\x7d"), (["Token.json"], text)] := by
    refine ⟨by decide, by decide, ?_⟩
    simp only [List.forall_mem_cons, List.not_mem_nil, false_imp_iff, implies_true, and_true]
    exact ⟨.of_directory (by decide) rfl rfl, .of_root (by decide) rfl, .of_root (by decide) rfl⟩
  obtain ⟨os, hf, hpaths⟩ := exists_transformed_of_lists hg hlists rfl (by decide +kernel :
    _ = [some ⟨"out/vaults/Vault.ts"⟩, none, some ⟨"out/Token.ts"⟩].map some)
  have hfiles : (os.reduceOption ++ g.finish os.reduceOption).map (·.path) =
      [⟨"out/vaults/Vault.ts"⟩, ⟨"out/Token.ts"⟩, ⟨"out/types.ts"⟩, ⟨"out/index.ts"⟩,
        ⟨"out/vaults/index.ts"⟩] := by
    have hmodules : os.reduceOption.map (·.path) =
        [⟨"out/vaults/Vault.ts"⟩, ⟨"out/Token.ts"⟩] := by
      rw [← List.reduceOption_map, hpaths]
      rfl
    rw [List.map_append, paths_finish, placesOf_eq, hmodules]
    decide +kernel
  have hskip : g.Transformed t ⟨"/Library.json"⟩ none := by
    cases hf with
    | cons _ hf =>
      cases hf with
      | cons hskip _ =>
        simp only [List.map_cons, List.cons.injEq, Option.map_eq_none_iff] at hpaths
        obtain ⟨-, rfl, -⟩ := hpaths
        exact hskip
  refine ⟨g, t, hg, rfl, rfl, hskip, fun f => ⟨_, ?_, hfiles⟩⟩
  apply ((generate_eq_phases hg rfl f).1 _).mpr
  refine ⟨os, hf, ?_, rfl, ?_⟩
  · rw [List.map_congr_left fun p hp => hlists.resolve hp, List.map_id']
    exact hlists.pairwise
  · rw [hfiles]
    decide

end ContractTypings.Generator
