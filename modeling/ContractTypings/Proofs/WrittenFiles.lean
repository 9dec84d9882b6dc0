import ContractTypings.Generator.Bindings
import ContractTypings.Proofs.BarrelNames
import ContractTypings.Proofs.MadeDirectories

namespace ContractTypings

open ContractTypings.Path

namespace FileTree

structure SameAs (t t' : FileTree) : Prop where
  cwd : t.cwd = t'.cwd
  get? : ∀ place, t.get? place = t'.get? place

def Holds (t : FileTree) (p : Path) (bytes : ByteArray) : Prop :=
  ∃ place, t.locate true p = .ok (.found place (.file bytes))

def IsMissing (t : FileTree) (p : Path) : Prop :=
  t.locate true p = .error .notFound ∨ ∃ d n slashes, t.locate true p = .ok (.missing d n slashes)

variable {t t' t'' : FileTree} {p : Path} {bytes : ByteArray}

theorem readBytes_eq_ok_iff : t.readBytes p = .ok bytes ↔ t.Holds p bytes := by
  unfold readBytes Holds
  split
  next cause h => simp [h]
  next place bytes' h => simp [h]
  next place e hne h =>
    simp only [h, Except.ok.injEq, Target.found.injEq, reduceCtorEq, false_iff, not_exists]
    rintro place' ⟨rfl, rfl⟩
    exact hne _ rfl
  next d n slashes h => simp [h]

theorem readBytes_eq_notFound_iff : t.readBytes p = .error .notFound ↔ t.IsMissing p := by
  unfold readBytes IsMissing
  split
  next cause h => simp [h]
  next place bytes' h => simp [h]
  next place e hne h => simp [h]
  next d n slashes h => simp [h]

theorem isMissing_absolutePath {place : Place} (ht : t.IsLinkless) (hf : Fits place)
    (hfree : ∀ d, d <+: place → t.IsFree d) (hne : t.get? place ≠ some .directory) :
    t.IsMissing (absolutePath place) := by
  have hlocate : t.locate true (absolutePath place) =
      t.walk true maxLinks [] (place.map String.toList) := by
    rw [locate, hf.refusal, start, if_pos (isAbsolute_absolutePath place), hf.segments]
    exact walk_idle t.get?_root rfl
  rw [IsMissing, hlocate]
  rcases walk_free ht t.get?_root hf.names hfree with hall | h | ⟨d, n, h⟩
  · exact absurd (hall place List.prefix_rfl) hne
  · exact Or.inl h
  · exact Or.inr ⟨d, n, false, h⟩

namespace SameAs

theorem symm (h : t.SameAs t') : t'.SameAs t := ⟨h.cwd.symm, fun place => (h.get? place).symm⟩

theorem trans (h : t.SameAs t') (h' : t'.SameAs t'') : t.SameAs t'' :=
  ⟨h.cwd.trans h'.cwd, fun place => (h.get? place).trans (h'.get? place)⟩

theorem isLinkless (h : t.SameAs t') (ht : t.IsLinkless) : t'.IsLinkless := by
  intro place target
  rw [← h.get?]
  exact ht place target

theorem keeps (h : t.SameAs t') (ht : t.IsLinkless) : Keeps [] t t' := by
  refine ⟨h.cwd.symm, h.isLinkless ht, ?_, ?_⟩
  · intro place hd
    rw [← h.get?]
    exact hd
  · intro place _ e he
    rw [← h.get?]
    exact he

end SameAs

theorem sameAs_put {q : Place} {e : Entry} (hq : q ≠ []) (he : t.get? q = some e) :
    (t.put q e).SameAs t := by
  refine ⟨rfl, ?_⟩
  intro place
  rw [get?_put hq]
  split
  next hp => rw [hp, he]
  · rfl

end FileTree

namespace Bindings

open FileTree

inductive Deviates (t : FileTree) (f : GeneratedFile) : Failure → Prop
  | missing (h : t.IsMissing f.path) : Deviates t f (.inconsistent f.path)
  | different {bytes : ByteArray} (h : t.Holds f.path bytes) (hne : bytes ≠ f.contents.toUTF8) :
      Deviates t f (.inconsistent f.path)
  | unreadable {cause : IoCause} (h : t.readBytes f.path = .error cause) (hne : cause ≠ .notFound) :
      Deviates t f (.io f.path cause)

variable {t t' : FileTree} {f : GeneratedFile} {fs : List GeneratedFile} {failure : Failure}

theorem deviation?_eq_none_iff :
    deviation? t f = none ↔ t.Holds f.path f.contents.toUTF8 := by
  rw [← readBytes_eq_ok_iff]
  unfold deviation?
  split
  next bytes h =>
    rw [h]
    split
    next hb => simp [ByteArray.ext hb]
    next hb =>
      simp only [reduceCtorEq, Except.ok.injEq, false_iff]
      rintro rfl
      exact hb rfl
  next h => simp [h]
  next cause hne h => simp [h]

theorem deviation?_eq_some_iff : deviation? t f = some failure ↔ Deviates t f failure := by
  constructor
  · intro h
    unfold deviation? at h
    split at h
    next bytes hr =>
      split at h
      · cases h
      next hb =>
        cases h
        refine .different (readBytes_eq_ok_iff.mp hr) ?_
        rintro rfl
        exact hb rfl
    next hr =>
      cases h
      exact .missing (readBytes_eq_notFound_iff.mp hr)
    next cause hne hr =>
      cases h
      exact .unreadable hr fun he => hne he
  · intro h
    cases h with
    | missing h => rw [deviation?, readBytes_eq_notFound_iff.mpr h]
    | different h hne =>
      rw [deviation?, readBytes_eq_ok_iff.mpr h]
      exact if_neg fun hd => hne (ByteArray.ext hd)
    | @unreadable cause h hne =>
      rw [deviation?, h]
      cases cause with
      | notFound => exact absurd rfl hne
      | _ => rfl

theorem inconsistency?_eq_none_iff : inconsistency? ⟨fs⟩ t = none ↔
    ∀ f ∈ fs, t.Holds f.path f.contents.toUTF8 := by
  rw [inconsistency?, List.findSome?_eq_none_iff]
  simp only [deviation?_eq_none_iff]

theorem inconsistency?_eq_some_iff : inconsistency? ⟨fs⟩ t = some failure ↔
    ∃ before f after, fs = before ++ f :: after ∧
      (∀ g ∈ before, t.Holds g.path g.contents.toUTF8) ∧ Deviates t f failure := by
  rw [inconsistency?, List.findSome?_eq_some_iff]
  simp only [deviation?_eq_none_iff, deviation?_eq_some_iff]
  grind

structure Written (t : FileTree) (f : GeneratedFile) : Prop where
  file : t.locate true f.path = .ok (.found (f.path.placeFrom t.cwd) (.file f.contents.toUTF8))
  directory : ∀ dir, f.path.parent? = some dir → dir.text = "" ∨ t.isDirectory dir = true

namespace Written

theorem holds (h : Written t f) : t.Holds f.path f.contents.toUTF8 := ⟨_, h.file⟩

theorem keep {written : List Place} (h : Written t f) (ht : t.IsLinkless)
    (hk : Keeps written t t') (hn : f.path.placeFrom t.cwd ∉ written) : Written t' f where
  file := by
    rw [hk.cwd]
    have he := ((locate_eq_found_iff ht).mp h.file).2.2
    exact hk.locate ht h.file (hk.entry _ hn _ he)
  directory := fun dir hd => (h.directory dir hd).imp_right (hk.isDirectory ht)

end Written

theorem keeps_of_makeDirectoryOf (ht : t.IsLinkless) (h : makeDirectoryOf t f = (t', none)) :
    Keeps [] t t' ∧
      ∀ dir, f.path.parent? = some dir → dir.text = "" ∨ t'.isDirectory dir = true := by
  unfold makeDirectoryOf at h
  split at h
  next hp =>
    obtain ⟨rfl, -⟩ := Prod.mk.inj h
    refine ⟨.refl ht, ?_⟩
    intro dir hd
    rw [hp] at hd
    cases hd
  next dir hp =>
    obtain ⟨rfl, hnone⟩ := Prod.mk.inj h
    obtain ⟨hk, hd⟩ := keeps_of_makeDirectories ht
      (Prod.ext rfl (Option.map_eq_none_iff.mp hnone) : t.makeDirectories dir = (_, none))
    refine ⟨hk, ?_⟩
    intro dir' hp'
    obtain rfl := Option.some.inj (hp.symm.trans hp')
    exact hd

theorem makeDirectoryOf_of_isDirectory (ht : t.IsLinkless)
    (h : ∀ dir, f.path.parent? = some dir → dir.text = "" ∨ t.isDirectory dir = true) :
    makeDirectoryOf t f = (t, none) := by
  unfold makeDirectoryOf
  split
  · rfl
  next dir hp =>
    rw [makeDirectories_of_isDirectory ht (h dir hp)]
    rfl

theorem keeps_of_writeFile (ht : t.IsLinkless) (h : writeFile t f = (t', none)) :
    Keeps [f.path.placeFrom t.cwd] t t' ∧ Written t' f := by
  unfold writeFile at h
  split at h
  · cases (Prod.mk.inj h).2
  next t₁ hmake =>
    obtain ⟨hk, hd⟩ := keeps_of_makeDirectoryOf ht hmake
    split at h
    next t₂ hwrite =>
      obtain ⟨rfl, -⟩ := Prod.mk.inj h
      obtain ⟨hk', hl⟩ := keeps_of_writeBytes hk.linkless hwrite
      rw [hk.cwd] at hk' hl
      refine ⟨hk.trans hk', ?_, ?_⟩
      · rw [hk'.cwd, hk.cwd]
        exact hl
      · exact fun dir hp => (hd dir hp).imp_right (hk'.isDirectory hk.linkless)
    · cases (Prod.mk.inj h).2

theorem writeFile_of_found {place : Place} {bytes : ByteArray} (ht : t.IsLinkless)
    (hd : ∀ dir, f.path.parent? = some dir → dir.text = "" ∨ t.isDirectory dir = true)
    (hl : t.locate true f.path = .ok (.found place (.file bytes))) :
    writeFile t f = (t.put place (.file f.contents.toUTF8), none) := by
  rw [writeFile, makeDirectoryOf_of_isDirectory ht hd]
  simp only [writeBytes, hl]

theorem keeps_of_writeAll (ht : t.IsLinkless)
    (hp : (fs.map fun f => f.path.placeFrom t.cwd).Nodup) (h : writeAll t fs = (t', none)) :
    Keeps (fs.map fun f => f.path.placeFrom t.cwd) t t' ∧ ∀ f ∈ fs, Written t' f := by
  induction fs generalizing t with
  | nil =>
    obtain ⟨rfl, -⟩ := Prod.mk.inj h
    exact ⟨.refl ht, List.forall_mem_nil _⟩
  | cons f fs ih =>
    rw [writeAll] at h
    split at h
    next t₁ hwrite =>
      obtain ⟨hk, hw⟩ := keeps_of_writeFile ht hwrite
      obtain ⟨hn, hp⟩ := List.nodup_cons.mp hp
      rw [← hk.cwd] at hn hp
      obtain ⟨hk', hws⟩ := ih hk.linkless hp h
      refine ⟨?_, List.forall_mem_cons.mpr ⟨hw.keep hk.linkless hk' hn, hws⟩⟩
      rw [hk.cwd] at hk'
      exact hk.trans hk'
    next hstopped => exact absurd h (hstopped t')

theorem exists_writeFile {place : Place} {s : String} (ht : t.IsLinkless)
    (hp : f.path = absolutePath (place ++ [s])) (hf : Fits (place ++ [s]))
    (hfree : ∀ d, d <+: place → t.IsFree d) (hne : t.get? (place ++ [s]) ≠ some .directory) :
    ∃ t', writeFile t f = (t', none) ∧ t'.IsLinkless ∧
      ∀ q, t'.get? q = t.get? q ∨ (q <+: place ∧ t'.get? q = some .directory) ∨
        q = place ++ [s] ∧ t'.get? q ≠ some .directory := by
  obtain ⟨t₁, hmake, hmade⟩ := exists_makeDirectories ht (fun h => hf.of_append h) hfree
  have hne₁ : t₁.get? (place ++ [s]) ≠ some .directory := by
    rcases hmade.get? (place ++ [s]) with he | ⟨hlong, -⟩
    · rwa [he]
    · exact absurd hlong.length_le (by simp)
  have hdirectory : makeDirectoryOf t f = (t₁, none) := by
    simp only [makeDirectoryOf, hp, parent?_absolutePath fun x hx => (hf.names x hx).1, hmake]
    rfl
  have hwrite : writeFile t f = (t₁.put (place ++ [s]) (.file f.contents.toUTF8), none) := by
    simp only [writeFile, hdirectory, hp,
      writeBytes_absolutePath hmade.linkless hf hmade.directory hne₁]
  refine ⟨_, hwrite, (keeps_of_writeFile ht hwrite).1.linkless, fun q => ?_⟩
  rw [get?_put (by simp)]
  split
  next he => exact Or.inr (Or.inr ⟨he, by simp⟩)
  next => exact (hmade.get? q).imp_right Or.inl

/-- There is room for files at some places: nothing is in the way of one of them or of the
directories that it needs, and none of them is in the way of another. -/
structure HasRoom (t : FileTree) (places : List Place) : Prop where
  fits : ∀ p ∈ places, Fits p
  free : ∀ p ∈ places, ∀ d, d <+: p.dropLast → t.IsFree d
  file : ∀ p ∈ places, t.get? p ≠ some .directory
  apart : ∀ p ∈ places, ∀ q ∈ places, ¬ p <+: q.dropLast

theorem HasRoom.tail {places : List Place} {place : Place} {s : String}
    (h : HasRoom t ((place ++ [s]) :: places))
    (hget : ∀ q, t'.get? q = t.get? q ∨ (q <+: place ∧ t'.get? q = some .directory) ∨
      q = place ++ [s] ∧ t'.get? q ≠ some .directory) : HasRoom t' places := by
  have hmem : place ++ [s] ∈ (place ++ [s]) :: places := List.mem_cons_self
  refine ⟨fun q hq => h.fits q (List.mem_cons_of_mem _ hq), ?_, ?_,
    fun q hq r hr => h.apart q (List.mem_cons_of_mem _ hq) r (List.mem_cons_of_mem _ hr)⟩
  · intro q hq d hd
    have hq := List.mem_cons_of_mem (place ++ [s]) hq
    rcases hget d with he | ⟨-, he⟩ | ⟨rfl, -⟩
    · rw [IsFree, he]
      exact h.free q hq d hd
    · exact Or.inr he
    · exact absurd hd (h.apart _ hmem q hq)
  · intro q hq
    have hq := List.mem_cons_of_mem (place ++ [s]) hq
    rcases hget q with he | ⟨hd, -⟩ | ⟨-, hne⟩
    · rw [he]
      exact h.file q hq
    · -- a place for a file is no directory of another one
      apply absurd _ (h.apart q hq _ hmem)
      rwa [List.dropLast_concat]
    · exact hne

theorem exists_writeAll {places : List Place} (ht : t.IsLinkless)
    (hp : fs.map (·.path) = places.map absolutePath) (h : HasRoom t places) :
    ∃ t', writeAll t fs = (t', none) := by
  induction fs generalizing t places with
  | nil => exact ⟨t, rfl⟩
  | cons f fs ih =>
    obtain ⟨p, places, rfl, hpath, hpaths⟩ := List.map_eq_cons_iff.mp hp.symm
    have hmem : p ∈ p :: places := List.mem_cons_self
    obtain ⟨place, s, rfl⟩ := List.eq_nil_or_concat' p |>.resolve_left (h.fits p hmem).ne_nil
    have hfree := h.free _ hmem
    rw [List.dropLast_concat] at hfree
    obtain ⟨t₁, hwrite, ht₁, hget⟩ :=
      exists_writeFile ht hpath.symm (h.fits _ hmem) hfree (h.file _ hmem)
    obtain ⟨t', hall⟩ := ih ht₁ hpaths.symm (h.tail hget)
    refine ⟨t', ?_⟩
    simp only [writeAll, hwrite, hall]

theorem writeAll_of_written (ht : t.IsLinkless) (h : ∀ f ∈ fs, Written t f) :
    ∃ t', writeAll t fs = (t', none) ∧ t'.SameAs t := by
  induction fs generalizing t with
  | nil => exact ⟨t, rfl, rfl, fun _ => rfl⟩
  | cons f fs ih =>
    obtain ⟨hf, hfs⟩ := List.forall_mem_cons.mp h
    have hwrite := writeFile_of_found ht hf.directory hf.file
    obtain ⟨-, -, he⟩ := (locate_eq_found_iff ht).mp hf.file
    have hne : f.path.placeFrom t.cwd ≠ [] := by
      intro hnil
      rw [hnil, t.get?_root] at he
      cases he
    have hsame := sameAs_put hne he
    have hk := hsame.symm.keeps ht
    have hws : ∀ g ∈ fs, Written (t.put _ _) g :=
      fun g hg => (hfs g hg).keep ht hk List.not_mem_nil
    obtain ⟨t', ht', hs⟩ := ih hk.linkless hws
    refine ⟨t', ?_, hs.trans hsame⟩
    rw [writeAll, hwrite]
    exact ht'

end Bindings

theorem Path.foldl_goFrom_names (place : Place) (names : List String) :
    (names.map Component.name).foldl Component.goFrom place = place ++ names := by
  induction names generalizing place with
  | nil => exact (List.append_nil place).symm
  | cons s names ih =>
    rw [List.map_cons, List.foldl_cons, ih, Component.goFrom, List.append_assoc]
    rfl

theorem ModulePlace.placeFrom_file {m : ModulePlace} (h : m.IsPlain) (outDir : Path)
    (cwd : Place) : (m.file outDir).placeFrom cwd =
      outDir.placeFrom cwd ++ (m.directories ++ [m.name ++ ".ts"]) := by
  have hnames : m.directories.map Component.name ++ [.name (m.name ++ ".ts")] =
      (m.directories ++ [m.name ++ ".ts"]).map .name := by
    rw [List.map_append, List.map_singleton]
  rw [placeFrom, components_file h, List.foldl_append, hnames, foldl_goFrom_names]
  rfl

theorem ModulePlace.nodup_placeFrom {places : List ModulePlace} (h : ∀ m ∈ places, m.IsPlain)
    (hn : places.Nodup) (outDir : Path) (cwd : Place) :
    (places.map fun m => (m.file outDir).placeFrom cwd).Nodup := by
  apply hn.map_on
  intro m hm n hn he
  rw [placeFrom_file (h m hm), placeFrom_file (h n hn)] at he
  obtain ⟨hd, hf⟩ := List.append_inj' (List.append_cancel_left he) rfl
  obtain ⟨d, s⟩ := m
  obtain ⟨d', s'⟩ := n
  obtain rfl : d = d' := hd
  obtain rfl : s = s' := (String.append_left_inj _).mp (List.singleton_inj.mp hf)
  rfl

namespace Generator

variable {g : Generator} {t : FileTree} {f : Formatter} {fs ms : List GeneratedFile}

theorem exists_place_of_moduleOf {seen : List Path} {p : Path} {file : GeneratedFile}
    (h : g.moduleOf t seen p = .ok (some file)) :
    ∃ m : ModulePlace, m.IsPlain ∧ file.path = m.file g.outDirPath := by
  unfold moduleOf at h
  dsimp only at h
  split at h
  · cases h
  · split at h
    · cases h
    · split at h
      · cases h
      · obtain ⟨stem, name, hs, hn, hpath⟩ := path_of_transformAt h
        exact ⟨_, isPlain_of_name? hs hn, hpath⟩

theorem exists_place_of_modules {seen ps : List Path} (h : g.modules t seen ps = .ok ms) :
    ∀ file ∈ ms, ∃ m : ModulePlace, m.IsPlain ∧ file.path = m.file g.outDirPath := by
  induction ps generalizing seen ms with
  | nil =>
    obtain rfl := Except.ok.inj h
    exact List.forall_mem_nil _
  | cons p ps ih =>
    rw [modules] at h
    cases hm : g.moduleOf t seen p with
    | error e =>
      rw [hm] at h
      cases h
    | ok module =>
      rw [hm] at h
      cases hr : g.modules t (g.config.resolve t p :: seen) ps with
      | error e =>
        rw [hr] at h
        cases h
      | ok rest =>
        rw [hr] at h
        obtain rfl := Except.ok.inj h
        intro file hf
        rcases List.mem_append.mp hf with hf | hf
        · rw [Option.mem_toList] at hf
          exact exists_place_of_moduleOf (hm.trans (congrArg Except.ok hf))
        · exact ih hr file hf

theorem exists_places (h : g.generate t f = .ok fs) :
    ∃ places : List ModulePlace, (∀ m ∈ places, m.IsPlain) ∧ places.Nodup ∧
      fs.map (·.path) = places.map (·.file g.outDirPath) := by
  obtain ⟨all, hall, rfl⟩ := generate_eq_ok_iff.mp h
  have hpaths : (all.map (g.formatted f)).map (·.path) = all.map (·.path) := by
    rw [List.map_map]
    exact List.map_congr_left fun file _ => path_formatted file
  rw [hpaths]
  cases hms : g.modules t [] g.config.allFiles with
  | error e =>
    rw [files_of_modules_error hms] at hall
    cases hall
  | ok ms =>
    rw [files_of_modules_ok hms] at hall
    split at hall
    · cases hall
    next hr =>
      obtain rfl := Except.ok.inj hall
      obtain ⟨hplain, hmodules⟩ := mem_placesOf (exists_place_of_modules hms)
      have hplaces : ∀ m ∈ g.placesOf ms ++ ModulePlace.around (g.placesOf ms), m.IsPlain := by
        intro m hm
        rcases List.mem_append.mp hm with hm | hm
        · exact hplain m hm
        · exact ModulePlace.isPlain_of_mem_around isName_of_mem_placesOf hm
      have hmap : (ms ++ g.finish ms).map (·.path) =
          (g.placesOf ms ++ ModulePlace.around (g.placesOf ms)).map (·.file g.outDirPath) := by
        rw [List.map_append, hmodules, paths_finish_eq, List.map_append]
      refine ⟨_, hplaces, ?_, hmap⟩
      have hpairwise := (repeatedPath?_eq_none_iff.mp hr).2
      rw [hmap] at hpairwise
      exact (ModulePlace.pairwise_file_iff hplaces).mp hpairwise

theorem nodup_placeFrom (h : g.generate t f = .ok fs) (cwd : Place) :
    (fs.map fun file => file.path.placeFrom cwd).Nodup := by
  obtain ⟨places, hplain, hn, hpaths⟩ := exists_places h
  have hmap : (fs.map fun file => file.path.placeFrom cwd) =
      (fs.map (·.path)).map fun p => p.placeFrom cwd := by
    rw [List.map_map]
    rfl
  rw [hmap, hpaths, List.map_map]
  exact ModulePlace.nodup_placeFrom hplain hn g.outDirPath cwd

open Bindings FileTree

/-- What a run gives can be confirmed once it is written, and written again without any change. And
it can be confirmed just where all files are as they were generated; else the first that is not is
reported, as out of date if it can be read or is not there. -/
theorem write_consistent (h : g.generate t f = .ok fs) :
    (∀ t₁ t₂, t₁.IsLinkless → write ⟨fs⟩ t₁ = (t₂, none) →
      inconsistency? ⟨fs⟩ t₂ = none ∧ ∃ t₃, write ⟨fs⟩ t₂ = (t₃, none) ∧ t₃.SameAs t₂) ∧
    ∀ t₁, (inconsistency? ⟨fs⟩ t₁ = none ↔
        ∀ file ∈ fs, t₁.Holds file.path file.contents.toUTF8) ∧
      ∀ failure, inconsistency? ⟨fs⟩ t₁ = some failure ↔
        ∃ before file after, fs = before ++ file :: after ∧
          (∀ other ∈ before, t₁.Holds other.path other.contents.toUTF8) ∧
          Deviates t₁ file failure := by
  refine ⟨?_, fun t₁ => ⟨inconsistency?_eq_none_iff, fun _ => inconsistency?_eq_some_iff⟩⟩
  intro t₁ t₂ ht hwrite
  obtain ⟨hk, hw⟩ := keeps_of_writeAll ht (nodup_placeFrom h t₁.cwd) hwrite
  exact ⟨inconsistency?_eq_none_iff.mpr fun file hf => (hw file hf).holds,
    writeAll_of_written hk.linkless hw⟩

theorem write_consistent_vaults : ∃ (g : Generator) (t t₁ t₂ : FileTree) (fs : List GeneratedFile),
    g.config.allFiles = [⟨"/tokens/Token.json"⟩, ⟨"/Vault.json"⟩] ∧
    g.generate t Formatter.absent = .ok fs ∧ fs.map (·.path) = [⟨"/out/tokens/Token.ts"⟩,
      ⟨"/out/Vault.ts"⟩, ⟨"/out/types.ts"⟩, ⟨"/out/index.ts"⟩, ⟨"/out/tokens/index.ts"⟩] ∧
    t.IsLinkless ∧ inconsistency? ⟨fs⟩ t = some (.inconsistent ⟨"/out/tokens/Token.ts"⟩) ∧
    write ⟨fs⟩ t = (t₁, none) ∧ inconsistency? ⟨fs⟩ t₁ = none ∧
    write ⟨fs⟩ t₁ = (t₂, none) ∧ t₂.SameAs t₁ := by
  let text := "[\x7b\"type\": \"fallback\"\x7d]"
  let t : FileTree := ⟨[], [(["tokens"], .directory),
    (["tokens", "Token.json"], .file text.toUTF8), (["Vault.json"], .file text.toUTF8)]⟩
  let g := ofConfig
    { outDir := some ⟨"/out"⟩, allFiles := [⟨"/tokens/Token.json"⟩, ⟨"/Vault.json"⟩] }
  have hlists : g.config.Lists t [(["tokens", "Token.json"], text), (["Vault.json"], text)] :=
    ⟨by decide, by decide, List.forall_mem_cons.mpr ⟨.of_directory (by decide) rfl rfl,
      List.forall_mem_singleton.mpr (.of_root (by decide) rfl)⟩⟩
  obtain ⟨ms, hms, -, hok⟩ := exists_run (MadeOn.ofConfig _) rfl hlists rfl (by decide +kernel :
    _ = [some ⟨"/out/tokens/Token.ts"⟩, some ⟨"/out/Vault.ts"⟩].map some) (by decide +kernel)
  have hpaths : (ms ++ g.finish ms).map (·.path) = [⟨"/out/tokens/Token.ts"⟩, ⟨"/out/Vault.ts"⟩,
      ⟨"/out/types.ts"⟩, ⟨"/out/index.ts"⟩, ⟨"/out/tokens/index.ts"⟩] := by
    rw [List.map_append, paths_finish, placesOf_eq, hms]
    decide +kernel
  let places : List Place := [["out", "tokens", "Token.ts"], ["out", "Vault.ts"],
    ["out", "types.ts"], ["out", "index.ts"], ["out", "tokens", "index.ts"]]
  have ht : t.IsLinkless := isLinkless_of_entries (by simp [t])
  have habsent : ∀ rest, t.get? ("out" :: rest) = none := fun rest => rfl
  have hfree : ∀ rest d, d <+: "out" :: rest → t.IsFree d := by
    intro rest d hd
    cases d with
    | nil => exact Or.inr t.get?_root
    | cons s d =>
      obtain ⟨rfl, -⟩ := List.cons_prefix_cons.mp hd
      exact Or.inl (habsent d)
  have hhead : ∀ p ∈ places, ∃ rest, p = "out" :: rest := by
    simp [places]
  have hroom : HasRoom t places := by
    refine ⟨by decide, ?_, ?_, by decide⟩
    · intro p hp d hd
      obtain ⟨rest, rfl⟩ := hhead p hp
      exact hfree rest d (hd.trans (List.dropLast_prefix _))
    · intro p hp
      obtain ⟨rest, rfl⟩ := hhead p hp
      rw [habsent]
      simp
  have hmissing : inconsistency? ⟨ms ++ g.finish ms⟩ t =
      some (.inconsistent ⟨"/out/tokens/Token.ts"⟩) := by
    obtain ⟨file, rest, hfs, hfile, -⟩ := List.map_eq_cons_iff.mp hpaths
    rw [hfs, ← hfile]
    refine inconsistency?_eq_some_iff.mpr ⟨[], file, rest, rfl, List.forall_mem_nil _, .missing ?_⟩
    rw [hfile]
    exact isMissing_absolutePath ht (hroom.fits _ List.mem_cons_self) (hfree _)
      (hroom.file _ List.mem_cons_self)
  obtain ⟨t₁, hwrite⟩ := exists_writeAll ht (hpaths.trans (by decide : _ = places.map _)) hroom
  obtain ⟨hwritten, -⟩ := write_consistent (hok Formatter.absent)
  obtain ⟨hc, t₂, hagain, hsame⟩ := hwritten t t₁ ht hwrite
  exact ⟨g, t, t₁, t₂, _, rfl, hok _, hpaths, ht, hmissing, hwrite, hc, hagain, hsame⟩

end Generator

end ContractTypings
