import ContractTypings.Proofs.LinklessTrees
import Mathlib.Data.List.TakeWhile

namespace ContractTypings.FileTree

open ContractTypings.Path

variable {t t' : FileTree} {p : Path} {q : Place}

theorem eq_append_slashes {ss before : List (List Char)} {last : List Char}
    (h : ss.reverse.dropWhile (· = []) = last :: before) :
    ∃ slashes, (∀ s ∈ slashes, s = []) ∧ ss = before.reverse ++ last :: slashes := by
  refine ⟨(ss.reverse.takeWhile (· = [])).reverse, ?_, ?_⟩
  · intro s hs
    simpa using List.mem_takeWhile_imp (List.mem_reverse.mp hs)
  · have hsplit : ss.reverse.takeWhile (· = []) ++ last :: before = ss.reverse := by
      rw [← h, List.takeWhile_append_dropWhile]
    have hss := congrArg List.reverse hsplit
    rw [List.reverse_append, List.reverse_cons, List.reverse_reverse, List.append_assoc] at hss
    exact hss.symm

theorem makeDirectory_of_isDirectory (ht : t.IsLinkless) (h : t.isDirectory p = true) :
    t.makeDirectory p = .error .alreadyExists := by
  obtain ⟨q, hq⟩ := isDirectory_iff.mp h
  obtain ⟨hr, hleads, he⟩ := (locate_eq_found_iff ht).mp hq
  simp only [makeDirectory, hr]
  split
  · rfl
  next last before hsegments =>
    obtain ⟨slashes, -, hss⟩ := eq_append_slashes hsegments
    rw [hss] at hleads
    obtain ⟨r, hbefore, hlast⟩ := hleads.of_append
    rw [(walk_eq_found_iff ht).mpr ⟨hbefore, hlast.directory⟩]
    simp only [Entry.isDirectory, Bool.not_true, Bool.false_eq_true, ↓reduceIte]
    split_ifs with hidle hlong hsome
    · rfl
    · rw [not_or, Bool.not_eq_true] at hidle
      exact absurd hlong (Nat.not_lt.mpr (hlast.of_name hidle.1 hidle.2).1)
    · rfl
    · -- the way does not end at a name that is not there
      rw [not_or, Bool.not_eq_true] at hidle
      obtain ⟨-, rfl⟩ := (hlast.of_name hidle.1 hidle.2).2.of_absent (by simpa using hsome)
      rw [he] at hsome
      exact absurd rfl hsome

theorem keeps_of_makeDirectory (ht : t.IsLinkless) (h : t.makeDirectory p = .ok t') :
    Keeps [] t t' ∧ t'.isDirectory p = true := by
  unfold makeDirectory at h
  split at h
  · cases h
  next hr =>
    split at h
    · cases h
    next last before hsegments =>
      obtain ⟨slashes, hslashes, hss⟩ := eq_append_slashes hsegments
      split at h
      · cases h
      · cases h
      next r e hwalk =>
        obtain ⟨hbefore, he⟩ := (walk_eq_found_iff ht).mp hwalk
        dsimp only at h
        split_ifs at h with hdir hidle hlong hsome
        obtain rfl := Except.ok.inj h
        rw [not_or, Bool.not_eq_true] at hidle
        have hd : t.get? r = some .directory := by
          cases e with
          | directory => exact he
          | _ => exact absurd rfl hdir
        have hne : r ++ [String.ofList last] ≠ [] := by simp
        have hkeeps := Keeps.put_directory ht hne (by simpa using hsome)
        have hput : (t.put (r ++ [String.ofList last]) .directory).get?
            (r ++ [String.ofList last]) = some .directory := by
          rw [get?_put hne, if_pos rfl]
        refine ⟨hkeeps, isDirectory_iff.mpr ⟨r ++ [String.ofList last], ?_⟩⟩
        rw [locate_eq_found_iff hkeeps.linkless, hkeeps.start, hss]
        refine ⟨hr, (hbefore.mono hkeeps.directory).append ?_, hput⟩
        exact .name (hkeeps.directory r hd) hidle.1 hidle.2 (Nat.not_lt.mp hlong)
          (.slashes hput hslashes)

theorem keeps_of_ensureDirectory (ht : t.IsLinkless) (h : t.ensureDirectory p = (t', none)) :
    Keeps [] t t' ∧ t'.isDirectory p = true := by
  unfold ensureDirectory at h
  split at h
  next t₁ hmake =>
    obtain ⟨rfl, -⟩ := Prod.mk.inj h
    exact keeps_of_makeDirectory ht hmake
  next cause hmake =>
    obtain ⟨rfl, hnone⟩ := Prod.mk.inj h
    split at hnone
    next hd => exact ⟨.refl ht, hd⟩
    · cases hnone

theorem keeps_of_makeDirectoriesAlong {ps : List Path} (ht : t.IsLinkless)
    (h : t.makeDirectoriesAlong ps = (t', none)) :
    Keeps [] t t' ∧ ∀ p ∈ ps.head?, p.text = "" ∨ t'.isDirectory p = true := by
  induction ps generalizing t' with
  | nil =>
    obtain ⟨rfl, -⟩ := Prod.mk.inj h
    exact ⟨.refl ht, by simp⟩
  | cons p parents ih =>
    have hhead : (p :: parents).head? = some p := rfl
    simp only [hhead, Option.mem_some_iff, forall_eq']
    rw [makeDirectoriesAlong] at h
    split at h
    next hempty =>
      obtain ⟨rfl, -⟩ := Prod.mk.inj h
      exact ⟨.refl ht, Or.inl hempty⟩
    · split at h
      · split at h
        next t₁ hparents =>
          obtain ⟨hkeeps, -⟩ := ih hparents
          obtain ⟨hkeeps', hd⟩ := keeps_of_ensureDirectory hkeeps.linkless h
          exact ⟨hkeeps.trans hkeeps', Or.inr hd⟩
        next hstopped =>
          exact absurd h (hstopped t')
      · obtain ⟨hkeeps, hd⟩ := keeps_of_ensureDirectory ht h
        exact ⟨hkeeps, Or.inr hd⟩

theorem keeps_of_makeDirectories (ht : t.IsLinkless) (h : t.makeDirectories p = (t', none)) :
    Keeps [] t t' ∧ (p.text = "" ∨ t'.isDirectory p = true) := by
  obtain ⟨hkeeps, hd⟩ := keeps_of_makeDirectoriesAlong ht h
  exact ⟨hkeeps, hd p rfl⟩

theorem makeDirectories_of_isDirectory (ht : t.IsLinkless)
    (h : p.text = "" ∨ t.isDirectory p = true) : t.makeDirectories p = (t, none) := by
  rw [makeDirectories, makeDirectoriesAlong]
  split
  · rfl
  next hne =>
    have hd := h.resolve_left hne
    rw [makeDirectory_of_isDirectory ht hd]
    simp only [ensureDirectory, makeDirectory_of_isDirectory ht hd, hd, ↓reduceIte]

section Places

variable {place : Place} {names : List String} {s : String}

theorem leads_absolutePath (hn : ∀ s ∈ place, IsName s ∧ s.utf8ByteSize ≤ maxName)
    (hd : ∀ d, d <+: place → t.get? d = some .directory) :
    t.Leads [] ([] :: place.map String.toList) place := by
  induction place using List.reverseRecOn with
  | nil => exact .idle t.get?_root rfl (.nil [])
  | append_singleton place s ih =>
    obtain ⟨hs, hl⟩ := hn s (List.mem_append_right _ (List.mem_singleton_self s))
    have hd : ∀ d, d <+: place → t.get? d = some .directory :=
      fun d hp => hd d (hp.trans (List.prefix_append _ _))
    rw [List.map_append]
    apply (ih (fun x hx => hn x (List.mem_append_left _ hx)) hd).append
    refine .name (hd place List.prefix_rfl) hs.not_idle hs.ne_up ?_ ?_
    · rwa [String.ofList_toList]
    · rw [String.ofList_toList]
      exact .nil _

def IsFree (t : FileTree) (place : Place) : Prop :=
  t.get? place = none ∨ t.get? place = some .directory

theorem walk_free (ht : t.IsLinkless) (hq : t.get? q = some .directory)
    (hn : ∀ s ∈ names, IsName s ∧ s.utf8ByteSize ≤ maxName)
    (hfree : ∀ d, d <+: names → t.IsFree (q ++ d)) :
    (∀ d, d <+: names → t.get? (q ++ d) = some .directory) ∨
      t.walk true maxLinks q (names.map String.toList) = .error .notFound ∨
      ∃ d s, t.walk true maxLinks q (names.map String.toList) = .ok (.missing d s false) := by
  induction names generalizing q with
  | nil =>
    left
    intro d hd
    rw [List.prefix_nil.mp hd, List.append_nil]
    exact hq
  | cons s names ih =>
    obtain ⟨⟨hs, hl⟩, hns⟩ := List.forall_mem_cons.mp hn
    rw [List.map_cons, walk_cons_name ht hq hs.not_idle hs.ne_up, String.ofList_toList,
      if_neg (Nat.not_lt.mpr hl)]
    rcases hfree [s] ⟨names, rfl⟩ with hnone | hdir
    · right
      rw [hnone, if_neg (by simp)]
      cases names with
      | nil => exact Or.inr ⟨q, s, rfl⟩
      | cons s' names =>
        left
        have hne : s'.toList ≠ [] := by simpa using (List.forall_mem_cons.mp hns).1.1.1
        rw [List.map_cons, List.all_cons, decide_eq_false hne, Bool.false_and,
          if_neg Bool.false_ne_true]
    · rw [hdir, if_pos (by rfl)]
      have hrest : ∀ d, d <+: names → t.IsFree (q ++ [s] ++ d) := by
        intro d hd
        rw [List.append_assoc]
        exact hfree (s :: d) (List.prefix_cons_inj s |>.mpr hd)
      refine (ih hdir hns hrest).imp_left fun hall d hd => ?_
      cases d with
      | nil => rwa [List.append_nil]
      | cons s' d =>
        obtain ⟨rfl, hd'⟩ := List.cons_prefix_cons.mp hd
        rw [List.append_cons]
        exact hall d hd'

theorem isDirectory_absolutePath (ht : t.IsLinkless) (hf : place ≠ [] → Fits place)
    (hd : ∀ d, d <+: place → t.get? d = some .directory) :
    t.isDirectory (absolutePath place) = true := by
  apply isDirectory_iff.mpr
  refine ⟨place, (locate_eq_found_iff ht).mpr ⟨?_, ?_, hd place List.prefix_rfl⟩⟩
  · by_cases hne : place = []
    · subst hne
      decide
    · exact (hf hne).refusal
  · rw [start, if_pos (isAbsolute_absolutePath place)]
    by_cases hne : place = []
    · subst hne
      exact .idle t.get?_root rfl (.idle t.get?_root rfl (.nil []))
    · rw [(hf hne).segments]
      exact leads_absolutePath (hf hne).names hd

theorem dropWhile_segments_absolutePath (hf : Fits (place ++ [s])) :
    (segments (absolutePath (place ++ [s])).text).reverse.dropWhile (· = []) =
      s.toList :: (([] :: place.map String.toList).reverse) := by
  obtain ⟨hs, -⟩ := hf.names s (List.mem_append_right _ (List.mem_singleton_self s))
  have hne : s.toList ≠ [] := by simpa using hs.1
  rw [hf.segments, List.map_append, ← List.cons_append, List.reverse_append]
  exact List.dropWhile_cons_of_neg (by simpa using hne)

theorem makeDirectory_beside (ht : t.IsLinkless) (hf : Fits (place ++ [s]))
    (hd : ∀ d, d <+: place → t.get? d = some .directory) :
    t.makeDirectory (absolutePath (place ++ [s])) =
      if (t.get? (place ++ [s])).isSome then .error .alreadyExists
      else .ok (t.put (place ++ [s]) .directory) := by
  obtain ⟨hs, hl⟩ := hf.names s (List.mem_append_right _ (List.mem_singleton_self s))
  have hlead := leads_absolutePath (fun x hx => hf.names x (List.mem_append_left _ hx)) hd
  simp [makeDirectory, hf.refusal, dropWhile_segments_absolutePath hf, start,
    isAbsolute_absolutePath, walk_of_leads ht hlead (hd place List.prefix_rfl), Entry.isDirectory,
    hs.not_idle, hs.ne_up, Nat.not_lt.mpr hl]

theorem makeDirectory_notFound (hf : Fits (place ++ [s]))
    (h : t.walk true maxLinks [] (place.map String.toList) = .error .notFound ∨
      ∃ d x, t.walk true maxLinks [] (place.map String.toList) = .ok (.missing d x false)) :
    t.makeDirectory (absolutePath (place ++ [s])) = .error .notFound := by
  have hroot : t.walk true maxLinks [] ([] :: place.map String.toList) =
      t.walk true maxLinks [] (place.map String.toList) := walk_idle t.get?_root rfl
  rcases h with h | ⟨d, x, h⟩ <;>
    simp [makeDirectory, hf.refusal, dropWhile_segments_absolutePath hf, start,
      isAbsolute_absolutePath, hroot, h]

structure Made (t : FileTree) (place : Place) (t' : FileTree) : Prop where
  linkless : t'.IsLinkless
  directory : ∀ d, d <+: place → t'.get? d = some .directory
  get? : ∀ q, t'.get? q = t.get? q ∨ q <+: place ∧ t'.get? q = some .directory

theorem Made.isFree (h : Made t place t') (hq : t.IsFree q) : t'.IsFree q := by
  rcases h.get? q with he | ⟨-, he⟩
  · rwa [IsFree, he]
  · exact Or.inr he

theorem Made.concat {t'' : FileTree} (h : Made t place t') (h' : Made t' (place ++ [s]) t'') :
    Made t (place ++ [s]) t'' := by
  refine ⟨h'.linkless, h'.directory, fun q => ?_⟩
  rcases h'.get? q with he | he
  · rw [he]
    exact (h.get? q).imp_right fun h => ⟨h.1.trans (List.prefix_append _ _), h.2⟩
  · exact Or.inr he

theorem exists_ensureDirectory (ht : t.IsLinkless) (hf : Fits (place ++ [s]))
    (hd : ∀ d, d <+: place → t.get? d = some .directory) (hfree : t.IsFree (place ++ [s])) :
    ∃ t', t.ensureDirectory (absolutePath (place ++ [s])) = (t', none) ∧
      Made t (place ++ [s]) t' := by
  rcases hfree with hnone | hdir
  · have hmake : t.makeDirectory (absolutePath (place ++ [s])) =
        .ok (t.put (place ++ [s]) .directory) := by
      rw [makeDirectory_beside ht hf hd, hnone]
      rfl
    have hget : ∀ q, (t.put (place ++ [s]) .directory).get? q =
        if q = place ++ [s] then some .directory else t.get? q := get?_put (by simp) _
    refine ⟨_, by rw [ensureDirectory, hmake], (keeps_of_makeDirectory ht hmake).1.linkless, ?_, ?_⟩
    · intro d hp
      rw [hget]
      split
      · rfl
      next hne => exact hd d ((List.prefix_concat_iff.mp hp).resolve_left hne)
    · intro q
      rw [hget]
      split
      next he => exact Or.inr ⟨he ▸ List.prefix_rfl, rfl⟩
      · exact Or.inl rfl
  · have hall : ∀ d, d <+: place ++ [s] → t.get? d = some .directory := by
      intro d hp
      rcases List.prefix_concat_iff.mp hp with rfl | hp
      · exact hdir
      · exact hd d hp
    have his := isDirectory_absolutePath ht (fun _ => hf) hall
    refine ⟨t, ?_, ht, hall, fun q => Or.inl rfl⟩
    simp only [ensureDirectory, makeDirectory_of_isDirectory ht his, his, ↓reduceIte]

theorem makeDirectories_concat (hf : Fits (place ++ [s])) :
    t.makeDirectories (absolutePath (place ++ [s])) =
      match t.makeDirectory (absolutePath (place ++ [s])) with
      | .error .notFound =>
        match t.makeDirectories (absolutePath place) with
        | (t, none) => t.ensureDirectory (absolutePath (place ++ [s]))
        | stopped => stopped
      | _ => t.ensureDirectory (absolutePath (place ++ [s])) := by
  have htext : (absolutePath (place ++ [s])).text ≠ "" := by simp [absolutePath]
  rw [makeDirectories, ancestors_absolutePath fun x hx => (hf.names x hx).1, makeDirectoriesAlong,
    if_neg htext]
  rfl

theorem exists_makeDirectories (ht : t.IsLinkless) (hf : place ≠ [] → Fits place)
    (hfree : ∀ d, d <+: place → t.IsFree d) :
    ∃ t', t.makeDirectories (absolutePath place) = (t', none) ∧ Made t place t' := by
  induction place using List.reverseRecOn with
  | nil =>
    have hroot : ∀ d, d <+: [] → t.get? d = some .directory := by
      intro d hd
      rw [List.prefix_nil.mp hd]
      exact t.get?_root
    refine ⟨t, makeDirectories_of_isDirectory ht (Or.inr ?_), ht, hroot, fun q => Or.inl rfl⟩
    exact isDirectory_absolutePath ht hf hroot
  | append_singleton place s ih =>
    have hfit : Fits (place ++ [s]) := hf (by simp)
    have hbefore : ∀ d, d <+: place → t.IsFree d :=
      fun d hd => hfree d (hd.trans (List.prefix_append _ _))
    have hlast : t.IsFree (place ++ [s]) := hfree _ List.prefix_rfl
    rw [makeDirectories_concat hfit]
    rcases walk_free ht t.get?_root (fun x hx => hfit.names x (List.mem_append_left _ hx))
      hbefore with hd | hmissing
    · have hmake := makeDirectory_beside ht hfit hd
      split
      next h =>
        rw [h] at hmake
        split at hmake <;> cases hmake
      next => exact exists_ensureDirectory ht hfit hd hlast
    · -- the directories before come first
      have hmake := makeDirectory_notFound hfit hmissing
      obtain ⟨t₁, h₁, hmade⟩ := ih (fun hne => hfit.of_append hne) hbefore
      obtain ⟨t₂, h₂, hmade₂⟩ :=
        exists_ensureDirectory hmade.linkless hfit hmade.directory (hmade.isFree hlast)
      refine ⟨t₂, ?_, hmade.concat hmade₂⟩
      simp only [hmake, h₁, h₂]

theorem writeBytes_absolutePath (ht : t.IsLinkless) (hf : Fits (place ++ [s]))
    (hd : ∀ d, d <+: place → t.get? d = some .directory)
    (hne : t.get? (place ++ [s]) ≠ some .directory) (bytes : ByteArray) :
    t.writeBytes (absolutePath (place ++ [s])) bytes =
      .ok (t.put (place ++ [s]) (.file bytes)) := by
  obtain ⟨hs, hl⟩ := hf.names s (List.mem_append_right _ (List.mem_singleton_self s))
  have hlocate : t.locate true (absolutePath (place ++ [s])) =
      if (t.get? (place ++ [s])).isSome then t.walk true maxLinks (place ++ [s]) []
      else .ok (.missing place s false) := by
    have hlead := leads_absolutePath (fun x hx => hf.names x (List.mem_append_left _ hx)) hd
    rw [locate, hf.refusal, start, if_pos (isAbsolute_absolutePath _), hf.segments, List.map_append,
      ← List.cons_append]
    dsimp only
    rw [walk_append ht hlead (hd place List.prefix_rfl), List.map_singleton,
      walk_cons_name ht (hd place List.prefix_rfl) hs.not_idle hs.ne_up, String.ofList_toList,
      if_neg (Nat.not_lt.mpr hl)]
    rfl
  cases he : t.get? (place ++ [s]) with
  | none => simp [writeBytes, hlocate, he]
  | some e =>
    cases e with
    | directory => exact absurd he hne
    | _ => simp [writeBytes, hlocate, he, walk_nil]

end Places

theorem keeps_of_writeBytes {bytes : ByteArray} (ht : t.IsLinkless)
    (h : t.writeBytes p bytes = .ok t') :
    Keeps [p.placeFrom t.cwd] t t' ∧
      t'.locate true p = .ok (.found (p.placeFrom t.cwd) (.file bytes)) := by
  obtain ⟨q, hr, hleads, hq, rfl⟩ : ∃ q, refusal? p = none ∧
      t.Leads (t.start p) (segments p.text) q ∧ t.get? q ≠ some .directory ∧
      t' = t.put q (.file bytes) := by
    unfold writeBytes at h
    split at h
    · cases h
    · cases h
    next q e hne hl =>
      obtain ⟨hr, hleads, he⟩ := (locate_eq_found_iff ht).mp hl
      refine ⟨q, hr, hleads, ?_, (Except.ok.inj h).symm⟩
      rw [he]
      exact fun hd => hne (Option.some.inj hd)
    · cases h
    next d n hl =>
      have hr : refusal? p = none := by
        unfold locate at hl
        split at hl
        · cases hl
        next hr => exact hr
      rw [locate, hr] at hl
      obtain ⟨hleads, hn⟩ : t.Reaches _ _ (.missing d n false) := reaches_of_walk ht hl
      refine ⟨d ++ [n], hr, hleads, ?_, (Except.ok.inj h).symm⟩
      simp [hn]
  obtain rfl := hleads.eq_placeFrom
  have hkeeps := Keeps.put_file ht hq bytes
  refine ⟨hkeeps, ?_⟩
  rw [locate_eq_found_iff hkeeps.linkless, hkeeps.start]
  refine ⟨hr, hleads.mono hkeeps.directory, ?_⟩
  have hne : p.placeFrom t.cwd ≠ [] := by
    intro hnil
    rw [hnil] at hq
    exact hq t.get?_root
  rw [get?_put hne, if_pos rfl]

end ContractTypings.FileTree
