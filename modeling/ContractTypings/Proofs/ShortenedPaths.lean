import ContractTypings.Proofs.ArtifactLayout
import Mathlib.Data.List.Nodup

/-!
Artifacts shortened side by side. Each loses the source directory right above it, except where
another would then have the same path. One that is kept for that reason can still be what a third,
from a source directory further down, is shortened to.
-/

namespace ContractTypings

namespace Path

def DropsSource (cs ds : List Component) : Prop :=
  ∃ d s file, cs = d ++ [.name s, .name file] ∧ ".sol".toList <:+ s.toList ∧ ds = d ++ [.name file]

def ShortensTo (cs ds : List Component) : Prop :=
  DropsSource cs ds ∨ ds = cs ∧ ∀ es, ¬ DropsSource cs es

variable {cs ds es : List Component}

theorem DropsSource.unique (hd : DropsSource cs ds) (he : DropsSource cs es) : ds = es := by
  obtain ⟨d, s, file, rfl, -, rfl⟩ := hd
  obtain ⟨e, u, f, hc, -, rfl⟩ := he
  obtain ⟨rfl, hl⟩ := List.append_inj' hc rfl
  obtain ⟨-, hfile⟩ := List.cons.inj hl
  rw [hfile]

theorem ShortensTo.unique (hd : ShortensTo cs ds) (he : ShortensTo cs es) : ds = es := by
  rcases hd with hd | ⟨rfl, hd⟩
  · rcases he with he | ⟨rfl, he⟩
    · exact hd.unique he
    · exact absurd hd (he ds)
  · rcases he with he | ⟨rfl, -⟩
    · exact absurd he (hd es)
    · rfl

end Path

open ContractTypings.Path

theorem shortenArtifact_rule (p : Path) :
    DropsSource p.components (shortenArtifact p).components ∨
      shortenArtifact p = p ∧ ∀ es, ¬ DropsSource p.components es := by
  cases hf : p.fileName? with
  | some file =>
    rcases shortenArtifact_cases hf with ⟨d, s, hc, hs, he⟩ | ⟨he, hn⟩
    · exact Or.inl ⟨d, s, file, hc, hs, he⟩
    · refine Or.inr ⟨he, ?_⟩
      rintro es ⟨d, s, f, hc, hs, -⟩
      obtain rfl : f = file := by
        rw [fileName?_eq_some_iff, hc, List.getLast?_append] at hf
        simpa using hf
      exact hn d s hc hs
  | none =>
    refine Or.inr ⟨?_, ?_⟩
    · simp only [shortenArtifact, hf]
      split
      next h => cases h
      · rfl
    · rintro es ⟨d, s, file, hc, -, -⟩
      have hname : p.fileName? = some file := by
        rw [fileName?_eq_some_iff, hc, List.getLast?_append]
        rfl
      rw [hname] at hf
      cases hf

theorem shortensTo_shortenArtifact (p : Path) :
    ShortensTo p.components (shortenArtifact p).components :=
  (shortenArtifact_rule p).imp_right fun ⟨he, hn⟩ => ⟨congrArg components he, hn⟩

def HasRival (paths : List Path) (p : Path) : Prop :=
  ∃ q ∈ paths, q.components ≠ p.components ∧
    ∃ cs, ShortensTo p.components cs ∧ ShortensTo q.components cs

/-- A path is kept for a rival in a source directory, and another without a rival lies in a source
directory below it, under the same name. -/
def MeetsKept (paths : List Path) : Prop :=
  ∃ p ∈ paths, ∃ q ∈ paths, HasRival paths p ∧ ¬ HasRival paths q ∧
    ∃ d s t file, ".sol".toList <:+ s.toList ∧ ".sol".toList <:+ t.toList ∧
      p.components = d ++ [.name s, .name file] ∧
      q.components = d ++ [.name s, .name t, .name file]

section

variable {paths : List Path} {p q : Path}

theorem hasRival_iff : HasRival paths p ↔ ∃ q ∈ paths, q.components ≠ p.components ∧
    (shortenArtifact q).components = (shortenArtifact p).components := by
  constructor
  · rintro ⟨q, hq, hne, cs, hp, hs⟩
    have hpc := (shortensTo_shortenArtifact p).unique hp
    have hqc := (shortensTo_shortenArtifact q).unique hs
    exact ⟨q, hq, hne, hqc.trans hpc.symm⟩
  · rintro ⟨q, hq, hne, he⟩
    have hs : ShortensTo q.components (shortenArtifact p).components := by
      rw [← he]
      exact shortensTo_shortenArtifact q
    exact ⟨q, hq, hne, _, shortensTo_shortenArtifact p, hs⟩

theorem one_lt_countP_iff {α β : Type} {f : α → β} {P : α → Bool} {as : List α} {a : α}
    (hn : (as.map f).Nodup) (ha : a ∈ as) (hP : P a = true) :
    1 < as.countP P ↔ ∃ b ∈ as, f b ≠ f a ∧ P b = true := by
  have hm : a ∈ as.filter P := List.mem_filter.mpr ⟨ha, hP⟩
  have hd : ((as.filter P).map f).Nodup := hn.sublist (List.filter_sublist.map f)
  rw [List.countP_eq_length_filter]
  constructor
  · intro h
    match hs : as.filter P, h with
    | x :: y :: rest, _ =>
      rw [hs, List.map_cons, List.map_cons] at hd
      have hxy : f x ≠ f y := fun he => (List.nodup_cons.mp hd).1 (he ▸ List.mem_cons_self)
      have hx : x ∈ as.filter P := hs ▸ List.mem_cons_self
      have hy : y ∈ as.filter P := hs ▸ List.mem_cons_of_mem x List.mem_cons_self
      by_cases he : f x = f a
      · exact ⟨y, (List.mem_filter.mp hy).1, fun h => hxy (he.trans h.symm),
          (List.mem_filter.mp hy).2⟩
      · exact ⟨x, (List.mem_filter.mp hx).1, he, (List.mem_filter.mp hx).2⟩
  · rintro ⟨b, hb, hne, hb'⟩
    have hbm : b ∈ as.filter P := List.mem_filter.mpr ⟨hb, hb'⟩
    match hs : as.filter P with
    | [] =>
      rw [hs] at hm
      cases hm
    | [x] =>
      rw [hs, List.mem_singleton] at hm hbm
      exact absurd (by rw [hbm, hm]) hne
    | x :: y :: rest => simp

theorem countP_shortened_iff (hn : (paths.map components).Nodup) (hp : p ∈ paths) :
    1 < (paths.map shortenArtifact).countP (·.same (shortenArtifact p)) ↔ HasRival paths p := by
  have hself : ((·.same (shortenArtifact p)) ∘ shortenArtifact) p = true := same_refl _
  rw [List.countP_map, one_lt_countP_iff hn hp hself, hasRival_iff]
  simp [same]

theorem shortenAmong_of_hasRival (hn : (paths.map components).Nodup) (hp : p ∈ paths)
    (h : HasRival paths p) : shortenAmong paths p = p := by
  rw [shortenAmong, if_pos ((countP_shortened_iff hn hp).mpr h)]

theorem shortenAmong_of_not_hasRival (hn : (paths.map components).Nodup) (hp : p ∈ paths)
    (h : ¬ HasRival paths p) : shortenAmong paths p = shortenArtifact p := by
  rw [shortenAmong, if_neg (mt (countP_shortened_iff hn hp).mp h)]

theorem shortenArtifacts_eq (paths : List Path) :
    shortenArtifacts paths = paths.map (shortenAmong paths) := rfl

theorem meetsKept_of_shortensTo (hp : p ∈ paths) (hq : q ∈ paths) (hr : HasRival paths p)
    (hnr : ¬ HasRival paths q) (hne : p.components ≠ q.components)
    (h : (shortenArtifact q).components = p.components) : MeetsKept paths := by
  have hs : ShortensTo q.components p.components := by
    rw [← h]
    exact shortensTo_shortenArtifact q
  obtain ⟨d, t, file, hqc, ht, hpc⟩ := hs.resolve_right fun he => hne he.1
  -- a path that stays as it is on its own would be a rival of the other
  have hdrop : ∃ ds, DropsSource p.components ds := by
    by_contra hnone
    exact hnr ⟨p, hp, hne, p.components, hs, Or.inr ⟨rfl, not_exists.mp hnone⟩⟩
  obtain ⟨ds, e, s, f, hpe, hsol, -⟩ := hdrop
  have hsplit : d ++ [.name file] = (e ++ [.name s]) ++ [.name f] := by
    rw [← hpc, hpe, List.append_assoc]
    rfl
  obtain ⟨rfl, hfile⟩ := List.append_inj' hsplit rfl
  obtain rfl : file = f := by simpa using hfile
  refine ⟨p, hp, q, hq, hr, hnr, e, s, t, file, hsol, ht, hpe, ?_⟩
  rw [hqc, List.append_assoc]
  rfl

theorem shortenAmong_inj_on (hn : (paths.map components).Nodup) (h : ¬ MeetsKept paths)
    (hp : p ∈ paths) (hq : q ∈ paths)
    (he : (shortenAmong paths p).components = (shortenAmong paths q).components) :
    p.components = q.components := by
  by_contra hne
  by_cases hrp : HasRival paths p
  · rw [shortenAmong_of_hasRival hn hp hrp] at he
    by_cases hrq : HasRival paths q
    · rw [shortenAmong_of_hasRival hn hq hrq] at he
      exact hne he
    · rw [shortenAmong_of_not_hasRival hn hq hrq] at he
      exact h (meetsKept_of_shortensTo hp hq hrp hrq hne he.symm)
  · rw [shortenAmong_of_not_hasRival hn hp hrp] at he
    by_cases hrq : HasRival paths q
    · rw [shortenAmong_of_hasRival hn hq hrq] at he
      exact h (meetsKept_of_shortensTo hq hp hrq hrp (Ne.symm hne) he)
    · rw [shortenAmong_of_not_hasRival hn hq hrq] at he
      exact hrp (hasRival_iff.mpr ⟨q, hq, Ne.symm hne, he.symm⟩)

theorem nodup_shortenArtifacts_iff (hn : (paths.map components).Nodup) :
    ((shortenArtifacts paths).map components).Nodup ↔ ¬ MeetsKept paths := by
  have hpaths : paths.Nodup := hn.of_map
  rw [shortenArtifacts_eq, List.map_map, List.nodup_map_iff_inj_on hpaths]
  constructor
  · rintro h ⟨p, hp, q, hq, hr, hnr, d, s, t, file, -, ht, hpc, hqc⟩
    have hdrop : ShortensTo q.components p.components := by
      refine Or.inl ⟨d ++ [.name s], t, file, ?_, ht, ?_⟩
      · rw [hqc, List.append_assoc]
        rfl
      · rw [hpc, List.append_assoc]
        rfl
    have he : (shortenAmong paths p).components = (shortenAmong paths q).components := by
      rw [shortenAmong_of_hasRival hn hp hr, shortenAmong_of_not_hasRival hn hq hnr]
      exact hdrop.unique (shortensTo_shortenArtifact q)
    have hpq : p = q := h p hp q hq he
    exact hnr (hpq ▸ hr)
  · intro h p hp q hq he
    exact List.inj_on_of_nodup_map hn hp hq (shortenAmong_inj_on hn h hp hq he)

end

/-- Of distinct paths each is as it was, or it is without the source directory right above it; this
just if no other is shortened to the same. They stay distinct unless a path that is kept meets one
from a source directory below its own. -/
theorem shortened_paths {paths : List Path} (hn : (paths.map components).Nodup) :
    (shortenArtifacts paths).length = paths.length ∧
      (∀ (i : ℕ) (p e : Path), paths[i]? = some p → (shortenArtifacts paths)[i]? = some e →
        (e = p ∨ DropsSource p.components e.components) ∧
        (HasRival paths p → e = p) ∧
        (¬ HasRival paths p → ShortensTo p.components e.components)) ∧
      (((shortenArtifacts paths).map components).Nodup ↔ ¬ MeetsKept paths) := by
  refine ⟨by simp [shortenArtifacts_eq], ?_, nodup_shortenArtifacts_iff hn⟩
  intro i p e hi he
  have hp : p ∈ paths := List.mem_of_getElem? hi
  obtain rfl : shortenAmong paths p = e := by
    simpa [shortenArtifacts_eq, hi] using he
  refine ⟨?_, shortenAmong_of_hasRival hn hp, ?_⟩
  · by_cases hr : HasRival paths p
    · exact Or.inl (shortenAmong_of_hasRival hn hp hr)
    · rw [shortenAmong_of_not_hasRival hn hp hr]
      exact (shortenArtifact_rule p).symm.imp And.left id
  · intro hr
    rw [shortenAmong_of_not_hasRival hn hp hr]
    exact shortensTo_shortenArtifact p

theorem shortened_paths_rivals :
    let paths : List Path := [⟨"A.sol/S"⟩, ⟨"S"⟩, ⟨"A.sol/B.sol/S"⟩, ⟨"A.sol/C.sol/S"⟩]
    (paths.map components).Nodup ∧ shortenArtifacts paths = paths ∧
      ((shortenArtifacts paths).map components).Nodup ∧ ¬ MeetsKept paths := by
  intro paths
  have hn : (paths.map components).Nodup := by decide
  have he : shortenArtifacts paths = paths := by decide +kernel
  have hd : ((shortenArtifacts paths).map components).Nodup := by
    rw [he]
    exact hn
  exact ⟨hn, he, hd, (shortened_paths hn).2.2.mp hd⟩

/-- The second is kept for the third, and the first is shortened to it. -/
theorem shortened_paths_merged : ¬ ∀ paths : List Path, (paths.map components).Nodup →
    ((shortenArtifacts paths).map components).Nodup := by
  intro h
  let paths : List Path := [⟨"B.sol/C.sol/F.json"⟩, ⟨"B.sol/F.json"⟩, ⟨"D.sol/F.json"⟩]
  have he : shortenArtifacts paths =
      [⟨"B.sol/F.json"⟩, ⟨"B.sol/F.json"⟩, ⟨"D.sol/F.json"⟩] := by decide +kernel
  have hd := h paths (by decide)
  rw [he] at hd
  exact absurd hd (by decide)

end ContractTypings
