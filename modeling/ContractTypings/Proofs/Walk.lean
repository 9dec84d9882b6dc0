import ContractTypings.FileTree.Basic
import ContractTypings.Proofs.PathComponents

namespace ContractTypings.FileTree

variable {t : FileTree} {follow : Bool} {links : ℕ} {place : Place}
  {segment : List Char} {rest : List (List Char)}

theorem get?_root (t : FileTree) : t.get? [] = some .directory := if_pos rfl

theorem walk_nil : t.walk follow links place [] =
    (t.get? place).elim (.error .notFound) fun entry => .ok (.found place entry) := by
  rw [walk]

theorem walk_idle (hd : t.get? place = some .directory) (hi : Path.isIdle segment = true) :
    t.walk follow links place (segment :: rest) = t.walk follow links place rest := by
  rw [walk]
  simp [hd, hi, Entry.isDirectory]

theorem walk_name {s : String} {entry : Entry} (hd : t.get? place = some .directory)
    (hs : Path.IsName s) (hl : s.utf8ByteSize ≤ maxName)
    (he : t.get? (place ++ [s]) = some entry) (hn : ∀ target, entry ≠ .link target) :
    t.walk follow links place (s.toList :: rest) = t.walk follow links (place ++ [s]) rest := by
  rw [walk]
  simp only [hd, hs.not_idle, hs.ne_up, he, Option.any_some, Entry.isDirectory,
    String.ofList_toList, Nat.not_lt.mpr hl, Bool.not_true, Bool.false_eq_true, ↓reduceIte]

theorem walk_absent {s : String} (hs : Path.IsName s)
    (he : t.get? (place ++ [s]) = none) {q : Place} {entry : Entry} :
    t.walk follow links place (s.toList :: rest) ≠ .ok (.found q entry) := by
  rw [walk]
  simp only [hs.not_idle, hs.ne_up, he, String.ofList_toList, Bool.false_eq_true, ↓reduceIte]
  split_ifs <;> simp

theorem resolve_of_absent {p : Path} {s : String} (ha : p.isAbsolute = true)
    (hp : [[], s.toList] <+: Path.segments p.text) (hs : Path.IsName s)
    (he : t.get? [s] = none) : t.resolve p = p := by
  have hw : ∀ q entry, t.walk true maxLinks (t.start p) (Path.segments p.text) ≠
      .ok (.found q entry) := by
    intro q entry
    obtain ⟨rest, hr⟩ := hp
    rw [start, if_pos ha, ← hr, List.cons_append, walk_idle t.get?_root rfl]
    exact walk_absent hs he
  unfold resolve
  split
  next hf => exact absurd hf (hw _ _)
  · rfl

theorem resolve_root (t : FileTree) : t.resolve ⟨"/"⟩ = ⟨"/"⟩ := by
  have hs : Path.segments "/" = [[], []] := by decide
  have hstart : t.start ⟨"/"⟩ = [] := if_pos (by decide)
  have hv : vacancy? ⟨"/"⟩ = none := by decide
  have hwalk : t.walk true maxLinks (t.start ⟨"/"⟩) (Path.segments "/") =
      .ok (.found [] .directory) := by
    rw [hs, hstart, walk_idle t.get?_root rfl, walk_idle t.get?_root rfl, walk_nil, t.get?_root]
    rfl
  simp only [resolve, hv, hwalk]
  decide

theorem walk_names {names : List String} {entry : Entry}
    (hn : ∀ s ∈ names, Path.IsName s ∧ s.utf8ByteSize ≤ maxName)
    (hd : ∀ n < names.length, t.get? (place ++ names.take n) = some .directory)
    (he : t.get? (place ++ names) = some entry) (hl : ∀ target, entry ≠ .link target) :
    t.walk follow links place (names.map String.toList) = .ok (.found (place ++ names) entry) := by
  induction names generalizing place with
  | nil =>
    rw [List.append_nil] at he ⊢
    rw [List.map_nil, walk_nil, he]
    rfl
  | cons s names ih =>
    obtain ⟨⟨hs, hb⟩, hns⟩ := List.forall_mem_cons.mp hn
    have ha : ∀ rest, place ++ s :: rest = place ++ [s] ++ rest := by simp
    have hp : t.get? place = some .directory := by simpa using hd 0 (Nat.zero_lt_succ _)
    have hds : ∀ n < names.length, t.get? (place ++ [s] ++ names.take n) = some .directory := by
      intro n hn
      rw [← ha]
      exact hd (n + 1) (Nat.succ_lt_succ hn)
    -- the first name leads to the next directory, or to the end itself
    obtain ⟨next, hx, hxl⟩ : ∃ next, t.get? (place ++ [s]) = some next ∧
        ∀ target, next ≠ .link target := by
      cases names with
      | nil => exact ⟨entry, he, hl⟩
      | cons s' names =>
        refine ⟨.directory, by simpa using hds 0 (Nat.zero_lt_succ _), ?_⟩
        intro target
        simp
    rw [ha] at he ⊢
    rw [List.map_cons, walk_name hp hs hb hx hxl]
    exact ih hns hds he

theorem isAbsolute_absolutePath (place : Place) : (absolutePath place).isAbsolute = true := by
  simp [absolutePath, Path.isAbsolute]

theorem segments_absolutePath (hne : place ≠ []) (hs : ∀ s ∈ place, Path.IsName s) :
    Path.segments (absolutePath place).text = [] :: place.map String.toList := by
  have hslash : ∀ cs ∈ place.map String.toList, '/' ∉ cs := by
    intro cs hcs
    obtain ⟨s, hm, rfl⟩ := List.mem_map.mp hcs
    exact (hs s hm).2.2.2
  have hnames : Path.segments ("/".intercalate place) = place.map String.toList := by
    rw [Path.segments, String.toList_intercalate]
    exact List.splitOn_intercalate '/' hslash (by simpa using hne)
  have hsplit := Path.segments_append "" ("/".intercalate place)
  rw [String.empty_append, hnames] at hsplit
  exact hsplit

theorem components_absolutePath (hs : ∀ s ∈ place, Path.IsName s) :
    (absolutePath place).components = .root :: place.map .name := by
  by_cases hne : place = []
  · subst hne
    decide
  · have hnames : place.filterMap (Path.component? ∘ String.toList) = place.map .name := by
      rw [← List.filterMap_eq_map]
      exact List.filterMap_congr fun s hm => (hs s hm).component?
    rw [Path.components, segments_absolutePath hne hs, Path.lead,
      if_pos (isAbsolute_absolutePath place), List.filterMap_cons_none rfl, List.filterMap_map,
      hnames]
    rfl

theorem trimIdle_names (hs : ∀ s ∈ place, Path.IsName s) :
    Path.trimIdle (place.map String.toList) = place.map String.toList := by
  rw [Path.trimIdle, List.reverse_eq_iff]
  cases hr : (place.map String.toList).reverse with
  | nil => rfl
  | cons cs rest =>
    have hcs : cs ∈ place.map String.toList := by
      rw [← List.mem_reverse, hr]
      exact List.mem_cons_self
    obtain ⟨s, hm, rfl⟩ := List.mem_map.mp hcs
    exact List.dropWhile_cons_of_neg (by simp [(hs s hm).not_idle])

theorem parent?_absolutePath {s : String} (hs : ∀ x ∈ place ++ [s], Path.IsName x) :
    (absolutePath (place ++ [s])).parent? = some (absolutePath place) := by
  have hplace : ∀ x ∈ place, Path.IsName x := fun x hx => hs x (List.mem_append_left _ hx)
  have hbody : (absolutePath (place ++ [s])).body = ("/", (place ++ [s]).map String.toList) := by
    rw [Path.body, if_pos (isAbsolute_absolutePath _), segments_absolutePath (by simp) hs]
    rfl
  have hkept : Path.trimIdle ((place ++ [s]).map String.toList) =
      place.map String.toList ++ [s.toList] := by
    rw [trimIdle_names hs, List.map_append]
    rfl
  have htext : Path.ofSegments (place.map String.toList) = "/".intercalate place := by
    apply String.toList_inj.mp
    rw [Path.ofSegments, String.toList_ofList, String.toList_intercalate]
    rfl
  simp only [Path.parent?, hbody, hkept]
  split
  next h => exact absurd h (by simp)
  next => rw [List.dropLast_concat, trimIdle_names hplace, htext, absolutePath]

theorem ancestors_absolutePath {s : String} (hs : ∀ x ∈ place ++ [s], Path.IsName x) :
    (absolutePath (place ++ [s])).ancestors =
      absolutePath place :: (absolutePath place).ancestors := by
  have hplace : ∀ x ∈ place, Path.IsName x := fun x hx => hs x (List.mem_append_left _ hx)
  rw [Path.ancestors, Path.ancestors, components_absolutePath hs, components_absolutePath hplace]
  simp only [List.length_cons, List.length_map, List.length_append, List.length_nil]
  rw [Path.ancestorsUpTo, parent?_absolutePath hs]

theorem absolutePath_append {rest : Place} (hne : place ≠ []) (hr : rest ≠ []) :
    (absolutePath (place ++ rest)).text =
      (absolutePath place).text ++ ("/" ++ "/".intercalate rest) := by
  simp only [absolutePath, String.intercalate_append_of_ne_nil hne hr, String.append_assoc]

structure Fits (place : Place) : Prop where
  ne_nil : place ≠ []
  names : ∀ s ∈ place, Path.IsName s ∧ s.utf8ByteSize ≤ maxName
  refusal : refusal? (absolutePath place) = none

instance (place : Place) : Decidable (Fits place) :=
  decidable_of_iff (place ≠ [] ∧ (∀ s ∈ place, Path.IsName s ∧ s.utf8ByteSize ≤ maxName) ∧
    refusal? (absolutePath place) = none) ⟨fun h => ⟨h.1, h.2.1, h.2.2⟩, fun h => ⟨h.1, h.2, h.3⟩⟩

theorem refusal?_eq_none_iff {p : Path} : refusal? p = none ↔
    '\x00' ∉ p.text.toList ∧ p.text ≠ "" ∧ p.text.utf8ByteSize < pathBound := by
  unfold refusal? vacancy?
  split_ifs <;> simp_all

theorem vacancy?_of_refusal? {p : Path} (h : refusal? p = none) : vacancy? p = none :=
  (Option.or_eq_none_iff.mp h).1

namespace Fits

theorem segments (h : Fits place) :
    Path.segments (absolutePath place).text = [] :: place.map String.toList :=
  segments_absolutePath h.ne_nil fun s hs => (h.names s hs).1

theorem eq_of_same {q : Place} (h : Fits place) (h' : Fits q)
    (hs : (absolutePath place).same (absolutePath q) = true) : place = q := by
  rw [Path.same, beq_iff_eq, components_absolutePath fun s hs => (h.names s hs).1,
    components_absolutePath fun s hs => (h'.names s hs).1] at hs
  apply List.map_injective_iff.mpr _ (List.cons.inj hs).2
  intro s s' hname
  exact Path.Component.name.inj hname

theorem of_append {rest : Place} (hne : place ≠ []) (h : Fits (place ++ rest)) : Fits place := by
  cases rest with
  | nil => rwa [List.append_nil] at h
  | cons s rest =>
    obtain ⟨hnul, -, hsize⟩ := refusal?_eq_none_iff.mp h.refusal
    rw [absolutePath_append hne (List.cons_ne_nil s rest)] at hnul hsize
    rw [String.toList_append, List.mem_append, not_or] at hnul
    rw [String.utf8ByteSize_append] at hsize
    refine ⟨hne, fun s hs => h.names s (List.mem_append_left _ hs),
      refusal?_eq_none_iff.mpr ⟨hnul.1, ?_, by omega⟩⟩
    simp [absolutePath]

end Fits

structure HasFile (t : FileTree) (place : Place) (text : String) : Prop where
  fits : Fits place
  directories : ∀ n < place.length, t.get? (place.take n) = some .directory
  file : t.get? place = some (.file text.toUTF8)

namespace HasFile

variable {text : String}

theorem of_root {s : String} (hs : Fits [s]) (he : t.get? [s] = some (.file text.toUTF8)) :
    t.HasFile [s] text where
  fits := hs
  directories := by
    intro n hn
    obtain rfl : n = 0 := Nat.lt_one_iff.mp hn
    exact t.get?_root
  file := he

theorem of_directory {d s : String} (hs : Fits [d, s]) (hd : t.get? [d] = some .directory)
    (he : t.get? [d, s] = some (.file text.toUTF8)) : t.HasFile [d, s] text where
  fits := hs
  directories := by
    intro n hn
    rcases n with _ | _ | n
    · exact t.get?_root
    · exact hd
    · rw [List.length_cons, List.length_singleton] at hn
      omega
  file := he

theorem walk (h : t.HasFile place text) :
    t.walk true maxLinks (t.start (absolutePath place))
      (Path.segments (absolutePath place).text) = .ok (.found place (.file text.toUTF8)) := by
  rw [start, if_pos (isAbsolute_absolutePath place), h.fits.segments, walk_idle t.get?_root rfl]
  exact walk_names h.fits.names h.directories h.file (by simp)

theorem resolve (h : t.HasFile place text) :
    t.resolve (absolutePath place) = absolutePath place := by
  rw [FileTree.resolve, vacancy?_of_refusal? h.fits.refusal, h.walk]

theorem readText (h : t.HasFile place text) : t.readText (absolutePath place) = .ok text := by
  have hl : t.locate true (absolutePath place) = .ok (.found place (.file text.toUTF8)) := by
    rw [locate, h.fits.refusal]
    exact h.walk
  have hu : String.fromUTF8? text.toUTF8 = some text := dif_pos text.isValidUTF8
  simp only [FileTree.readText, readBytes, hl, hu]
  rfl

end HasFile

end ContractTypings.FileTree
