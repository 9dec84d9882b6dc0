import ContractTypings.Proofs.ModulePlaces
import ContractTypings.Proofs.OrderedSet
import ContractTypings.Proofs.Walk
import Mathlib.Data.List.Infix

namespace ContractTypings

open TypeScript

namespace Barrel

theorem withOuter_eq_inits (directories : List String) :
    withOuter directories = directories.inits := by
  apply List.ext_getElem
  · simp [withOuter]
  · intro n h h'
    simp [withOuter, List.getElem_inits]

theorem mem_directoriesOf {places : List ModulePlace} {d : List String} :
    d ∈ directoriesOf places ↔ ∃ m ∈ places, d <+: m.directories := by
  simp only [directoriesOf, isStrictOrder_names.mem_orderedSet, List.mem_flatMap,
    withOuter_eq_inits, List.mem_inits]

theorem pairwise_directoriesOf (places : List ModulePlace) :
    (directoriesOf places).Pairwise (· < ·) := by
  have h := isStrictOrder_names.pairwise_orderedSet
    (places.flatMap fun m => withOuter m.directories)
  simp only [decide_eq_true_eq] at h
  exact h

theorem directoriesOf_congr {ms ns : List ModulePlace} (h : ∀ m, m ∈ ms ↔ m ∈ ns) :
    directoriesOf ms = directoriesOf ns := by
  apply isStrictOrder_names.orderedSet_congr
  intro d
  simp only [List.mem_flatMap, h]

theorem mem_of_directories {places : List ModulePlace} {d : List String} {x : String} :
    x ∈ (Barrel.of places d).directories ↔ d ++ [x] ∈ directoriesOf places := by
  simp only [Barrel.of, mem_namesInOrder, List.mem_filterMap, mem_directoriesOf]
  apply exists_congr
  intro m
  apply and_congr_right
  intro _
  unfold child?
  split
  next hd =>
    obtain ⟨rest, hr⟩ := List.isPrefixOf_iff_prefix.mp hd
    rw [← hr, List.getElem?_append_right (Nat.le_refl _), List.prefix_append_right_inj]
    cases rest <;> simp [eq_comm]
  next hd =>
    constructor
    · intro h
      cases h
    · intro h
      exact absurd (List.isPrefixOf_iff_prefix.mpr ((List.prefix_append d [x]).trans h)) hd

theorem mem_of_modules {places : List ModulePlace} {d : List String} {n : String} :
    n ∈ (Barrel.of places d).modules ↔ ⟨d, n⟩ ∈ places := by
  simp only [Barrel.of, mem_namesInOrder, List.mem_map, List.mem_filter, decide_eq_true_eq]
  constructor
  · rintro ⟨m, ⟨hm, rfl⟩, rfl⟩
    exact hm
  · intro h
    exact ⟨⟨d, n⟩, ⟨h, rfl⟩, rfl⟩

theorem pairwise_of_directories (places : List ModulePlace) (d : List String) :
    (Barrel.of places d).directories.Pairwise (· < ·) :=
  pairwise_namesInOrder _

theorem pairwise_of_modules (places : List ModulePlace) (d : List String) :
    (Barrel.of places d).modules.Pairwise (· < ·) :=
  pairwise_namesInOrder _

theorem of_congr {ms ns : List ModulePlace} (h : ∀ m, m ∈ ms ↔ m ∈ ns) (d : List String) :
    Barrel.of ms d = Barrel.of ns d := by
  unfold Barrel.of
  congr 1
  · apply namesInOrder_congr
    intro x
    simp only [List.mem_filterMap, h]
  · apply namesInOrder_congr
    intro n
    simp only [List.mem_map, List.mem_filter, h]

end Barrel

abbrev Index := List (List String × Module)

namespace Index

def directories (index : Index) : List (List String) := index.map Prod.fst

def file (outDir : Path) (e : List String × Module) : GeneratedFile :=
  ⟨(e.1.foldl Path.joinName outDir).joinName Barrel.fileName, e.2.render⟩

structure IsGraph (index : Index) (places : List ModulePlace) : Prop where
  ordered : index.directories.Pairwise (· < ·)
  mem_directories : ∀ d, d ∈ index.directories ↔ ∃ m ∈ places, d <+: m.directories
  declarations : ∀ d module, (d, module) ∈ index → ∃ children names : List String,
    children.Pairwise (· < ·) ∧ (∀ x, x ∈ children ↔ d ++ [x] ∈ index.directories) ∧
    names.Pairwise (· < ·) ∧ (∀ n, n ∈ names ↔ ⟨d, n⟩ ∈ places) ∧
    module.declarations =
      children.map (fun x => .importTypes (.all (Contract.namespaceName x)) ("./" ++ x)) ++
        children.map (fun x => .exportTypes [Contract.namespaceName x] none) ++
        names.map fun n => .exportTypes [n] (some ("./" ++ n))

/-- The modules that the index of a directory leads to: those that it exports, and those that the
index of a directory leads to that it imports and exports as a namespace. -/
inductive Leads (index : Index) : List String → ModulePlace → Prop
  | here {d : List String} {n : String} {module : Module} (hm : (d, module) ∈ index)
      (he : .exportTypes [n] (some ("./" ++ n)) ∈ module.declarations) : Leads index d ⟨d, n⟩
  | into {d : List String} {x : String} {m : ModulePlace} {module : Module}
      (hm : (d, module) ∈ index)
      (hi : .importTypes (.all (Contract.namespaceName x)) ("./" ++ x) ∈ module.declarations)
      (he : .exportTypes [Contract.namespaceName x] none ∈ module.declarations)
      (hl : Leads index (d ++ [x]) m) : Leads index d m

theorem mem_directories {index : Index} {d : List String} :
    d ∈ index.directories ↔ ∃ module, (d, module) ∈ index := by
  constructor
  · intro h
    obtain ⟨⟨_, module⟩, hm, rfl⟩ := List.mem_map.mp h
    exact ⟨module, hm⟩
  · rintro ⟨module, hm⟩
    exact List.mem_map_of_mem hm

namespace IsGraph

variable {index : Index} {places : List ModulePlace}

theorem leads (h : IsGraph index places) {d rest : List String} {n : String}
    (hm : ⟨d ++ rest, n⟩ ∈ places) : Leads index d ⟨d ++ rest, n⟩ := by
  -- one directory further down for each name that is left
  induction rest generalizing d with
  | nil =>
    rw [List.append_nil] at hm ⊢
    obtain ⟨module, hi⟩ := Index.mem_directories.mp
      ((h.mem_directories d).mpr ⟨_, hm, List.prefix_rfl⟩)
    obtain ⟨children, names, -, -, -, hn, hd⟩ := h.declarations d module hi
    apply Leads.here hi
    rw [hd]
    apply List.mem_append_right
    exact List.mem_map_of_mem ((hn n).mpr hm)
  | cons x rest ih =>
    have ha : d ++ x :: rest = (d ++ [x]) ++ rest := by simp
    obtain ⟨module, hi⟩ := Index.mem_directories.mp
      ((h.mem_directories d).mpr ⟨_, hm, List.prefix_append _ _⟩)
    obtain ⟨children, names, -, hc, -, -, hd⟩ := h.declarations d module hi
    rw [ha] at hm ⊢
    have hx : x ∈ children :=
      (hc x).mpr ((h.mem_directories _).mpr ⟨_, hm, List.prefix_append _ _⟩)
    apply Leads.into hi
    · rw [hd]
      apply List.mem_append_left
      apply List.mem_append_left
      exact List.mem_map_of_mem hx
    · rw [hd]
      apply List.mem_append_left
      apply List.mem_append_right
      exact List.mem_map_of_mem hx
    · exact ih hm

theorem leads_iff (h : IsGraph index places) {d : List String} {m : ModulePlace} :
    Leads index d m ↔ m ∈ places ∧ d <+: m.directories := by
  constructor
  · intro hl
    induction hl with
    | @here d n module hi he =>
      obtain ⟨children, names, -, -, -, hn, hd⟩ := h.declarations d module hi
      have hm : n ∈ names := by simpa [hd] using he
      exact ⟨(hn n).mp hm, List.prefix_rfl⟩
    | into _ _ _ _ ih => exact ⟨ih.1, (List.prefix_append _ _).trans ih.2⟩
  · rintro ⟨hm, rest, hr⟩
    obtain ⟨directories, n⟩ := m
    subst hr
    exact h.leads hm

end IsGraph

theorem isGraph_of (places : List ModulePlace) :
    IsGraph ((Barrel.directoriesOf places).map fun d => (d, (Barrel.of places d).module))
      places := by
  have hd : directories ((Barrel.directoriesOf places).map fun d =>
      (d, (Barrel.of places d).module)) = Barrel.directoriesOf places := by
    rw [directories, List.map_map]
    exact List.map_id _
  constructor
  · rw [hd]
    exact Barrel.pairwise_directoriesOf places
  · intro d
    rw [hd]
    exact Barrel.mem_directoriesOf
  · intro d module h
    obtain ⟨_, -, he⟩ := List.mem_map.mp h
    cases he
    refine ⟨(Barrel.of places d).directories, (Barrel.of places d).modules,
      Barrel.pairwise_of_directories places d, ?_, Barrel.pairwise_of_modules places d, ?_, rfl⟩
    · intro x
      rw [hd]
      exact Barrel.mem_of_directories
    · intro n
      exact Barrel.mem_of_modules

end Index

namespace Generator

abbrev placesOf (g : Generator) (generated : List GeneratedFile) : List ModulePlace :=
  generated.filterMap fun f => ModulePlace.ofPath? (f.path.relativeTo g.outDirPath)

theorem placesOf_eq (g : Generator) (generated : List GeneratedFile) :
    g.placesOf generated = (generated.map (·.path)).filterMap fun p =>
      ModulePlace.ofPath? (p.relativeTo g.outDirPath) := by
  simp only [placesOf, List.filterMap_map, Function.comp_def]

theorem paths_finish (g : Generator) (generated : List GeneratedFile) :
    (g.finish generated).map (·.path) = g.outDirPath.joinName SharedTypes.fileName ::
      (Barrel.directoriesOf (g.placesOf generated)).map fun d =>
        (d.foldl Path.joinName g.outDirPath).joinName Barrel.fileName := by
  rw [finish, List.map_cons, List.map_map]
  rfl

theorem finish_congr (g : Generator) {fs gs : List GeneratedFile} (h : ∀ f, f ∈ fs ↔ f ∈ gs) :
    g.finish fs = g.finish gs := by
  have hm : ∀ m, m ∈ g.placesOf fs ↔ m ∈ g.placesOf gs := by
    intro m
    simp only [placesOf, List.mem_filterMap, h]
  have hd := Barrel.directoriesOf_congr hm
  have ho := Barrel.of_congr hm
  unfold placesOf at hd ho
  simp only [finish, hd, ho]

theorem mem_placesOf {g : Generator} {generated : List GeneratedFile}
    (h : ∀ f ∈ generated, ∃ m : ModulePlace, m.IsPlain ∧ f.path = m.file g.outDirPath) :
    (∀ m ∈ g.placesOf generated, m.IsPlain) ∧
      generated.map (·.path) = (g.placesOf generated).map (·.file g.outDirPath) := by
  induction generated with
  | nil => exact ⟨by simp, rfl⟩
  | cons f fs ih =>
    obtain ⟨⟨m, hm, hp⟩, hs⟩ := List.forall_mem_cons.mp h
    have ho : ModulePlace.ofPath? (f.path.relativeTo g.outDirPath) = some m := by
      rw [hp, ModulePlace.ofPath?_file hm]
    obtain ⟨hi, he⟩ := ih hs
    have hc : g.placesOf (f :: fs) = m :: g.placesOf fs := List.filterMap_cons_some ho
    rw [hc]
    constructor
    · exact List.forall_mem_cons.mpr ⟨hm, hi⟩
    · rw [List.map_cons, List.map_cons, hp, he]

/-- The last phase of a run adds the shared types and the graph of the modules, whichever way these
are listed. -/
theorem finish_eq_index {g : Generator} {generated : List GeneratedFile}
    (h : ∀ f ∈ generated, ∃ t p contents, g.transform t p contents = .ok (some f)) :
    ∃ (places : List ModulePlace) (index : Index), (∀ m ∈ places, m.IsPlain) ∧
      generated.map (·.path) = places.map (·.file g.outDirPath) ∧ index.IsGraph places ∧
      (∀ m, m ∈ places ↔ index.Leads [] m) ∧
      g.finish generated = ⟨g.outDirPath.joinName "types.ts", SharedTypes.source⟩ ::
        index.map (Index.file g.outDirPath) ∧
      ∀ others : List GeneratedFile, (∀ f, f ∈ others ↔ f ∈ generated) →
        g.finish others = g.finish generated := by
  have hf : ∀ f ∈ generated, ∃ m : ModulePlace, m.IsPlain ∧ f.path = m.file g.outDirPath := by
    intro f hf
    obtain ⟨t, p, contents, ht⟩ := h f hf
    exact exists_place_of_transform ht
  obtain ⟨hp, hm⟩ := mem_placesOf hf
  have hg := Index.isGraph_of (g.placesOf generated)
  refine ⟨_, _, hp, hm, hg, ?_, ?_, ?_⟩
  · intro m
    rw [hg.leads_iff]
    exact (and_iff_left List.nil_prefix).symm
  · rw [List.map_map]
    rfl
  · intro others ho
    exact g.finish_congr ho

theorem finish_eq_index_vaults : ∃ (g : Generator) (generated : List GeneratedFile),
    generated.map (·.path) = [⟨"out/vaults/v1/Token.ts"⟩, ⟨"out/Vault.ts"⟩] ∧
    (∀ f ∈ generated, ∃ t p contents, g.transform t p contents = .ok (some f)) ∧
    ∃ (places : List ModulePlace) (index : Index), (∀ m ∈ places, m.IsPlain) ∧
      generated.map (·.path) = places.map (·.file g.outDirPath) ∧ index.IsGraph places ∧
      (∀ m, m ∈ places ↔ index.Leads [] m) ∧
      g.finish generated = ⟨g.outDirPath.joinName "types.ts", SharedTypes.source⟩ ::
        index.map (Index.file g.outDirPath) ∧
      ∀ others : List GeneratedFile, (∀ f, f ∈ others ↔ f ∈ generated) →
        g.finish others = g.finish generated := by
  have hr : ∀ p : Path, p.isAbsolute = true → [[], "in".toList] <+: Path.segments p.text →
      FileTree.resolve ⟨[], []⟩ p = p := by
    intro p ha hp
    exact FileTree.resolve_of_absent ha hp (by decide) rfl
  let g : Generator := { config := { outDir := some ⟨"out"⟩, inputDir := some ⟨"/in"⟩ } }
  have hp : ∀ p : Path, p.isAbsolute = true → [[], "in".toList] <+: Path.segments p.text →
      g.placeOf ⟨[], []⟩ p = p.relativeTo ⟨"/in"⟩ := by
    intro p ha hp
    have hj : Path.join ⟨""⟩ p = p := by rw [Path.join, if_pos ha]
    have hi : Path.join ⟨""⟩ ⟨"/in"⟩ = ⟨"/in"⟩ := by decide
    simp [g, placeOf, layout, Config.layout, Config.resolve, Config.inputRoot, Layout.get?, hj, hi,
      hr p ha hp, hr ⟨"/in"⟩ (by decide) (by decide)]
  obtain ⟨token, ht, hpt⟩ : ∃ f, g.transform ⟨[], []⟩ ⟨"/in/vaults/v1/token.json"⟩
      "[\x7b\"type\": \"fallback\"\x7d]" = .ok (some f) ∧ f.path = ⟨"out/vaults/v1/Token.ts"⟩ := by
    apply exists_of_path
    rw [transform, hp _ (by decide) (by decide)]
    decide +kernel
  obtain ⟨vault, hv, hpv⟩ : ∃ f, g.transform ⟨[], []⟩ ⟨"/in/Vault.json"⟩
      "[\x7b\"type\": \"fallback\"\x7d]" = .ok (some f) ∧ f.path = ⟨"out/Vault.ts"⟩ := by
    apply exists_of_path
    rw [transform, hp _ (by decide) (by decide)]
    decide +kernel
  have h : ∀ f ∈ [token, vault], ∃ t p contents, g.transform t p contents = .ok (some f) := by
    intro f hf
    rcases List.mem_pair.mp hf with rfl | rfl
    · exact ⟨_, _, _, ht⟩
    · exact ⟨_, _, _, hv⟩
  exact ⟨g, [token, vault], by rw [← hpt, ← hpv]; rfl, h, finish_eq_index h⟩

end Generator

end ContractTypings
