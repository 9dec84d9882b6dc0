import ContractTypings.Proofs.ArtifactLayout

namespace ContractTypings

variable {files others : List Path}

/-- The components of a directory that holds all the files, directly or further down, as any other
such directory also holds it. -/
structure IsDeepest (files : List Path) (dir : List Path.Component) : Prop where
  holds : ∀ p ∈ files, dir <+: p.directoryComponents
  below : ∀ cs, (∀ p ∈ files, cs <+: p.directoryComponents) → cs <+: dir

theorem IsDeepest.unique {dir dir' : List Path.Component} (h : IsDeepest files dir)
    (h' : IsDeepest files dir') : dir = dir' :=
  (h'.below dir h.holds).eq_of_length_le (h.below dir' h'.holds).length_le

theorem isDeepest_commonAncestor (hne : files ≠ []) :
    IsDeepest files (commonAncestor files).components where
  holds p hp := by
    rw [Path.directoryComponents_eq]
    exact (prefix_commonAncestor_iff hne).mp List.prefix_rfl p hp
  below cs h := by
    simp only [Path.directoryComponents_eq] at h
    exact (prefix_commonAncestor_iff hne).mpr h

section SamePaths

variable (h : ∀ cs, cs ∈ others.map Path.components ↔ cs ∈ files.map Path.components)

include h

theorem prefix_directoryComponents_iff_of_same {cs : List Path.Component} :
    (∀ p ∈ others, cs <+: p.directoryComponents) ↔ ∀ p ∈ files, cs <+: p.directoryComponents := by
  have hmap : ∀ paths : List Path, (∀ p ∈ paths, cs <+: p.directoryComponents) ↔
      ∀ ds ∈ paths.map Path.components, cs <+: ds.dropLast := by
    intro paths
    simp only [List.forall_mem_map, Path.directoryComponents_eq]
  rw [hmap, hmap]
  simp only [h]

theorem IsDeepest.of_same {dir : List Path.Component} (hd : IsDeepest files dir) :
    IsDeepest others dir where
  holds := (prefix_directoryComponents_iff_of_same h).mpr hd.holds
  below cs hcs := hd.below cs ((prefix_directoryComponents_iff_of_same h).mp hcs)

theorem commonAncestor_congr : commonAncestor others = commonAncestor files := by
  have hnil : others = [] ↔ files = [] := by
    simp only [← List.map_eq_nil_iff (f := Path.components), List.eq_nil_iff_forall_not_mem, h]
  by_cases hne : files = []
  · rw [hne, hnil.mpr hne]
  · have hdeepest := (isDeepest_commonAncestor hne).of_same h
    rw [← ofComponents_commonAncestor others, ← ofComponents_commonAncestor files,
      (isDeepest_commonAncestor (mt hnil.mp hne)).unique hdeepest]

end SamePaths

/-- The common directory of some files leads to each of them, every directory that does so leads to
it, and it is the same for all lists of the same paths, whatever their order and repetitions and
however the paths are written. -/
theorem commonAncestor_deepest (hne : files ≠ []) :
    (∀ p ∈ files, (commonAncestor files).components <+: p.directoryComponents) ∧
    (∀ cs, (∀ p ∈ files, cs <+: p.directoryComponents) →
      cs <+: (commonAncestor files).components) ∧
    ∀ others : List Path,
      (∀ cs, cs ∈ others.map Path.components ↔ cs ∈ files.map Path.components) →
      commonAncestor others = commonAncestor files := by
  have hdeepest := isDeepest_commonAncestor hne
  exact ⟨hdeepest.holds, hdeepest.below, fun _ h => commonAncestor_congr h⟩

theorem commonAncestor_deepest_upwards :
    let files : List Path := [⟨"../abi/Token.sol/Token.json"⟩, ⟨"../abi/Vault.json"⟩]
    let others : List Path := [
      ⟨"../abi/Vault.json"⟩, ⟨"..//abi/Token.sol/./Token.json"⟩, ⟨"../abi/Vault.json"⟩]
    files ≠ [] ∧ commonAncestor files = ⟨"../abi"⟩ ∧
      (∀ p ∈ files, (commonAncestor files).components <+: p.directoryComponents) ∧
      commonAncestor others = ⟨"../abi"⟩ := by
  intro files others
  have hne : files ≠ [] := by simp [files]
  obtain ⟨hholds, -, hsame⟩ := commonAncestor_deepest hne
  have hfiles : commonAncestor files = ⟨"../abi"⟩ := by decide +kernel
  refine ⟨hne, hfiles, hholds, ?_⟩
  have hwritten : Path.components ⟨"..//abi/Token.sol/./Token.json"⟩ =
      Path.components ⟨"../abi/Token.sol/Token.json"⟩ := by
    decide +kernel
  rw [hsame others, hfiles]
  intro cs
  simp only [others, files, List.map_cons, List.map_nil, hwritten, List.mem_cons, List.not_mem_nil,
    or_false]
  rw [or_left_comm, or_self]

end ContractTypings
