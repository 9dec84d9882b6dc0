import ContractTypings.Contract.Basic

namespace ContractTypings.Contract

open Abi Natspec

theorem exists_ok_of_map {ε α β : Type} {r : Except ε α} {P : α → Prop} (f : α → β) (b : β)
    (hr : r.toOption.map f = some b) (h : ∀ a, r = .ok a → f a = b → P a) :
    ∃ a, r = .ok a ∧ P a := by
  cases r with
  | error e => cases hr
  | ok a => exact ⟨a, rfl, h a rfl (Option.some.inj hr)⟩

theorem repeated?_eq_none_iff {seen names : List String} :
    repeated? seen names = none ↔ names.Nodup ∧ ∀ n ∈ names, n ∉ seen := by
  induction names generalizing seen with
  | nil => simp [repeated?]
  | cons n ns ih =>
    by_cases hn : n ∈ seen
    · simp [repeated?, hn]
    · simp only [repeated?, hn, ↓reduceIte, ih, List.nodup_cons, List.mem_cons, not_or]
      constructor
      · rintro ⟨hd, hs⟩
        refine ⟨⟨fun hm => (hs n hm).1 rfl, hd⟩, fun m hm => ?_⟩
        rcases hm with rfl | hm
        · exact hn
        · exact (hs m hm).2
      · rintro ⟨⟨hm, hd⟩, hs⟩
        exact ⟨hd, fun m hm' => ⟨fun he => hm (he ▸ hm'), hs m (Or.inr hm')⟩⟩

theorem repeated?_nil_eq_none_iff {names : List String} :
    repeated? [] names = none ↔ names.Nodup := by
  simp [repeated?_eq_none_iff]

def importedNames : List String := "BigNumber" :: packageTypes.map Prod.fst ++ sharedTypes

theorem importedNames_nodup : importedNames.Nodup := by decide

theorem isImported_iff {name : String} : isImported name = true ↔ name ∈ importedNames := by
  simp only [isImported, importedNames, packageTypes, sharedTypes, Bool.or_eq_true, beq_iff_eq,
    List.any_cons, List.any_nil, List.contains_eq_mem, decide_eq_true_eq, List.map_cons,
    List.map_nil, List.mem_append, List.mem_cons, List.not_mem_nil, Bool.or_false, or_false,
    eq_comm (a := name)]

theorem clash?_eq_none_iff {c : Contract} :
    c.clash? = none ↔ (∀ family ∈ c.signatureFamilies, family.Nodup) ∧
      (∀ n ∈ c.declaredNames, n ∉ importedNames) ∧ c.declaredNames.Nodup := by
  simp only [← repeated?_nil_eq_none_iff, ← isImported_iff, ← List.findSome?_eq_none_iff,
    ← List.find?_eq_none]
  unfold clash?
  cases c.signatureFamilies.findSome? (repeated? []) with
  | some s => simp
  | none => cases c.declaredNames.find? isImported <;> simp

theorem ofAbi_eq_ok_iff {abi : Items} {path : Path} {docs : Option Documentation} {c : Contract} :
    ofAbi abi path docs = .ok c ↔ ∃ stem name, path.stem? = some stem ∧ name? stem = some name ∧
      c = ⟨name, path.directoryNames, functionsOf docs abi, eventsOf abi⟩ ∧ c.clash? = none := by
  unfold ofAbi
  cases hs : path.stem? with
  | none => simp
  | some stem =>
    cases hn : name? stem with
    | none => simp [hn]
    | some name =>
      simp only [hn, Option.some.injEq, exists_eq_left', exists_and_left]
      split
      next failure hc =>
        simp only [reduceCtorEq, false_iff]
        rintro ⟨rfl, hclash⟩
        rw [hc] at hclash
        cases hclash
      next hc =>
        constructor
        · rintro ⟨⟩
          exact ⟨rfl, hc⟩
        · rintro ⟨rfl, -⟩
          rfl

end ContractTypings.Contract
