import ContractTypings.Proofs.Acceptance
import ContractTypings.Proofs.Declarations

namespace ContractTypings.Contract

open Abi Natspec Overloads

theorem repeated?_eq_some {seen names : List String} {n : String}
    (h : repeated? seen names = some n) : n ∈ names ∧ (n ∈ seen ∨ 2 ≤ names.count n) := by
  induction names generalizing seen with
  | nil => cases h
  | cons m ms ih =>
    rw [repeated?] at h
    split at h
    next hm =>
      cases h
      exact ⟨List.mem_cons_self, Or.inl hm⟩
    · obtain ⟨hn, hs⟩ := ih h
      refine ⟨List.mem_cons_of_mem m hn, ?_⟩
      rcases hs with hs | hs
      · rcases List.mem_cons.mp hs with rfl | hs
        · right
          have := List.count_pos_iff.mpr hn
          rw [List.count_cons_self]
          omega
        · exact Or.inl hs
      · right
        have := List.count_le_count_cons (a := n) (b := m) (l := ms)
        omega

theorem exists_repeated? {names : List String} (h : ¬ names.Nodup) :
    ∃ n, repeated? [] names = some n ∧ 2 ≤ names.count n := by
  obtain ⟨n, hn⟩ : ∃ n, repeated? [] names = some n :=
    Option.ne_none_iff_exists'.mp fun he => h (repeated?_nil_eq_none_iff.mp he)
  refine ⟨n, hn, ?_⟩
  exact (repeated?_eq_some hn).2.resolve_left List.not_mem_nil

section

variable {c : Contract}

theorem clash?_of_functions (hf : ¬ (c.functions.items.map Function.signature).Nodup) :
    ∃ s, c.clash? = some (.signatureCollision c.name s) ∧
      2 ≤ (c.functions.items.map Function.signature).count s := by
  obtain ⟨s, hs, hc⟩ := exists_repeated? hf
  refine ⟨s, ?_, hc⟩
  rw [clash?, signatureFamilies, List.findSome?_cons, hs]

theorem clash?_of_events (hf : (c.functions.items.map Function.signature).Nodup)
    (he : ¬ ∀ group ∈ c.events.groups, (group.2.map Event.signature).Nodup) :
    ∃ group ∈ c.events.groups, ∃ s, c.clash? = some (.signatureCollision c.name s) ∧
      2 ≤ (group.2.map Event.signature).count s := by
  have hfound : (c.events.groups.map fun group => group.2.map Event.signature).findSome?
      (repeated? []) ≠ none := by
    intro h
    apply he
    intro group hg
    exact repeated?_nil_eq_none_iff.mp
      (List.findSome?_eq_none_iff.mp h _ (List.mem_map_of_mem hg))
  obtain ⟨s, hs⟩ := Option.ne_none_iff_exists'.mp hfound
  obtain ⟨family, hm, hr⟩ := List.exists_of_findSome?_eq_some hs
  obtain ⟨group, hg, rfl⟩ := List.mem_map.mp hm
  refine ⟨group, hg, s, ?_, (repeated?_eq_some hr).2.resolve_left List.not_mem_nil⟩
  have hfirst := repeated?_nil_eq_none_iff.mpr hf
  rw [clash?, signatureFamilies, List.findSome?_cons, hfirst]
  dsimp only
  rw [hs]

theorem findSome?_signatureFamilies_eq_none_iff :
    c.signatureFamilies.findSome? (repeated? []) = none ↔
      (c.functions.items.map Function.signature).Nodup ∧
        ∀ group ∈ c.events.groups, (group.2.map Event.signature).Nodup := by
  simp only [signatureFamilies, List.findSome?_eq_none_iff, List.forall_mem_cons,
    List.forall_mem_map, repeated?_nil_eq_none_iff]

variable (hf : (c.functions.items.map Function.signature).Nodup)
  (he : ∀ group ∈ c.events.groups, (group.2.map Event.signature).Nodup)

include hf he

theorem clash?_of_imports (hi : ¬ ∀ n ∈ c.declaredNames, n ∉ importedNames) :
    ∃ n, c.declaredNames.find? (· ∈ importedNames) = some n ∧
      c.clash? = some (.shadowedImport c.name n) := by
  have hp : (fun n => decide (n ∈ importedNames)) = isImported := by
    funext n
    rw [Bool.eq_iff_iff, decide_eq_true_eq, isImported_iff]
  have hfound : c.declaredNames.find? isImported ≠ none := by
    intro h
    apply hi
    intro n hn hm
    exact List.find?_eq_none.mp h n hn (isImported_iff.mpr hm)
  obtain ⟨n, hn⟩ := Option.ne_none_iff_exists'.mp hfound
  refine ⟨n, by rw [hp, hn], ?_⟩
  rw [clash?, findSome?_signatureFamilies_eq_none_iff.mpr ⟨hf, he⟩, hn]

theorem clash?_of_declaredNames (hi : ∀ n ∈ c.declaredNames, n ∉ importedNames)
    (hd : ¬ c.declaredNames.Nodup) :
    ∃ n, c.clash? = some (.signatureCollision c.name n) ∧ 2 ≤ c.declaredNames.count n := by
  obtain ⟨n, hn, hc⟩ := exists_repeated? hd
  refine ⟨n, ?_, hc⟩
  have hnone : c.declaredNames.find? isImported = none := by
    apply List.find?_eq_none.mpr
    intro m hm himp
    exact hi m hm (isImported_iff.mp himp)
  rw [clash?, findSome?_signatureFamilies_eq_none_iff.mpr ⟨hf, he⟩, hnone, hn]
  rfl

end

def functionSignatures (abi : Items) : List String :=
  (itemsOfType "function" abi).map Item.signature

def eventSignatures (name : String) (abi : Items) : List String :=
  (named Item.nameOrEmpty name (itemsOfType "event" abi)).map Item.signature

def typeNamesOf (name : String) (abi : Items) : List String :=
  name :: (eventsInOrder abi).map (Item.typeName (itemsOfType "event" abi))

structure CollisionFree (name : String) (abi : Items) : Prop where
  functions : (functionSignatures abi).Nodup
  events : ∀ event, (eventSignatures event abi).Nodup
  imports : ∀ n ∈ typeNamesOf name abi, n ∉ importedNames
  types : (typeNamesOf name abi).Nodup

def described (name : String) (path : Path) (docs : Option Documentation) (abi : Items) :
    Contract :=
  ⟨name, path.directoryNames, functionsOf docs abi, eventsOf abi⟩

section

variable (name : String) (path : Path) (docs : Option Documentation) (abi : Items)

theorem signatures_functions_perm :
    ((described name path docs abi).functions.items.map Function.signature).Perm
      (functionSignatures abi) := by
  simp only [described, items_functionsOf, List.map_map]
  exact (functionsInOrder_perm abi).map _

theorem nodup_signatures_events_iff :
    (∀ group ∈ (described name path docs abi).events.groups,
        (group.2.map Event.signature).Nodup) ↔
      ∀ event, (eventSignatures event abi).Nodup := by
  simp only [described, groups_eventsOf, List.forall_mem_map, List.map_map]
  constructor
  · intro h event
    by_cases hm : event ∈ namesOf Item.nameOrEmpty (itemsOfType "event" abi)
    · exact h event hm
    · -- an event that the ABI does not name has no signatures
      have hnil : named Item.nameOrEmpty event (itemsOfType "event" abi) = [] := by
        apply List.eq_nil_iff_forall_not_mem.mpr
        intro i hi
        exact hm ((mem_namesOf _).mpr ⟨i, (mem_named _).mp hi⟩)
      rw [eventSignatures, hnil]
      exact List.nodup_nil
  · intro h event _
    exact h event

theorem declaredNames_described :
    (described name path docs abi).declaredNames = typeNamesOf name abi := by
  rw [declaredNames, described, taggedEvents_eventsOf, List.map_map]
  rfl

theorem clash?_described_eq_none_iff :
    (described name path docs abi).clash? = none ↔ CollisionFree name abi := by
  rw [clash?_eq_none_iff, declaredNames_described]
  simp only [signatureFamilies, List.forall_mem_cons, List.forall_mem_map,
    (signatures_functions_perm name path docs abi).nodup_iff]
  rw [nodup_signatures_events_iff]
  constructor
  · rintro ⟨⟨hf, he⟩, hi, ht⟩
    exact ⟨hf, he, hi, ht⟩
  · rintro ⟨hf, he, hi, ht⟩
    exact ⟨⟨hf, he⟩, hi, ht⟩

end

section

variable {name : String} {path : Path} {docs : Option Documentation} {abi : Items}

theorem ofAbi_eq_error {stem : String} (hs : path.stem? = some stem) (hn : name? stem = some name)
    {failure : Failure} (h : (described name path docs abi).clash? = some failure) :
    ofAbi abi path docs = .error failure := by
  unfold described at h
  unfold ofAbi
  simp only [hs, hn, h]

theorem ofAbi_eq_ok {stem : String} (hs : path.stem? = some stem) (hn : name? stem = some name)
    (h : (described name path docs abi).clash? = none) :
    ofAbi abi path docs = .ok (described name path docs abi) := by
  rw [ofAbi_eq_ok_iff]
  exact ⟨stem, name, hs, hn, rfl, h⟩

theorem clash?_congr {c c' : Contract} (hn : c.name = c'.name)
    (hs : c.signatureFamilies = c'.signatureFamilies) (hd : c.declaredNames = c'.declaredNames) :
    c.clash? = c'.clash? := by
  simp only [clash?, hn, hs, hd]

theorem ofAbi_of_path (path : Path) :
    (∃ e, ∀ abi docs, ofAbi abi path docs = .error e) ∨
      ∃ name, ∀ abi docs, ofAbi abi path docs =
        match (described name path docs abi).clash? with
        | some e => .error e
        | none => .ok (described name path docs abi) := by
  cases hs : path.stem? with
  | none =>
    refine Or.inl ⟨.missingFileName path, fun abi docs => ?_⟩
    simp only [ofAbi, hs]
  | some stem =>
    cases hn : name? stem with
    | none =>
      refine Or.inl ⟨.invalidContractName stem, fun abi docs => ?_⟩
      simp only [ofAbi, hs, hn]
    | some name =>
      refine Or.inr ⟨name, fun abi docs => ?_⟩
      cases hc : (described name path docs abi).clash? with
      | some e => exact ofAbi_eq_error hs hn hc
      | none => exact ofAbi_eq_ok hs hn hc

/-- An ABI is accepted for a file that names a contract just if it is free of collisions. Else the
function signatures come first, then those of the events of a name, then the imports, then the
declared types: the failure names what is repeated, or the first import that is shadowed. -/
theorem ofAbi_outcome {stem : String} (hs : path.stem? = some stem)
    (hn : name? stem = some name) :
    ((∃ c, ofAbi abi path docs = .ok c) ↔ CollisionFree name abi) ∧
      (¬ (functionSignatures abi).Nodup →
        ∃ s, ofAbi abi path docs = .error (.signatureCollision name s) ∧
          2 ≤ (functionSignatures abi).count s) ∧
      ((functionSignatures abi).Nodup → ¬ (∀ event, (eventSignatures event abi).Nodup) →
        ∃ event s, ofAbi abi path docs = .error (.signatureCollision name s) ∧
          2 ≤ (eventSignatures event abi).count s) ∧
      ((functionSignatures abi).Nodup → (∀ event, (eventSignatures event abi).Nodup) →
        ¬ (∀ n ∈ typeNamesOf name abi, n ∉ importedNames) →
        ∃ n, (typeNamesOf name abi).find? (· ∈ importedNames) = some n ∧
          ofAbi abi path docs = .error (.shadowedImport name n)) ∧
      ((functionSignatures abi).Nodup → (∀ event, (eventSignatures event abi).Nodup) →
        (∀ n ∈ typeNamesOf name abi, n ∉ importedNames) → ¬ (typeNamesOf name abi).Nodup →
        ∃ n, ofAbi abi path docs = .error (.signatureCollision name n) ∧
          2 ≤ (typeNamesOf name abi).count n) := by
  have hfunctions := signatures_functions_perm name path docs abi
  have hevents := nodup_signatures_events_iff name path docs abi
  refine ⟨?_, ?_, ?_, ?_, ?_⟩
  · rw [← clash?_described_eq_none_iff name path docs abi]
    constructor
    · rintro ⟨c, hc⟩
      cases h : (described name path docs abi).clash? with
      | none => rfl
      | some failure =>
        rw [ofAbi_eq_error hs hn h] at hc
        cases hc
    · intro h
      exact ⟨_, ofAbi_eq_ok hs hn h⟩
  · intro hf
    rw [← hfunctions.nodup_iff] at hf
    obtain ⟨s, hclash, hcount⟩ := clash?_of_functions hf
    rw [hfunctions.count_eq] at hcount
    exact ⟨s, ofAbi_eq_error hs hn hclash, hcount⟩
  · intro hf he
    rw [← hfunctions.nodup_iff] at hf
    rw [← hevents] at he
    obtain ⟨group, hg, s, hclash, hcount⟩ := clash?_of_events hf he
    refine ⟨group.1, s, ofAbi_eq_error hs hn hclash, ?_⟩
    rw [described, groups_eventsOf] at hg
    obtain ⟨event, -, rfl⟩ := List.mem_map.mp hg
    rw [List.map_map] at hcount
    exact hcount
  · intro hf he hi
    rw [← hfunctions.nodup_iff] at hf
    rw [← hevents] at he
    rw [← declaredNames_described name path docs abi] at hi ⊢
    obtain ⟨n, hfirst, hclash⟩ := clash?_of_imports hf he hi
    exact ⟨n, hfirst, ofAbi_eq_error hs hn hclash⟩
  · intro hf he hi hd
    rw [← hfunctions.nodup_iff] at hf
    rw [← hevents] at he
    rw [← declaredNames_described name path docs abi] at hi hd ⊢
    obtain ⟨n, hclash, hcount⟩ := clash?_of_declaredNames hf he hi hd
    exact ⟨n, ofAbi_eq_error hs hn hclash, hcount⟩

end

theorem ofAbi_outcome_alias :
    Path.stem? ⟨"vaults/vault.json"⟩ = some "vault" ∧ name? "vault" = some "Vault" ∧
      ∃ s, ofAbi [
          { type := "function", name := some "f", inputs := [{ name := "a", type := "uint" }] },
          { type := "event", name := some "f", inputs := [{ type := "uint" }] },
          { type := "function", name := some "f", inputs := [{ name := "b", type := "uint256" }] }]
          ⟨"vaults/vault.json"⟩ none = .error (.signatureCollision "Vault" s) ∧
        2 ≤ (functionSignatures [
          { type := "function", name := some "f", inputs := [{ name := "a", type := "uint" }] },
          { type := "event", name := some "f", inputs := [{ type := "uint" }] },
          { type := "function", name := some "f",
            inputs := [{ name := "b", type := "uint256" }] }]).count s := by
  have hs : Path.stem? ⟨"vaults/vault.json"⟩ = some "vault" := by decide +kernel
  have hn : name? "vault" = some "Vault" := by decide +kernel
  exact ⟨hs, hn, (ofAbi_outcome hs hn).2.1 (by decide +kernel)⟩

end ContractTypings.Contract
