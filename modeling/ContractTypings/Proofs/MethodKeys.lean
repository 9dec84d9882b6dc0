import ContractTypings.Proofs.Acceptance
import ContractTypings.Proofs.Declarations

namespace ContractTypings

open Abi Natspec Overloads TypeScript

def TypeScript.PropertyKey.property : PropertyKey → String
  | .ident name => name
  | .index position => toString position
  | .quoted text => text

theorem paren_mem_signature (name : String) (params : List Param) :
    '(' ∈ (signature name params).toList := by
  simp [signature]

namespace Contract

def functionNames (abi : Items) : List String :=
  (itemsOfType "function" abi).map Item.nameOrEmpty

def memberKey (items : Items) (i : Item) : PropertyKey :=
  if isOverloaded Item.nameOrEmpty items i then .quoted i.signature else .ident i.nameOrEmpty

section

variable {items : Items} {i j : Item}

theorem memberKey_of_shared (h : 1 < (items.map Item.nameOrEmpty).count i.nameOrEmpty) :
    memberKey items i = .quoted i.signature := by
  rw [memberKey, if_pos ((isOverloaded_iff _).mpr h)]

theorem memberKey_of_unique (h : (items.map Item.nameOrEmpty).count i.nameOrEmpty = 1) :
    memberKey items i = .ident i.nameOrEmpty := by
  have hnot : ¬ isOverloaded Item.nameOrEmpty items i = true := by
    rw [isOverloaded_iff, h]
    exact Nat.lt_irrefl 1
  rw [memberKey, if_neg hnot]

theorem property_ne (hp : ∀ i ∈ items, '(' ∉ i.nameOrEmpty.toList) (hi : i ∈ items)
    (hj : j ∈ items) (hs : i.signature ≠ j.signature) :
    (memberKey items i).property ≠ (memberKey items j).property := by
  -- a name and a signature differ by the parenthesis
  have hne : ∀ k ∈ items, ∀ l : Item, k.nameOrEmpty ≠ l.signature := by
    intro k hk l he
    apply hp k hk
    rw [he]
    exact paren_mem_signature _ _
  cases hio : isOverloaded Item.nameOrEmpty items i with
  | true =>
    cases hjo : isOverloaded Item.nameOrEmpty items j with
    | true =>
      simp only [memberKey, hio, hjo, ↓reduceIte]
      exact hs
    | false =>
      simp only [memberKey, hio, hjo, ↓reduceIte, Bool.false_eq_true]
      exact (hne j hj i).symm
  | false =>
    cases hjo : isOverloaded Item.nameOrEmpty items j with
    | true =>
      simp only [memberKey, hio, hjo, ↓reduceIte, Bool.false_eq_true]
      exact hne i hi j
    | false =>
      simp only [memberKey, hio, hjo, ↓reduceIte, Bool.false_eq_true]
      intro hn
      exact hs (congrArg Item.signature (eq_of_not_isOverloaded _ hi hj hn hio))

theorem nodup_properties (hp : ∀ i ∈ items, '(' ∉ i.nameOrEmpty.toList)
    (hs : (items.map Item.signature).Nodup) :
    (items.map fun i => (memberKey items i).property).Nodup := by
  apply List.pairwise_map.mpr
  apply List.Pairwise.imp_of_mem _ (List.pairwise_map.mp hs)
  intro i j hi hj h
  exact property_ne hp hi hj h

end

def methodOf (docs : Option Documentation) (functions : Items) (i : Item) : Method :=
  (Function.ofItem docs i).method (isOverloaded Item.nameOrEmpty functions i)

theorem key_methodOf (docs : Option Documentation) (functions : Items) (i : Item) :
    (methodOf docs functions i).key = memberKey functions i := rfl

/-- The `methods` group of an accepted contract has one member for each function of the ABI, those
of one name together. A function with a name of its own is found under it, each of several under its
signature, and no two under the same property unless a name has a parenthesis in it. -/
theorem methods_one_each {abi : Items} {path : Path} {docs : Option Documentation} {c : Contract}
    (h : Contract.ofAbi abi path docs = .ok c) :
    c.methods = (functionsInOrder abi).map (methodOf docs (itemsOfType "function" abi)) ∧
      .group "methods" (c.methods.map .method) ∈ c.members ∧
      (functionsInOrder abi).Perm (itemsOfType "function" abi) ∧
      (∀ i ∈ itemsOfType "function" abi,
        ((functionNames abi).count i.nameOrEmpty = 1 →
          (methodOf docs (itemsOfType "function" abi) i).key = .ident i.nameOrEmpty) ∧
        (1 < (functionNames abi).count i.nameOrEmpty →
          (methodOf docs (itemsOfType "function" abi) i).key = .quoted i.signature)) ∧
      ((∀ i ∈ itemsOfType "function" abi, '(' ∉ i.nameOrEmpty.toList) →
        (c.methods.map fun m => m.key.property).Nodup) := by
  obtain ⟨_, _, -, -, hd, hc⟩ := ofAbi_eq_ok_iff.mp h
  have hfunctions : c.functions = functionsOf docs abi := by rw [hd]
  have hmethods := methods_functionsOf hfunctions
  refine ⟨hmethods, ?_, functionsInOrder_perm abi, ?_, ?_⟩
  · simp [members]
  · intro i _
    rw [key_methodOf]
    exact ⟨memberKey_of_unique, memberKey_of_shared⟩
  · intro hp
    have hfamily := (clash?_eq_none_iff.mp hc).1 _ List.mem_cons_self
    rw [hfunctions, items_functionsOf, List.map_map] at hfamily
    have hperm := functionsInOrder_perm abi
    have hsigs := (hperm.map Item.signature).nodup_iff.mp hfamily
    rw [hmethods, List.map_map]
    exact (hperm.map _).nodup_iff.mpr (nodup_properties hp hsigs)

theorem methods_one_each_vault : ∃ c, Contract.ofAbi [
      { type := "function", name := some "f", inputs := [{ type := "uint" }] },
      { type := "function", name := some "g" },
      { type := "function", name := some "f", inputs := [{ type := "f(uint256)" }] }]
      ⟨"vaults/vault.json"⟩ none = .ok c ∧
    c.methods.map (·.key) = [.quoted "f(uint256)", .quoted "f(f(uint256))", .ident "g"] ∧
    (c.methods.map fun m => m.key.property).Nodup := by
  apply exists_ok_of_map (fun c => c.methods.map (·.key))
    [.quoted "f(uint256)", .quoted "f(f(uint256))", .ident "g"] (by decide +kernel)
  intro c hr hkeys
  exact ⟨hkeys, (methods_one_each hr).2.2.2.2 (by decide)⟩

end Contract

end ContractTypings
