import ContractTypings.Proofs.ContractName
import ContractTypings.Proofs.DecodedRecords

namespace ContractTypings

open Abi Natspec Overloads TypeScript

theorem underscore_mem_kindSymbols {ps : List Param} (h : ps ≠ []) :
    '_' ∈ (kindSymbols ps).toList := by
  cases ps with
  | nil => exact absurd rfl h
  | cons p ps => simp [kindSymbols]

theorem signatureSymbol_eq_iff_of_word {name n : String} {ps : List Param}
    (hn : '_' ∉ n.toList) : signatureSymbol name ps = n ↔ ps = [] ∧ name = n := by
  cases ps with
  | nil => simp [signatureSymbol, kindSymbols]
  | cons p ps =>
    simp only [reduceCtorEq, false_and, iff_false]
    rintro rfl
    apply hn
    rw [signatureSymbol, String.toList_append]
    exact List.mem_append_right _ (underscore_mem_kindSymbols (List.cons_ne_nil p ps))

theorem ofComponents_eq_nil_iff {cs : List Component} : Param.ofComponents cs = [] ↔ cs = [] := by
  cases cs <;> simp [Param.ofComponents]

/-- One of the events goes by a name alone: no other has it, or it has no parameters that its symbol
would name. -/
def NamesType (events : Items) (n : String) : Prop :=
  ∃ i ∈ events, i.nameOrEmpty = n ∧
    (i.inputs = [] ∨ (events.map Item.nameOrEmpty).count n = 1)

instance (events : Items) (n : String) : Decidable (NamesType events n) :=
  inferInstanceAs (Decidable (∃ i ∈ events, _))

theorem isOverloaded_eq_false_iff {events : Items} {i : Item} (hi : i ∈ events) :
    isOverloaded Item.nameOrEmpty events i = false ↔
      (events.map Item.nameOrEmpty).count i.nameOrEmpty = 1 := by
  have hpos : 0 < (events.map Item.nameOrEmpty).count i.nameOrEmpty :=
    List.count_pos_iff.mpr (List.mem_map_of_mem hi)
  rw [← Bool.not_eq_true, isOverloaded_iff]
  omega

theorem typeName_eq_iff {events : Items} {i : Item} {n : String} (hi : i ∈ events)
    (hn : '_' ∉ n.toList) : i.typeName events = n ↔ i.nameOrEmpty = n ∧
      (i.inputs = [] ∨ (events.map Item.nameOrEmpty).count n = 1) := by
  have hsingle := isOverloaded_eq_false_iff hi
  unfold Item.typeName
  cases ho : isOverloaded Item.nameOrEmpty events i with
  | true =>
    rw [if_pos rfl, signatureSymbol_eq_iff_of_word hn, ofComponents_eq_nil_iff, and_comm]
    apply and_congr_right
    rintro rfl
    simp [← hsingle, ho]
  | false =>
    rw [if_neg Bool.false_ne_true]
    apply (and_iff_left_of_imp _).symm
    rintro rfl
    exact Or.inr (hsingle.mp ho)

theorem predefined_words : ∀ n ∈ predefined, '_' ∉ n.toList ∧
    n.toList.head?.all fun c => 0x61 ≤ c.toNat ∧ c.toNat ≤ 0x7A := by
  decide

theorem predefined_not_imported : ∀ n ∈ predefined, n ∉ Contract.importedNames := by decide

namespace Contract

theorem name?_not_predefined {stem name : String} (h : name? stem = some name) :
    name ∉ predefined := by
  intro hmem
  obtain ⟨c, cs, hcs⟩ :=
    List.exists_cons_of_ne_nil (l := name.toList) (by simpa using name?_ne_empty h)
  have hc : name.toList.head? = some c := by rw [hcs, List.head?_cons]
  have hsmall : 0x61 ≤ c.toNat ∧ c.toNat ≤ 0x7A := by
    simpa [hc] using (predefined_words name hmem).2
  have hlarge := head_name? h hc
  omega

section

variable {abi : Items} {c : Contract} {n : String}

theorem mem_valueTypeNames_iff (h : c.events = eventsOf abi) (hn : '_' ∉ n.toList) :
    n ∈ c.valueTypeNames ↔ NamesType (itemsOfType "event" abi) n := by
  have hperm := grouped_perm Item.nameOrEmpty (itemsOfType "event" abi)
  rw [valueTypeNames_eq h, List.mem_map]
  constructor
  · rintro ⟨i, hi, htype⟩
    have hi := hperm.mem_iff.mp hi
    exact ⟨i, hi, (typeName_eq_iff hi hn).mp htype⟩
  · rintro ⟨i, hi, htype⟩
    exact ⟨i, hperm.mem_iff.mpr hi, (typeName_eq_iff hi hn).mpr htype⟩

theorem mentioned_of_mem_valueTypeNames (h : n ∈ c.valueTypeNames) : n ∈ c.module.mentioned := by
  obtain ⟨⟨e, overloaded⟩, he, rfl⟩ := List.mem_map.mp h
  have hmember : Member.group "events" (c.subscriptions.map .method) ∈ c.members := by
    simp [members]
  have hsubscribed : ∃ m ∈ e.subscriptions overloaded, e.typeName overloaded ∈ m.mentioned := by
    refine ⟨_, List.mem_cons_self, ?_⟩
    simp [Method.mentioned, Method.types, callback, TypeExpr.names, typeNames]
  obtain ⟨m, hm, hn⟩ := hsubscribed
  have hsubscription : m ∈ c.subscriptions :=
    List.mem_append_left _ (List.mem_flatMap.mpr ⟨_, he, hm⟩)
  have hgroup : e.typeName overloaded ∈ membersMentioned (c.subscriptions.map .method) :=
    mem_membersMentioned.mpr ⟨_, List.mem_map_of_mem hsubscription, hn⟩
  apply List.mem_flatMap.mpr
  refine ⟨c.interface, by simp [module], ?_⟩
  exact List.mem_append_right _ (mem_membersMentioned.mpr ⟨_, hmember, hgroup⟩)

end

/-- The contract of an accepted ABI never has the name of a predefined type. The types of its events
have one just if an event is called so and goes by this name alone, and only then does a mention of
a predefined type in the module mean something that the module declares. -/
theorem predefined_kept_iff {abi : Items} {path : Path} {docs : Option Documentation} {c : Contract}
    (h : Contract.ofAbi abi path docs = .ok c) :
    c.name ∉ predefined ∧
      (∀ n ∈ predefined, (n ∈ c.module.aliasNames ↔ NamesType (itemsOfType "event" abi) n) ∧
        (n ∈ c.module.bound ↔ NamesType (itemsOfType "event" abi) n)) ∧
      ((∀ n ∈ c.module.mentioned, n ∈ predefined → n ∉ c.module.bound) ↔
        ∀ n ∈ predefined, ¬ NamesType (itemsOfType "event" abi) n) := by
  obtain ⟨stem, name, -, hname, hc, -⟩ := ofAbi_eq_ok_iff.mp h
  have hevents : c.events = eventsOf abi := by rw [hc]
  have hcontract : c.name ∉ predefined := by
    rw [hc]
    exact name?_not_predefined hname
  have htypes : ∀ n ∈ predefined,
      (n ∈ c.valueTypeNames ↔ NamesType (itemsOfType "event" abi) n) := fun n hn =>
    mem_valueTypeNames_iff hevents (predefined_words n hn).1
  have hbound : ∀ n ∈ predefined, (n ∈ c.module.bound ↔ n ∈ c.valueTypeNames) := by
    intro n hn
    have himported := predefined_not_imported n hn
    have hself : n ≠ c.name := fun he => hcontract (he ▸ hn)
    simp [mem_bound_module, himported, hself]
  refine ⟨hcontract, ?_, ?_⟩
  · intro n hn
    rw [aliasNames_module, hbound n hn]
    exact ⟨htypes n hn, htypes n hn⟩
  · constructor
    · intro hkept n hn htype
      have hvalue := (htypes n hn).mpr htype
      exact hkept n (mentioned_of_mem_valueTypeNames hvalue) hn ((hbound n hn).mpr hvalue)
    · intro hfree n _ hn hdeclared
      exact hfree n hn ((htypes n hn).mp ((hbound n hn).mp hdeclared))

theorem predefined_kept_iff_overloaded :
    let abi : Items := [
      { type := "event", name := some "number", inputs := [{ type := "uint256" }] },
      { type := "event", name := some "number", inputs := [{ type := "address" }] }]
    ∃ c, Contract.ofAbi abi ⟨"boolean.json"⟩ none = .ok c ∧ c.name = "Boolean" ∧
      c.module.aliasNames = ["number_uint256", "number_address"] ∧
      (∀ n ∈ predefined, ¬ NamesType (itemsOfType "event" abi) n) ∧
      c.name ∉ predefined ∧ ∀ n ∈ c.module.mentioned, n ∈ predefined → n ∉ c.module.bound := by
  intro abi
  apply exists_ok_of_map (fun c => (c.name, c.module.aliasNames))
    ("Boolean", ["number_uint256", "number_address"]) (by decide +kernel)
  intro c hr hnames
  obtain ⟨hname, haliases⟩ := Prod.ext_iff.mp hnames
  have hfree : ∀ n ∈ predefined, ¬ NamesType (itemsOfType "event" abi) n := by decide +kernel
  obtain ⟨hcontract, -, hkept⟩ := predefined_kept_iff hr
  exact ⟨hname, haliases, hfree, hcontract, hkept.mpr hfree⟩

/-- An event called `number` beside a function that takes a number: the parameter is declared with
the type of the event's values. -/
theorem predefined_kept_iff_number :
    let abi : Items := [
      { type := "function", name := some "f", inputs := [{ name := "x", type := "uint256" }] },
      { type := "event", name := some "number" }]
    ∃ c, Contract.ofAbi abi ⟨"Token.json"⟩ none = .ok c ∧
      c.module.aliasNames = ["number"] ∧ "number" ∈ predefined ∧ "number" ∈ c.module.bound ∧
      c.methods.map Method.signature =
        ["f(x: number | string | BigNumber): NonPayableTransactionObject<void>;"] ∧
      "number" ∈ c.methods.flatMap Method.mentioned := by
  intro abi
  apply exists_ok_of_map (fun c => (c.module.aliasNames, decide ("number" ∈ c.module.bound),
      c.methods.map Method.signature, decide ("number" ∈ c.methods.flatMap Method.mentioned)))
    (["number"], true, ["f(x: number | string | BigNumber): NonPayableTransactionObject<void>;"],
      true) (by decide +kernel)
  intro c hr hmodule
  simp only [Prod.mk.injEq, decide_eq_true_eq] at hmodule
  obtain ⟨haliases, hbound, hlines, hmentioned⟩ := hmodule
  exact ⟨haliases, by decide, hbound, hlines, hmentioned⟩

end Contract

end ContractTypings
