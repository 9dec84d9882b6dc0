import ContractTypings.Contract.Interface
import ContractTypings.Proofs.Acceptance
import ContractTypings.TypeScript.Scope
import Mathlib.Data.List.Nodup

namespace ContractTypings

open Abi Natspec TypeScript Contract

theorem TypeScript.mem_fieldNames {n : String} {fs : List Field} :
    n ∈ fieldNames fs ↔ ∃ f ∈ fs, n ∈ f.type.names := by
  induction fs with
  | nil => simp [fieldNames]
  | cons f fs ih =>
    obtain ⟨key, type⟩ := f
    simp [fieldNames, Field.names, ih]

theorem TypeScript.mem_membersMentioned {n : String} {ms : List Member} :
    n ∈ membersMentioned ms ↔ ∃ m ∈ ms, n ∈ m.mentioned := by
  induction ms with
  | nil => simp [membersMentioned]
  | cons m ms ih => simp [membersMentioned, ih]

mutual

theorem EvmType.names_inputType {n : String} :
    (t : EvmType) → n ∈ t.inputType.names → n ∈ predefined ∨ n = "BigNumber"
  | .elementary type, h => by
    cases type
    all_goals
      simp only [EvmType.inputType, Elementary.inputType, numberLike, bytesLike, TypeExpr.names,
        typeNames, List.cons_append, List.nil_append, List.mem_cons, List.not_mem_nil] at h
      simp only [predefined, List.mem_cons]
      tauto
  | .array item _, h => item.names_inputType h
  | .tuple components, h => names_inputTypes components h
  | .unknown _, h => by
    simp only [EvmType.inputType, TypeExpr.names, List.mem_cons, List.not_mem_nil, or_false] at h
    simp [h, predefined]

theorem Param.names_inputType {n : String} :
    (p : Param) → n ∈ p.inputType.names → n ∈ predefined ∨ n = "BigNumber"
  | ⟨_, kind, _⟩, h => kind.names_inputType h

theorem names_inputTypes {n : String} :
    (ps : List Param) → n ∈ typeNames (inputTypes ps) → n ∈ predefined ∨ n = "BigNumber"
  | p :: ps, h => by
    rcases List.mem_append.mp h with h | h
    · exact p.names_inputType h
    · exact names_inputTypes ps h

end

mutual

theorem EvmType.names_outputType {n : String} :
    (t : EvmType) → n ∈ t.outputType.names → n ∈ predefined
  | .elementary type, h => by
    cases type
    all_goals
      simp only [EvmType.outputType, Elementary.outputType, TypeExpr.names, List.mem_cons,
        List.not_mem_nil, or_false] at h
      simp [h, predefined]
  | .array item _, h => item.names_outputType h
  | .tuple components, h => names_outputTypes components h
  | .unknown _, h => by
    simp only [EvmType.outputType, TypeExpr.names, List.mem_cons, List.not_mem_nil, or_false] at h
    simp [h, predefined]

theorem Param.names_outputType {n : String} :
    (p : Param) → n ∈ p.outputType.names → n ∈ predefined
  | ⟨_, kind, _⟩, h => kind.names_outputType h

theorem names_outputTypes {n : String} :
    (ps : List Param) → n ∈ typeNames (outputTypes ps) → n ∈ predefined
  | p :: ps, h => by
    rcases List.mem_append.mp h with h | h
    · exact p.names_outputType h
    · exact names_outputTypes ps h

end

theorem names_recordType {typeOf : Param → TypeExpr} {ps : List Param} {n : String}
    (h : n ∈ (recordType typeOf ps).names) : ∃ p ∈ ps, n ∈ (typeOf p).names := by
  simp only [recordType, TypeExpr.names, mem_fieldNames, List.mem_append, List.mem_filterMap,
    List.mem_map, Option.map_eq_some_iff] at h
  obtain ⟨f, ⟨p, hp, name, -, rfl⟩ | ⟨⟨p, i⟩, hp, rfl⟩, hn⟩ := h
  · exact ⟨p, hp, hn⟩
  · exact ⟨p, (List.mem_zipIdx hp).2.2 ▸ List.getElem_mem _, hn⟩

theorem TypeScript.Method.mem_mentioned {n : String} {m : Method} :
    n ∈ m.mentioned ↔ (∃ p ∈ m.params, n ∈ p.type.names) ∨ n ∈ m.returns.names := by
  simp [mentioned, types]

theorem names_resultType {ps : List Param} {n : String} (h : n ∈ (resultType ps).names) :
    n ∈ predefined := by
  match ps with
  | [] =>
    simp only [resultType, TypeExpr.names, List.mem_cons, List.not_mem_nil, or_false] at h
    simp [h, predefined]
  | [p] => exact p.names_outputType h
  | p :: q :: ps =>
    obtain ⟨r, -, hr⟩ := names_recordType h
    exact r.names_outputType hr

theorem Function.mentioned_method {f : Function} {overloaded : Bool} {n : String}
    (h : n ∈ (f.method overloaded).mentioned) : n ∈ predefined ∨ n ∈ importedNames := by
  rcases Method.mem_mentioned.mp h with ⟨p, hp, hn⟩ | hn
  · obtain ⟨⟨q, i⟩, -, rfl⟩ := List.mem_map.mp hp
    rcases q.names_inputType hn with hn | rfl
    · exact Or.inl hn
    · exact Or.inr (by decide)
  · simp only [method, transactionObject, TypeExpr.names, typeNames, List.append_nil,
      List.mem_cons] at hn
    rcases hn with rfl | hn
    · right
      split
      · decide
      · decide
    · exact Or.inl (names_resultType hn)

namespace Event

theorem names_fieldType {p : Param} {n : String} (h : n ∈ (fieldType p).names) :
    n ∈ predefined := by
  unfold fieldType at h
  split at h
  · simp only [TypeExpr.names, List.mem_cons, List.not_mem_nil, or_false] at h
    simp [h, predefined]
  · exact p.names_outputType h

theorem mentioned_declaration {e : Event} {overloaded : Bool} {n : String}
    (h : n ∈ (e.declaration overloaded).mentioned) : n ∈ predefined ∨ n ∈ importedNames := by
  simp only [declaration, Declaration.mentioned, TypeExpr.names, typeNames, List.append_nil,
    List.mem_cons] at h
  rcases h with rfl | h
  · exact Or.inr (by decide)
  · obtain ⟨p, -, hp⟩ := names_recordType h
    exact Or.inl (names_fieldType hp)

theorem mentioned_subscriptions {e : Event} {overloaded : Bool} {m : Method} {n : String}
    (hm : m ∈ e.subscriptions overloaded) (h : n ∈ m.mentioned) :
    n ∈ importedNames ∨ n = e.typeName overloaded := by
  simp only [subscriptions, List.mem_cons, List.not_mem_nil, or_false] at hm
  rcases hm with rfl | rfl
  all_goals
    simp only [Method.mentioned, Method.types, callback, options, TypeExpr.names, typeNames,
      List.map_cons, List.map_nil, List.cons_append, List.nil_append, List.append_nil,
      List.flatMap_cons, List.flatMap_nil, List.mem_cons, List.not_mem_nil, or_false] at h
    simp only [importedNames, packageTypes, sharedTypes, List.map_cons, List.map_nil,
      List.cons_append, List.nil_append, List.mem_cons]
    tauto

theorem mentioned_listeners {e : Event} {m : Method} {n : String} (hm : m ∈ e.listeners)
    (h : n ∈ m.mentioned) : n ∈ predefined ∨ n ∈ importedNames ∨ n = e.name := by
  simp only [listeners, List.mem_cons, List.not_mem_nil, or_false] at hm
  rcases hm with rfl | rfl
  all_goals
    simp only [Method.mentioned, Method.types, callback, options, TypeExpr.names, typeNames,
      List.map_cons, List.map_nil, List.cons_append, List.nil_append, List.append_nil,
      List.flatMap_cons, List.flatMap_nil, List.mem_cons, List.not_mem_nil, or_false] at h
    simp only [predefined, importedNames, packageTypes, sharedTypes, List.map_cons, List.map_nil,
      List.cons_append, List.nil_append, List.mem_cons]
    tauto

theorem mentioned_allEvents : ∀ n ∈ allEvents.mentioned, n ∈ importedNames := by decide

theorem applications_subscriptions {e : Event} {overloaded : Bool} {m : Method}
    (hm : m ∈ e.subscriptions overloaded) :
    ("Callback", [.named (e.typeName overloaded)]) ∈ m.applications ∧
      ∀ a ∈ m.applications, a.2 = [.named (e.typeName overloaded)] := by
  simp only [subscriptions, List.mem_cons, List.not_mem_nil, or_false] at hm
  rcases hm with rfl | rfl
  all_goals
    simp [Method.applications, Method.types, callback, options, TypeExpr.applications,
      typeApplications]

theorem applications_listeners {e : Event} {m : Method} (hm : m ∈ e.listeners) :
    ("Callback", [.named e.name]) ∈ m.applications ∧
      ∀ a ∈ m.applications, a.2 = [.named e.name] := by
  simp only [listeners, List.mem_cons, List.not_mem_nil, or_false] at hm
  rcases hm with rfl | rfl
  all_goals
    simp [Method.applications, Method.types, callback, options, TypeExpr.applications,
      typeApplications]

end Event

namespace Contract

def valueTypeNames (c : Contract) : List String :=
  (taggedEvents c.events).map fun (e, overloaded) => e.typeName overloaded

theorem aliasNames_module (c : Contract) : c.module.aliasNames = c.valueTypeNames := by
  simp only [Module.aliasNames, module, imports, eventTypes, valueTypeNames, interface,
    List.filterMap_append, List.filterMap_map]
  simp only [packageTypes, List.filterMap_cons, List.filterMap_nil, Declaration.aliasName?,
    List.nil_append, List.append_nil]
  rw [← List.filterMap_eq_map]
  rfl

theorem bound_module (c : Contract) :
    c.module.bound = importedNames ++ (c.valueTypeNames ++ [c.name]) := by
  simp only [Module.bound, module, imports, eventTypes, interface, List.flatMap_append,
    List.flatMap_map, List.append_assoc]
  simp only [packageTypes, List.flatMap_cons, List.flatMap_nil, Declaration.bound,
    ImportClause.names, importedNames, valueTypeNames, List.append_nil, List.cons_append,
    List.nil_append, List.map_eq_flatMap]
  rfl

theorem mem_bound_module {c : Contract} {n : String} :
    n ∈ c.module.bound ↔ n ∈ importedNames ∨ n ∈ c.valueTypeNames ∨ n = c.name := by
  simp [bound_module]

theorem bound_nodup {c : Contract} (hi : ∀ n ∈ c.declaredNames, n ∉ importedNames)
    (hd : c.declaredNames.Nodup) : c.module.bound.Nodup := by
  have hp : (c.valueTypeNames ++ [c.name]).Perm c.declaredNames := List.perm_append_singleton _ _
  rw [bound_module, List.nodup_append]
  refine ⟨importedNames_nodup, hp.nodup_iff.mpr hd, ?_⟩
  rintro n hn _ hm rfl
  exact hi n (hp.mem_iff.mp hm) hn

theorem mem_valueTypeNames {c : Contract} {e : Event} {overloaded : Bool}
    (h : (e, overloaded) ∈ taggedEvents c.events) : e.typeName overloaded ∈ c.valueTypeNames :=
  List.mem_map.mpr ⟨_, h, rfl⟩

theorem mem_listeners {c : Contract} {m : Method} (h : m ∈ c.listeners) :
    ∃ e, (e, false) ∈ taggedEvents c.events ∧ m ∈ e.listeners := by
  obtain ⟨⟨name, group⟩, hg, hm⟩ := List.mem_flatMap.mp h
  match group with
  | [] => cases hm
  | [e] =>
    refine ⟨e, List.mem_flatMap.mpr ⟨(name, [e]), hg, by simp⟩, ?_⟩
    dsimp only at hm
    split at hm
    · cases hm
    · exact hm
  | e :: f :: group => cases hm

theorem mem_subscriptions {c : Contract} {m : Method} (h : m ∈ c.subscriptions) :
    m = Event.allEvents ∨
      ∃ e overloaded, (e, overloaded) ∈ taggedEvents c.events ∧ m ∈ e.subscriptions overloaded := by
  rcases List.mem_append.mp h with h | h
  · obtain ⟨⟨e, overloaded⟩, he, hm⟩ := List.mem_flatMap.mp h
    exact Or.inr ⟨e, overloaded, he, hm⟩
  · exact Or.inl (List.mem_singleton.mp h)

theorem mentioned_eventTypes {c : Contract} {d : Declaration} {n : String}
    (hd : d ∈ c.eventTypes) (h : n ∈ d.mentioned) : n ∈ predefined ∨ n ∈ importedNames := by
  obtain ⟨⟨e, overloaded⟩, -, rfl⟩ := List.mem_map.mp hd
  exact Event.mentioned_declaration h

theorem mentioned_methods {c : Contract} {m : Method} {n : String}
    (hm : m ∈ c.methods) (h : n ∈ m.mentioned) : n ∈ predefined ∨ n ∈ importedNames := by
  obtain ⟨⟨name, group⟩, -, hg⟩ := List.mem_flatMap.mp hm
  obtain ⟨f, -, rfl⟩ := List.mem_map.mp hg
  exact Function.mentioned_method h

theorem mentioned_subscriptions {c : Contract} {m : Method} {n : String}
    (hm : m ∈ c.subscriptions) (h : n ∈ m.mentioned) :
    n ∈ importedNames ∨ n ∈ c.valueTypeNames := by
  rcases mem_subscriptions hm with rfl | ⟨e, overloaded, he, hm⟩
  · exact Or.inl (Event.mentioned_allEvents n h)
  · rcases Event.mentioned_subscriptions hm h with hn | rfl
    · exact Or.inl hn
    · exact Or.inr (mem_valueTypeNames he)

theorem mentioned_listeners {c : Contract} {m : Method} {n : String}
    (hm : m ∈ c.listeners) (h : n ∈ m.mentioned) :
    n ∈ predefined ∨ n ∈ importedNames ∨ n ∈ c.valueTypeNames := by
  obtain ⟨e, he, hm⟩ := mem_listeners hm
  rcases Event.mentioned_listeners hm h with hn | hn | rfl
  · exact Or.inl hn
  · exact Or.inr (Or.inl hn)
  · exact Or.inr (Or.inr (mem_valueTypeNames he))

theorem mentioned_constructorMethod {c : Contract} {n : String}
    (h : n ∈ c.constructorMethod.mentioned) : n ∈ predefined ∨ n ∈ importedNames ∨ n = c.name := by
  simp only [constructorMethod, Method.mentioned, Method.types, TypeExpr.names, List.map_cons,
    List.map_nil, List.cons_append, List.nil_append, List.flatMap_cons, List.flatMap_nil,
    List.mem_cons, List.not_mem_nil, or_false] at h
  rcases h with rfl | rfl | rfl | rfl
  · exact Or.inl (by decide)
  · exact Or.inl (by decide)
  · exact Or.inr (Or.inl (by decide))
  · exact Or.inr (Or.inr rfl)

theorem mentioned_members {c : Contract} {n : String} (h : n ∈ membersMentioned c.members) :
    n ∈ predefined ∨ n ∈ importedNames ∨ n ∈ c.valueTypeNames ∨ n = c.name := by
  obtain ⟨m, hm, hn⟩ := mem_membersMentioned.mp h
  simp only [members, List.cons_append, List.nil_append, List.mem_cons] at hm
  rcases hm with rfl | rfl | rfl | rfl | hm
  · have := mentioned_constructorMethod hn
    tauto
  · simp only [Member.mentioned, cloneMethod, Method.mentioned, Method.types, TypeExpr.names,
      List.map_nil, List.nil_append, List.flatMap_cons, List.flatMap_nil, List.append_nil,
      List.mem_singleton] at hn
    tauto
  · obtain ⟨_, hm, hn⟩ := mem_membersMentioned.mp hn
    obtain ⟨f, hf, rfl⟩ := List.mem_map.mp hm
    have := mentioned_methods hf hn
    tauto
  · obtain ⟨_, hm, hn⟩ := mem_membersMentioned.mp hn
    obtain ⟨s, hs, rfl⟩ := List.mem_map.mp hm
    have := mentioned_subscriptions hs hn
    tauto
  · split at hm
    · cases hm
    · rcases List.mem_cons.mp hm with rfl | hm
      · cases hn
      · obtain ⟨l, hl, rfl⟩ := List.mem_map.mp hm
        have := mentioned_listeners hl hn
        tauto

theorem mentioned_module {c : Contract} {n : String} (h : n ∈ c.module.mentioned) :
    n ∈ predefined ∨ n ∈ c.module.bound := by
  rw [mem_bound_module]
  obtain ⟨d, hd, hn⟩ := List.mem_flatMap.mp h
  simp only [module, imports, List.append_assoc, List.mem_append, List.mem_map,
    List.mem_singleton] at hd
  rcases hd with rfl | ⟨entry, -, rfl⟩ | rfl | hd | rfl
  · cases hn
  · cases hn
  · cases hn
  · have := mentioned_eventTypes hd hn
    tauto
  · rcases List.mem_append.mp hn with hn | hn
    · obtain rfl : n = "BaseContract" := List.mem_singleton.mp hn
      exact Or.inr (Or.inl (by decide))
    · exact mentioned_members hn

/-- The module of an accepted contract binds no name twice, each type name in it is predefined or
bound there, and what an event is subscribed or listened to with is the type declared for it. -/
theorem module_scope {abi : Items} {path : Path} {docs : Option Documentation} {c : Contract}
    (h : Contract.ofAbi abi path docs = .ok c) :
    c.module.bound.Nodup ∧
      (∀ n ∈ c.module.mentioned, n ∈ predefined ∨ n ∈ c.module.bound) ∧
      ∀ m ∈ c.subscriptions ++ c.listeners, m ≠ Event.allEvents →
        ∃ n ∈ c.module.aliasNames, ("Callback", [.named n]) ∈ m.applications ∧
          ∀ a ∈ m.applications, a.2 = [.named n] := by
  obtain ⟨_, _, -, -, -, hc⟩ := ofAbi_eq_ok_iff.mp h
  obtain ⟨-, hi, hd⟩ := clash?_eq_none_iff.mp hc
  refine ⟨bound_nodup hi hd, fun n hn => mentioned_module hn, fun m hm ha => ?_⟩
  rw [aliasNames_module]
  rcases List.mem_append.mp hm with hm | hm
  · rcases mem_subscriptions hm with rfl | ⟨e, overloaded, he, hm⟩
    · exact absurd rfl ha
    · exact ⟨_, mem_valueTypeNames he, Event.applications_subscriptions hm⟩
  · obtain ⟨e, he, hm⟩ := mem_listeners hm
    exact ⟨_, mem_valueTypeNames he, Event.applications_listeners hm⟩

theorem module_scope_vault : ∃ c, Contract.ofAbi [
      { type := "event", name := some "Deposit", inputs := [{ type := "address" }] },
      { type := "event", name := some "Deposit", inputs := [{ type := "uint[2]" }] },
      { type := "event", name := some "Paused" }] ⟨"vaults/vault.json"⟩ none = .ok c ∧
    c.module.aliasNames = ["Deposit_address", "Deposit_uint256_array2", "Paused"] ∧
    c.module.bound.Nodup ∧
      (∀ n ∈ c.module.mentioned, n ∈ predefined ∨ n ∈ c.module.bound) ∧
      ∀ m ∈ c.subscriptions ++ c.listeners, m ≠ Event.allEvents →
        ∃ n ∈ c.module.aliasNames, ("Callback", [.named n]) ∈ m.applications ∧
          ∀ a ∈ m.applications, a.2 = [.named n] := by
  apply exists_ok_of_map (·.module.aliasNames)
    ["Deposit_address", "Deposit_uint256_array2", "Paused"] (by decide +kernel)
  intro c hr hnames
  exact ⟨hnames, module_scope hr⟩

end Contract

end ContractTypings
