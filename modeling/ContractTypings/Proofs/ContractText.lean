import ContractTypings.Proofs.Declarations
import ContractTypings.Proofs.ModuleScope
import ContractTypings.Proofs.ModuleText

namespace ContractTypings

open Abi Natspec TypeScript Overloads

namespace TypeScript

theorem isPlainName_append (s t : String) :
    isPlainName (s ++ t) = (isPlainName s && isPlainName t) := by
  simp [isPlainName]

theorem mem_fieldIdentifiers {n : String} {fs : List Field} :
    n ∈ fieldIdentifiers fs ↔ ∃ f ∈ fs, n ∈ f.identifiers := by
  induction fs with
  | nil => simp [fieldIdentifiers]
  | cons f fs ih => simp [fieldIdentifiers, ih]

theorem plainNames_memberIdentifiers {ms : List Member} :
    PlainNames (memberIdentifiers ms) ↔ ∀ m ∈ ms, PlainNames m.identifiers := by
  induction ms with
  | nil => simp [memberIdentifiers, PlainNames]
  | cons m ms ih => rw [memberIdentifiers, plainNames_append, ih, List.forall_mem_cons]

theorem plainNames_singleton {n : String} : PlainNames [n] ↔ isPlainName n = true :=
  List.forall_mem_singleton

theorem Method.plainNames_identifiers {m : Method} :
    PlainNames m.identifiers ↔ PlainNames m.key.identifiers ∧
      (∀ p ∈ m.params, PlainNames p.identifiers) ∧ PlainNames m.returns.identifiers := by
  rw [Method.identifiers, plainNames_append, plainNames_append, plainNames_flatMap, and_assoc]

theorem plain_generic {name : String} {arg : TypeExpr} (hn : isPlainName name = true)
    (ha : PlainNames arg.identifiers) : PlainNames (TypeExpr.generic name [arg]).identifiers := by
  rw [TypeExpr.identifiers, plainNames_cons, typeIdentifiers, typeIdentifiers, List.append_nil]
  exact ⟨hn, ha⟩

end TypeScript

theorem Elementary.plain_inputType (type : Elementary) : PlainNames type.inputType.identifiers := by
  have hnumber : PlainNames numberLike.identifiers := by decide
  have hbytes : PlainNames bytesLike.identifiers := by decide
  have hstring : PlainNames TypeExpr.string.identifiers := by decide
  have hboolean : PlainNames TypeExpr.boolean.identifiers := by decide
  cases type
  all_goals assumption

theorem Elementary.plain_outputType (type : Elementary) :
    PlainNames type.outputType.identifiers := by
  have hstring : PlainNames TypeExpr.string.identifiers := by decide
  have hboolean : PlainNames TypeExpr.boolean.identifiers := by decide
  cases type
  all_goals assumption

mutual

theorem EvmType.plain_inputType : (t : EvmType) → PlainNames t.inputType.identifiers
  | .elementary type => type.plain_inputType
  | .array item _ => item.plain_inputType
  | .tuple components => plain_inputTypes components
  | .unknown _ => (by decide : PlainNames TypeExpr.any.identifiers)

theorem Param.plain_inputType : (p : Param) → PlainNames p.inputType.identifiers
  | ⟨_, kind, _⟩ => kind.plain_inputType

theorem plain_inputTypes : (ps : List Param) → PlainNames (typeIdentifiers (inputTypes ps))
  | [] => by decide
  | p :: ps => plainNames_append.mpr ⟨p.plain_inputType, plain_inputTypes ps⟩

end

mutual

theorem EvmType.plain_outputType : (t : EvmType) → PlainNames t.outputType.identifiers
  | .elementary type => type.plain_outputType
  | .array item _ => item.plain_outputType
  | .tuple components => plain_outputTypes components
  | .unknown _ => (by decide : PlainNames TypeExpr.any.identifiers)

theorem Param.plain_outputType : (p : Param) → PlainNames p.outputType.identifiers
  | ⟨_, kind, _⟩ => kind.plain_outputType

theorem plain_outputTypes : (ps : List Param) → PlainNames (typeIdentifiers (outputTypes ps))
  | [] => by decide
  | p :: ps => plainNames_append.mpr ⟨p.plain_outputType, plain_outputTypes ps⟩

end

theorem isPlainName_sizeText (size : Option Nat) : isPlainName (sizeText size) = true := by
  cases size with
  | none => decide
  | some n => exact isPlainName_toString n

theorem Elementary.isPlainName_text (type : Elementary) : isPlainName type.text = true := by
  cases type
  case int bits => rw [Elementary.text, isPlainName_append, isPlainName_toString]; decide
  case uint bits => rw [Elementary.text, isPlainName_append, isPlainName_toString]; decide
  case fixedBytes size => rw [Elementary.text, isPlainName_append, isPlainName_toString]; decide
  all_goals decide

theorem isPlainName_wordChars (s : String) : isPlainName (wordChars s) = true := by
  rw [isPlainName, wordChars, String.toList_map, List.all_eq_true]
  intro c hc
  obtain ⟨d, -, rfl⟩ := List.mem_map.mp hc
  by_cases hd : d.isAlphanum = true <;> simp [hd]

mutual

theorem EvmType.isPlainName_symbol : (t : EvmType) → isPlainName t.symbol = true
  | .elementary type => type.isPlainName_text
  | .array item size => by
    rw [EvmType.symbol, isPlainName_append, isPlainName_append, item.isPlainName_symbol,
      isPlainName_sizeText]
    decide
  | .tuple components => by
    rw [EvmType.symbol, isPlainName_append, isPlainName_append, isPlainName_kindSymbols components]
    decide
  | .unknown raw => isPlainName_wordChars raw

theorem Param.isPlainName_kindSymbol : (p : Param) → isPlainName p.kindSymbol = true
  | ⟨_, kind, _⟩ => kind.isPlainName_symbol

theorem isPlainName_kindSymbols : (ps : List Param) → isPlainName (kindSymbols ps) = true
  | [] => by decide
  | p :: ps => by
    rw [kindSymbols, isPlainName_append, isPlainName_append, p.isPlainName_kindSymbol,
      isPlainName_kindSymbols ps]
    decide

end

def paramNames (ps : List Param) : List String := ps.map Param.nameOrEmpty

theorem plain_parametersOf {inputs : List Param} (h : PlainNames (paramNames inputs)) :
    ∀ q ∈ parametersOf inputs, PlainNames q.identifiers := by
  intro q hq
  obtain ⟨⟨p, position⟩, hp, rfl⟩ := List.mem_map.mp hq
  have hmem : p ∈ inputs := (List.mem_zipIdx hp).2.2 ▸ List.getElem_mem _
  have hname : isPlainName p.nameOrEmpty = true := h _ (List.mem_map_of_mem hmem)
  refine plainNames_cons.mpr ⟨?_, p.plain_inputType⟩
  dsimp only
  rw [Contract.parameterName]
  split
  · rw [isPlainName_append, isPlainName_toString]
    decide
  · split
    · rw [isPlainName_append, hname]
      decide
    · exact hname

theorem plain_recordType {typeOf : Param → TypeExpr} {ps : List Param}
    (h : PlainNames (paramNames ps)) (ht : ∀ p, PlainNames (typeOf p).identifiers) :
    PlainNames (recordType typeOf ps).identifiers := by
  intro n hn
  simp only [recordType, TypeExpr.identifiers, mem_fieldIdentifiers, List.mem_append,
    List.mem_filterMap, List.mem_map, Option.map_eq_some_iff] at hn
  obtain ⟨f, ⟨p, hp, name, hname, rfl⟩ | ⟨⟨p, i⟩, -, rfl⟩, hn⟩ := hn
  · rcases List.mem_append.mp hn with hn | hn
    · obtain rfl := List.mem_singleton.mp hn
      have he : p.nameOrEmpty = n := by rw [Param.nameOrEmpty, hname, Option.getD_some]
      exact he ▸ h _ (List.mem_map_of_mem hp)
    · exact ht p n hn
  · exact ht p n hn

theorem plain_resultType {ps : List Param} (h : PlainNames (paramNames ps)) :
    PlainNames (resultType ps).identifiers := by
  match ps with
  | [] => decide
  | [p] => exact p.plain_outputType
  | p :: q :: ps => exact plain_recordType h Param.plain_outputType

theorem plain_memberKey {name signature : String} (overloaded : Bool)
    (h : isPlainName name = true) :
    PlainNames (if overloaded then PropertyKey.quoted signature else .ident name).identifiers := by
  cases overloaded with
  | true => exact fun _ hn => absurd hn List.not_mem_nil
  | false => exact plainNames_singleton.mpr h

theorem Function.plain_method {f : Function} (overloaded : Bool) (hn : isPlainName f.name = true)
    (hi : PlainNames (paramNames f.inputs)) (ho : PlainNames (paramNames f.outputs)) :
    PlainNames (f.method overloaded).identifiers := by
  have hobject : isPlainName f.transactionObject = true := by
    unfold transactionObject
    split
    · decide
    · decide
  have hreturns := plain_generic hobject (plain_resultType ho)
  exact Method.plainNames_identifiers.mpr
    ⟨plain_memberKey overloaded hn, plain_parametersOf hi, hreturns⟩

namespace Event

variable {e : Event}

theorem plain_options : PlainNames options.identifiers := by decide

theorem plain_cb {value : TypeExpr} {optional : Bool} (h : PlainNames value.identifiers) :
    PlainNames { name := "cb", type := callback value, optional : Parameter }.identifiers := by
  have hname : isPlainName "cb" = true := by decide
  exact plainNames_cons.mpr ⟨hname, plain_generic (by decide) h⟩

theorem isPlainName_typeName (overloaded : Bool) (h : isPlainName e.name = true) :
    isPlainName (e.typeName overloaded) = true := by
  cases overloaded with
  | true =>
    have hs : isPlainName (kindSymbols e.inputs) = true := isPlainName_kindSymbols e.inputs
    simp [typeName, signatureSymbol, isPlainName_append, h, hs]
  | false => exact h

theorem plain_declaration (overloaded : Bool) (hn : isPlainName e.name = true)
    (hi : PlainNames (paramNames e.inputs)) :
    PlainNames (e.declaration overloaded).identifiers := by
  have hfield : ∀ p, PlainNames (fieldType p).identifiers := by
    intro p
    unfold fieldType
    split
    · exact (by decide : PlainNames TypeExpr.string.identifiers)
    · exact p.plain_outputType
  have hrecord := plain_recordType hi hfield
  exact plainNames_cons.mpr ⟨isPlainName_typeName overloaded hn, plain_generic (by decide) hrecord⟩

theorem plain_subscriptions {overloaded : Bool} {m : Method} (h : isPlainName e.name = true)
    (hm : m ∈ e.subscriptions overloaded) : PlainNames m.identifiers := by
  have hkey : PlainNames
      (if overloaded then PropertyKey.quoted e.signature else .ident e.name).identifiers :=
    plain_memberKey overloaded h
  have hvalue : PlainNames (TypeExpr.named (e.typeName overloaded)).identifiers :=
    plainNames_singleton.mpr (isPlainName_typeName overloaded h)
  have hreturns : PlainNames
      (TypeExpr.generic "ContractEventEmitter" [.named (e.typeName overloaded)]).identifiers :=
    plain_generic (by decide) hvalue
  simp only [subscriptions, List.mem_cons, List.not_mem_nil, or_false] at hm
  rcases hm with rfl | rfl
  · refine Method.plainNames_identifiers.mpr ⟨hkey, ?_, hreturns⟩
    exact List.forall_mem_singleton.mpr (plain_cb hvalue)
  · refine Method.plainNames_identifiers.mpr ⟨hkey, ?_, hreturns⟩
    exact List.forall_mem_cons.mpr
      ⟨plain_options, List.forall_mem_singleton.mpr (plain_cb hvalue)⟩

theorem plain_listeners {m : Method} (h : isPlainName e.name = true) (hm : m ∈ e.listeners) :
    PlainNames m.identifiers := by
  have hkey : PlainNames (PropertyKey.ident "once").identifiers := by decide
  have hevent : PlainNames ["event"] := by decide
  have hvalue : PlainNames (TypeExpr.named e.name).identifiers := plainNames_singleton.mpr h
  have hreturns : PlainNames TypeExpr.void.identifiers := by decide
  simp only [listeners, List.mem_cons, List.not_mem_nil, or_false] at hm
  rcases hm with rfl | rfl
  · refine Method.plainNames_identifiers.mpr ⟨hkey, ?_, hreturns⟩
    exact List.forall_mem_cons.mpr ⟨hevent, List.forall_mem_singleton.mpr (plain_cb hvalue)⟩
  · refine Method.plainNames_identifiers.mpr ⟨hkey, ?_, hreturns⟩
    exact List.forall_mem_cons.mpr ⟨hevent,
      List.forall_mem_cons.mpr ⟨plain_options, List.forall_mem_singleton.mpr (plain_cb hvalue)⟩⟩

end Event

theorem paramNames_ofComponents (cs : List Component) :
    paramNames (Param.ofComponents cs) = cs.map Component.name := by
  induction cs with
  | nil => simp [Param.ofComponents, paramNames]
  | cons c cs ih =>
    obtain ⟨internalType, name, type, components, indexed⟩ := c
    have hname : (if name = "" then none else some name).getD "" = name := by
      split
      next h => exact h.symm
      · rfl
    rw [Param.ofComponents, paramNames, List.map_cons, ← paramNames, ih, Param.ofComponent]
    exact congrArg (· :: cs.map Component.name) hname

namespace Contract

/-- The names in an ABI that are written as they are: those of the functions, the events and their
own parameters and results, not those inside of tuples. -/
def writtenNames (abi : Items) : List String :=
  (itemsOfType "function" abi).flatMap
      (fun i => i.nameOrEmpty :: (i.inputs ++ i.outputs).map Component.name) ++
    (itemsOfType "event" abi).flatMap fun i => i.nameOrEmpty :: i.inputs.map Component.name

theorem plain_imports (depth : Nat) :
    PlainNames ((imports depth).flatMap Declaration.identifiers) :=
  (by decide : PlainNames importedNames)

section

variable {abi : Items} {docs : Option Documentation} {c : Contract}

theorem plain_ofItem (h : PlainNames (writtenNames abi)) {i : Item}
    (hi : i ∈ itemsOfType "function" abi) (overloaded : Bool) :
    PlainNames ((Function.ofItem docs i).method overloaded).identifiers := by
  have hitem := plainNames_flatMap.mp (plainNames_append.mp h).1 i hi
  obtain ⟨hname, hparams⟩ := plainNames_cons.mp hitem
  rw [List.map_append, plainNames_append] at hparams
  apply Function.plain_method overloaded hname
  · exact (paramNames_ofComponents i.inputs).symm ▸ hparams.1
  · exact (paramNames_ofComponents i.outputs).symm ▸ hparams.2

theorem plain_event (h : PlainNames (writtenNames abi)) (hc : c.events = eventsOf abi) {e : Event}
    {overloaded : Bool} (he : (e, overloaded) ∈ taggedEvents c.events) :
    isPlainName e.name = true ∧ PlainNames (paramNames e.inputs) := by
  rw [hc, taggedEvents_eventsOf] at he
  obtain ⟨i, hi, hei⟩ := List.mem_map.mp he
  obtain ⟨rfl, rfl⟩ := Prod.mk.inj hei
  have hmem := (grouped_perm Item.nameOrEmpty (itemsOfType "event" abi)).mem_iff.mp hi
  have hitem := plainNames_flatMap.mp (plainNames_append.mp h).2 i hmem
  obtain ⟨hname, hparams⟩ := plainNames_cons.mp hitem
  exact ⟨hname, (paramNames_ofComponents i.inputs).symm ▸ hparams⟩

theorem plain_methods (h : PlainNames (writtenNames abi))
    (hc : c.functions = functionsOf docs abi) : ∀ m ∈ c.methods, PlainNames m.identifiers := by
  intro m hm
  rw [methods_functionsOf hc] at hm
  obtain ⟨i, hi, rfl⟩ := List.mem_map.mp hm
  exact plain_ofItem h ((functionsInOrder_perm abi).mem_iff.mp hi) _

theorem plain_eventTypes (h : PlainNames (writtenNames abi)) (hc : c.events = eventsOf abi) :
    ∀ d ∈ c.eventTypes, PlainNames d.identifiers := by
  intro d hd
  obtain ⟨⟨e, overloaded⟩, he, rfl⟩ := List.mem_map.mp hd
  obtain ⟨hname, hparams⟩ := plain_event h hc he
  exact Event.plain_declaration overloaded hname hparams

theorem plain_subscriptions (h : PlainNames (writtenNames abi)) (hc : c.events = eventsOf abi) :
    ∀ m ∈ c.subscriptions, PlainNames m.identifiers := by
  intro m hm
  rcases mem_subscriptions hm with rfl | ⟨e, overloaded, he, hm⟩
  · decide
  · exact Event.plain_subscriptions (plain_event h hc he).1 hm

theorem plain_listeners (h : PlainNames (writtenNames abi)) (hc : c.events = eventsOf abi) :
    ∀ m ∈ c.listeners, PlainNames m.identifiers := by
  intro m hm
  obtain ⟨e, he, hm⟩ := mem_listeners hm
  exact Event.plain_listeners (plain_event h hc he).1 hm

theorem plain_memberMethods {ms : List Method} (h : ∀ m ∈ ms, PlainNames m.identifiers) :
    PlainNames (memberIdentifiers (ms.map .method)) := by
  apply plainNames_memberIdentifiers.mpr
  intro member hmember
  obtain ⟨m, hm, rfl⟩ := List.mem_map.mp hmember
  exact h m hm

theorem plain_members (hn : PlainNames [c.name]) (hm : ∀ m ∈ c.methods, PlainNames m.identifiers)
    (hs : ∀ m ∈ c.subscriptions, PlainNames m.identifiers)
    (hl : ∀ m ∈ c.listeners, PlainNames m.identifiers) :
    PlainNames (memberIdentifiers c.members) := by
  have hconstructor : PlainNames c.constructorMethod.identifiers := by
    have hparams : PlainNames ["constructor", "jsonInterface", "any", "address", "string",
      "options", "ContractOptions"] := by decide
    exact plainNames_append.mpr ⟨hparams, hn⟩
  have hclone : PlainNames c.cloneMethod.identifiers := by
    have hkey : PlainNames ["clone"] := by decide
    exact plainNames_append.mpr ⟨hkey, hn⟩
  have hmethods : PlainNames (Member.group "methods" (c.methods.map .method)).identifiers :=
    plainNames_cons.mpr ⟨by decide, plain_memberMethods hm⟩
  have hevents : PlainNames (Member.group "events" (c.subscriptions.map .method)).identifiers :=
    plainNames_cons.mpr ⟨by decide, plain_memberMethods hs⟩
  apply plainNames_memberIdentifiers.mpr
  simp only [members, List.cons_append, List.nil_append, List.forall_mem_cons]
  refine ⟨hconstructor, hclone, hmethods, hevents, ?_⟩
  apply plainNames_memberIdentifiers.mp
  split
  · exact fun _ h => absurd h List.not_mem_nil
  · exact plain_memberMethods hl

end

/-- Types, names inside of tuples and documentation may be any text: the comments, literals and
brackets of the module of an accepted contract end and nest. -/
theorem isEnclosed_module {abi : Items} {path : Path} {docs : Option Documentation} {c : Contract}
    (h : Contract.ofAbi abi path docs = .ok c) (hc : isPlainName c.name = true)
    (hn : PlainNames (writtenNames abi)) : isEnclosed c.module.render = true := by
  obtain ⟨_, _, -, -, hd, -⟩ := ofAbi_eq_ok_iff.mp h
  have hfunctions : c.functions = functionsOf docs abi := by rw [hd]
  have hevents : c.events = eventsOf abi := by rw [hd]
  have hname : PlainNames [c.name] := plainNames_singleton.mpr hc
  have hmembers : PlainNames (memberIdentifiers c.members) :=
    plain_members hname (plain_methods hn hfunctions) (plain_subscriptions hn hevents)
      (plain_listeners hn hevents)
  have hinterface : PlainNames c.interface.identifiers := by
    have hbase : PlainNames ["BaseContract"] := by decide
    exact plainNames_cons.mpr ⟨hc, plainNames_append.mpr ⟨hbase, hmembers⟩⟩
  apply Module.isEnclosed_render
  rw [Module.identifiers, module, List.flatMap_append, List.flatMap_append, plainNames_append,
    plainNames_append]
  exact ⟨⟨plain_imports c.depth, plainNames_flatMap.mpr (plain_eventTypes hn hevents)⟩,
    plainNames_flatMap.mpr (List.forall_mem_singleton.mpr hinterface)⟩

theorem isEnclosed_module_vault : ∃ c, Contract.ofAbi [
      { type := "function", name := some "f", inputs := [{ type := "\"(" }] },
      { type := "function", name := some "f",
        inputs := [{ type := "tuple", components := [{ name := "*/", type := "]\\" }] }] },
      { type := "event", name := some "Paused", inputs := [{ name := "by", type := "<\"" }] }]
      ⟨"vaults/vault.json"⟩
      (some { methods := .ofList [("f(\"()", { details := "*/ \x7b \"" })] }) = .ok c ∧
    c.name = "Vault" ∧ isEnclosed c.module.render = true := by
  apply exists_ok_of_map (·.name) "Vault" (by decide +kernel)
  intro c hr hname
  have hplain : isPlainName c.name = true := by
    rw [hname]
    decide
  exact ⟨hname, isEnclosed_module hr hplain (by decide)⟩

end Contract

end ContractTypings
