import ContractTypings.Abi.Item
import ContractTypings.Proofs.Refusal
import Mathlib.Data.List.Forall2

namespace ContractTypings

open Abi Natspec Overloads TypeScript

structure EvmType.Alike (a b : EvmType) : Prop where
  text : a.text = b.text
  symbol : a.symbol = b.symbol
  inputType : a.inputType = b.inputType
  outputType : a.outputType = b.outputType
  isReference : a.isReference = b.isReference

theorem EvmType.Alike.refl (t : EvmType) : t.Alike t := ⟨rfl, rfl, rfl, rfl, rfl⟩

namespace Param

variable {p q : Param}

theorem kindText_eq (h : p.kind.Alike q.kind) : p.kindText = q.kindText := by
  cases p
  cases q
  exact h.text

theorem kindSymbol_eq (h : p.kind.Alike q.kind) : p.kindSymbol = q.kindSymbol := by
  cases p
  cases q
  exact h.symbol

theorem inputType_eq (h : p.kind.Alike q.kind) : p.inputType = q.inputType := by
  cases p
  cases q
  exact h.inputType

theorem outputType_eq (h : p.kind.Alike q.kind) : p.outputType = q.outputType := by
  cases p
  cases q
  exact h.outputType

end Param

def KindsAlike : List Param → List Param → Prop := List.Forall₂ fun p q => p.kind.Alike q.kind

section

variable {ps qs : List Param}

theorem KindsAlike.kindTexts (h : KindsAlike ps qs) : kindTexts ps = kindTexts qs := by
  induction h with
  | nil => rfl
  | cons h _ ih => exact congrArg₂ List.cons (Param.kindText_eq h) ih

theorem KindsAlike.kindSymbols (h : KindsAlike ps qs) : kindSymbols ps = kindSymbols qs := by
  induction h with
  | nil => rfl
  | cons h _ ih =>
    rw [ContractTypings.kindSymbols, Param.kindSymbol_eq h, ih, ContractTypings.kindSymbols]

theorem KindsAlike.inputTypes (h : KindsAlike ps qs) : inputTypes ps = inputTypes qs := by
  induction h with
  | nil => rfl
  | cons h _ ih => exact congrArg₂ List.cons (Param.inputType_eq h) ih

theorem KindsAlike.outputTypes (h : KindsAlike ps qs) : outputTypes ps = outputTypes qs := by
  induction h with
  | nil => rfl
  | cons h _ ih => exact congrArg₂ List.cons (Param.outputType_eq h) ih

theorem EvmType.alike_tuple (h : KindsAlike ps qs) :
    (EvmType.tuple ps).Alike (.tuple qs) where
  text := by rw [EvmType.text, EvmType.text, h.kindTexts]
  symbol := by rw [EvmType.symbol, EvmType.symbol, h.kindSymbols]
  inputType := by rw [EvmType.inputType, EvmType.inputType, h.inputTypes]
  outputType := by rw [EvmType.outputType, EvmType.outputType, h.outputTypes]
  isReference := rfl

theorem EvmType.alike_array {a b : EvmType} (h : a.Alike b) (size : Option Nat) :
    (EvmType.array a size).Alike (.array b size) where
  text := by rw [EvmType.text, EvmType.text, h.text]
  symbol := by rw [EvmType.symbol, EvmType.symbol, h.symbol]
  inputType := by rw [EvmType.inputType, EvmType.inputType, h.inputType]
  outputType := by rw [EvmType.outputType, EvmType.outputType, h.outputType]
  isReference := rfl

theorem EvmType.alike_ofWord (h : KindsAlike ps qs) (cs : List Char) :
    (ofWord cs ps).Alike (ofWord cs qs) := by
  unfold ofWord
  split
  · exact Alike.refl _
  · exact Alike.refl _
  · exact Alike.refl _
  · split
    case h_6 => exact alike_tuple h
    all_goals exact Alike.refl _

theorem EvmType.alike_ofChars (h : KindsAlike ps qs) (cs : List Char) :
    (ofChars cs ps).Alike (ofChars cs qs) := by
  -- along the brackets, down to the word in front of them
  induction cs using ofChars.induct with
  | case1 cs item size hs ih =>
    rw [ofChars, ofChars]
    split
    next item' size' hs' =>
      rw [hs] at hs'
      obtain ⟨rfl, rfl⟩ := Prod.mk.inj (Option.some.inj hs')
      exact alike_array ih size
    · exact alike_ofWord h _
  | case2 cs hs =>
    rw [ofChars, ofChars]
    split
    next hs' =>
      rw [hs] at hs'
      cases hs'
    · exact alike_ofWord h _

end

mutual

theorem Param.alike_typeOnly : (c : Component) →
    (Param.ofComponent c.typeOnly).kind.Alike (Param.ofComponent c).kind
  | ⟨_, _, type, components, _⟩ =>
    EvmType.alike_ofChars (kindsAlike_typesOnly components) type.toList

theorem kindsAlike_typesOnly : (cs : List Component) →
    KindsAlike (Param.ofComponents (typesOnly cs)) (Param.ofComponents cs)
  | [] => List.Forall₂.nil
  | c :: cs => List.Forall₂.cons (Param.alike_typeOnly c) (kindsAlike_typesOnly cs)

end

structure Param.Alike (p q : Param) : Prop where
  name : p.name = q.name
  kind : p.kind.Alike q.kind

theorem Param.alike_inFunction (c : Component) :
    (ofComponent c.inFunction).Alike (ofComponent c) := by
  obtain ⟨internalType, name, type, components, indexed⟩ := c
  exact ⟨rfl, EvmType.alike_ofChars (kindsAlike_typesOnly components) type.toList⟩

theorem Param.alike_inEvent (c : Component) :
    (ofComponent c.inEvent).Alike (ofComponent c) ∧
      (ofComponent c.inEvent).indexed = (ofComponent c).indexed := by
  obtain ⟨internalType, name, type, components, indexed⟩ := c
  exact ⟨⟨rfl, EvmType.alike_ofChars (kindsAlike_typesOnly components) type.toList⟩, rfl⟩

theorem forall₂_ofComponents {R : Param → Param → Prop} {part : Component → Component}
    (h : ∀ c, R (Param.ofComponent (part c)) (Param.ofComponent c)) (cs : List Component) :
    List.Forall₂ R (Param.ofComponents (cs.map part)) (Param.ofComponents cs) := by
  induction cs with
  | nil => exact List.Forall₂.nil
  | cons c cs ih => exact List.Forall₂.cons (h c) ih

theorem map_zipIdx_congr {α β : Type} {f : α × Nat → β} {as bs : List α}
    (h : List.Forall₂ (fun a b => ∀ n, f (a, n) = f (b, n)) as bs) (n : Nat) :
    (as.zipIdx n).map f = (bs.zipIdx n).map f := by
  induction h generalizing n with
  | nil => rfl
  | cons h _ ih =>
    rw [List.zipIdx_cons, List.zipIdx_cons, List.map_cons, List.map_cons, h n, ih (n + 1)]

theorem filterMap_congr_of_forall₂ {α β : Type} {f : α → Option β} {as bs : List α}
    (h : List.Forall₂ (fun a b => f a = f b) as bs) : as.filterMap f = bs.filterMap f := by
  induction h with
  | nil => rfl
  | cons h _ ih => rw [List.filterMap_cons, List.filterMap_cons, h, ih]

section

variable {ps qs : List Param}

theorem parametersOf_congr (h : List.Forall₂ Param.Alike ps qs) :
    parametersOf ps = parametersOf qs := by
  apply map_zipIdx_congr
  apply h.imp
  intro p q hpq n
  simp only [Param.nameOrEmpty, hpq.name, Param.inputType_eq hpq.kind]

theorem recordType_congr {typeOf : Param → TypeExpr}
    (h : List.Forall₂ (fun p q => p.name = q.name ∧ typeOf p = typeOf q) ps qs) :
    recordType typeOf ps = recordType typeOf qs := by
  have hnamed :
      ps.filterMap (fun p => p.name.map fun n => TypeScript.Field.mk (.ident n) (typeOf p)) =
        qs.filterMap fun p => p.name.map fun n => TypeScript.Field.mk (.ident n) (typeOf p) := by
    apply filterMap_congr_of_forall₂
    apply h.imp
    rintro p q ⟨hname, htype⟩
    rw [hname, htype]
  have hpositions :
      ps.zipIdx.map (fun entry => TypeScript.Field.mk (.index entry.2) (typeOf entry.1)) =
        qs.zipIdx.map fun entry => TypeScript.Field.mk (.index entry.2) (typeOf entry.1) := by
    apply map_zipIdx_congr
    apply h.imp
    rintro p q ⟨-, htype⟩ n
    rw [htype]
  rw [recordType, recordType, hnamed, hpositions]

theorem resultType_congr (h : List.Forall₂ Param.Alike ps qs) : resultType ps = resultType qs := by
  have hrecord : recordType Param.outputType ps = recordType Param.outputType qs := by
    apply recordType_congr
    apply h.imp
    intro p q hpq
    exact ⟨hpq.name, Param.outputType_eq hpq.kind⟩
  match h with
  | .nil => rfl
  | .cons hpq .nil => exact Param.outputType_eq hpq.kind
  | .cons _ (.cons _ _) => exact hrecord

theorem docTexts_congr (h : List.Forall₂ Param.Alike ps qs) (doc : FunctionDoc) :
    docTexts doc ps = docTexts doc qs := by
  have hnames : ps.filterMap Param.name = qs.filterMap Param.name :=
    filterMap_congr_of_forall₂ (h.imp fun _ _ hpq => hpq.name)
  rw [docTexts, docTexts, documentedNames, documentedNames, hnames]

theorem kindsAlike_of_alike (h : List.Forall₂ Param.Alike ps qs) : KindsAlike ps qs :=
  h.imp fun _ _ hpq => hpq.kind

theorem signature_congr (h : KindsAlike ps qs) (name : String) :
    signature name ps = signature name qs := by
  rw [signature, signature, h.kindTexts]

end

namespace Abi.Item

theorem type_functionPart (i : Item) : i.functionPart.type = i.type := rfl

theorem type_eventPart (i : Item) : i.eventPart.type = i.type := rfl

theorem nameOrEmpty_functionPart (i : Item) : i.functionPart.nameOrEmpty = i.nameOrEmpty := rfl

theorem nameOrEmpty_eventPart (i : Item) : i.eventPart.nameOrEmpty = i.nameOrEmpty := rfl

theorem alike_inputs_function (i : Item) : List.Forall₂ Param.Alike
    (Param.ofComponents i.functionPart.inputs) (Param.ofComponents i.inputs) :=
  forall₂_ofComponents Param.alike_inFunction i.inputs

theorem alike_outputs_function (i : Item) : List.Forall₂ Param.Alike
    (Param.ofComponents i.functionPart.outputs) (Param.ofComponents i.outputs) :=
  forall₂_ofComponents Param.alike_inFunction i.outputs

theorem alike_inputs_event (i : Item) :
    List.Forall₂ (fun p q => p.Alike q ∧ p.indexed = q.indexed)
      (Param.ofComponents i.eventPart.inputs) (Param.ofComponents i.inputs) :=
  forall₂_ofComponents Param.alike_inEvent i.inputs

theorem signature_functionPart (i : Item) : i.functionPart.signature = i.signature :=
  signature_congr (kindsAlike_of_alike i.alike_inputs_function) i.nameOrEmpty

theorem kindsAlike_event (i : Item) :
    KindsAlike (Param.ofComponents i.eventPart.inputs) (Param.ofComponents i.inputs) :=
  i.alike_inputs_event.imp fun _ _ h => h.1.kind

theorem signature_eventPart (i : Item) : i.eventPart.signature = i.signature :=
  signature_congr i.kindsAlike_event i.nameOrEmpty

end Abi.Item

theorem Function.method_functionPart (docs : Option Documentation) (overloaded : Bool) (i : Item) :
    (ofItem docs i.functionPart).method overloaded = (ofItem docs i).method overloaded := by
  have hinputs := i.alike_inputs_function
  have hkey : (ofItem docs i.functionPart).signature = (ofItem docs i).signature :=
    i.signature_functionPart
  have hdoc : (ofItem docs i.functionPart).doc = (ofItem docs i).doc := by
    have hsignature := signature_congr (kindsAlike_of_alike hinputs) (i.name.getD "")
    simp only [ofItem]
    rw [← hsignature]
    rfl
  have htexts : ∀ doc, docTexts doc (ofItem docs i.functionPart).inputs =
      docTexts doc (ofItem docs i).inputs := docTexts_congr hinputs
  have hparameters : parametersOf (ofItem docs i.functionPart).inputs =
      parametersOf (ofItem docs i).inputs := parametersOf_congr hinputs
  have hresult : resultType (ofItem docs i.functionPart).outputs =
      resultType (ofItem docs i).outputs := resultType_congr i.alike_outputs_function
  simp only [method, hdoc, htexts, hkey, hparameters, hresult]
  rfl

namespace Event

theorem typeName_eventPart (overloaded : Bool) (i : Item) :
    (ofItem i.eventPart).typeName overloaded = (ofItem i).typeName overloaded := by
  have hsymbol : signatureSymbol (ofItem i.eventPart).name (ofItem i.eventPart).inputs =
      signatureSymbol (ofItem i).name (ofItem i).inputs :=
    congrArg (i.nameOrEmpty ++ ·) i.kindsAlike_event.kindSymbols
  rw [typeName, hsymbol]
  rfl

theorem declaration_eventPart (overloaded : Bool) (i : Item) :
    (ofItem i.eventPart).declaration overloaded = (ofItem i).declaration overloaded := by
  have hrecord : recordType fieldType (ofItem i.eventPart).inputs =
      recordType fieldType (ofItem i).inputs := by
    apply recordType_congr
    apply i.alike_inputs_event.imp
    rintro p q ⟨hpq, hindexed⟩
    refine ⟨hpq.name, ?_⟩
    rw [fieldType, fieldType, hindexed, hpq.kind.isReference, Param.outputType_eq hpq.kind]
  rw [declaration, declaration, typeName_eventPart, hrecord]

theorem subscriptions_eventPart (overloaded : Bool) (i : Item) :
    (ofItem i.eventPart).subscriptions overloaded = (ofItem i).subscriptions overloaded := by
  have hkey : (ofItem i.eventPart).signature = (ofItem i).signature := i.signature_eventPart
  have hname : (ofItem i.eventPart).name = (ofItem i).name := rfl
  simp only [subscriptions, hkey, hname, typeName_eventPart]

end Event

namespace Contract

/-- The functions and the events of an ABI without what a module does not show. -/
def semanticPart (abi : Items) : Items :=
  (itemsOfType "function" abi).map Item.functionPart ++
    (itemsOfType "event" abi).map Item.eventPart

theorem itemsOfType_map {type type' : String} {part : Item → Item}
    (h : ∀ i, (part i).type = i.type) (abi : Items) :
    itemsOfType type ((itemsOfType type' abi).map part) =
      if type' = type then (itemsOfType type' abi).map part else [] := by
  have hmem : ∀ i ∈ (itemsOfType type' abi).map part, i.type = type' := by
    intro i hi
    obtain ⟨j, hj, rfl⟩ := List.mem_map.mp hi
    rw [h j]
    exact eq_of_beq (List.mem_filter.mp hj).2
  split
  next ht =>
    apply List.filter_eq_self.mpr
    intro i hi
    rw [hmem i hi, ht]
    exact beq_self_eq_true type
  next ht =>
    apply List.filter_eq_nil_iff.mpr
    intro i hi
    rw [hmem i hi]
    exact fun he => ht (eq_of_beq he)

theorem itemsOfType_append (type : String) (abi abi' : Items) :
    itemsOfType type (abi ++ abi') = itemsOfType type abi ++ itemsOfType type abi' :=
  List.filter_append abi abi'

theorem functions_semanticPart (abi : Items) : itemsOfType "function" (semanticPart abi) =
    (itemsOfType "function" abi).map Item.functionPart := by
  rw [semanticPart, itemsOfType_append, itemsOfType_map Item.type_functionPart,
    itemsOfType_map Item.type_eventPart]
  simp

theorem events_semanticPart (abi : Items) : itemsOfType "event" (semanticPart abi) =
    (itemsOfType "event" abi).map Item.eventPart := by
  rw [semanticPart, itemsOfType_append, itemsOfType_map Item.type_functionPart,
    itemsOfType_map Item.type_eventPart]
  simp

theorem functionsInOrder_semanticPart (abi : Items) : functionsInOrder (semanticPart abi) =
    (functionsInOrder abi).map Item.functionPart := by
  rw [functionsInOrder, functions_semanticPart,
    grouped_map Item.nameOrEmpty_functionPart, functionsInOrder]

theorem taggedEvents_semanticPart (abi : Items) : taggedEvents (eventsOf (semanticPart abi)) =
    (eventsInOrder abi).map fun i => (Event.ofItem i.eventPart,
      isOverloaded Item.nameOrEmpty (itemsOfType "event" abi) i) := by
  rw [taggedEvents_eventsOf, eventsInOrder, events_semanticPart,
    grouped_map Item.nameOrEmpty_eventPart, List.map_map, eventsInOrder]
  apply List.map_congr_left
  intro i _
  exact congrArg _ (isOverloaded_map Item.nameOrEmpty_eventPart _ i)

section

variable (name : String) (path : Path) (docs : Option Documentation) (abi : Items)

theorem methods_semanticPart : (described name path docs (semanticPart abi)).methods =
    (described name path docs abi).methods := by
  have hpart : (described name path docs (semanticPart abi)).functions =
      functionsOf docs (semanticPart abi) := rfl
  have hfull : (described name path docs abi).functions = functionsOf docs abi := rfl
  rw [methods_functionsOf hpart, methods_functionsOf hfull, functionsInOrder_semanticPart,
    functions_semanticPart, List.map_map]
  apply List.map_congr_left
  intro i _
  rw [Function.comp_apply, isOverloaded_map Item.nameOrEmpty_functionPart,
    Function.method_functionPart]

theorem eventTypes_semanticPart : (described name path docs (semanticPart abi)).eventTypes =
    (described name path docs abi).eventTypes := by
  simp only [eventTypes, described]
  rw [taggedEvents_semanticPart, taggedEvents_eventsOf, List.map_map, List.map_map]
  apply List.map_congr_left
  intro i _
  exact Event.declaration_eventPart _ i

theorem subscriptions_semanticPart :
    (described name path docs (semanticPart abi)).subscriptions =
      (described name path docs abi).subscriptions := by
  simp only [subscriptions, described]
  rw [taggedEvents_semanticPart, taggedEvents_eventsOf, List.flatMap_map, List.flatMap_map]
  simp only [Event.subscriptions_eventPart]

theorem listeners_semanticPart : (described name path docs (semanticPart abi)).listeners =
    (described name path docs abi).listeners := by
  simp only [listeners, described, groups_eventsOf, events_semanticPart,
    namesOf_map Item.nameOrEmpty_eventPart, named_map Item.nameOrEmpty_eventPart, List.flatMap_map]
  apply List.flatMap_congr
  intro n _
  cases named Item.nameOrEmpty n (itemsOfType "event" abi) with
  | nil => rfl
  | cons i is =>
    cases is with
    | nil => rfl
    | cons j is => rfl

theorem declaredNames_semanticPart :
    (described name path docs (semanticPart abi)).declaredNames =
      (described name path docs abi).declaredNames := by
  simp only [declaredNames, described]
  rw [taggedEvents_semanticPart, taggedEvents_eventsOf, List.map_map, List.map_map]
  apply congrArg (name :: ·)
  apply List.map_congr_left
  intro i _
  exact Event.typeName_eventPart _ i

theorem signatureFamilies_semanticPart :
    (described name path docs (semanticPart abi)).signatureFamilies =
      (described name path docs abi).signatureFamilies := by
  simp only [signatureFamilies, described, items_functionsOf, functionsInOrder_semanticPart,
    groups_eventsOf, events_semanticPart, namesOf_map Item.nameOrEmpty_eventPart,
    named_map Item.nameOrEmpty_eventPart, List.map_map]
  congr 1
  · apply List.map_congr_left
    intro i _
    exact i.signature_functionPart
  · apply List.map_congr_left
    intro n _
    simp only [Function.comp_apply, List.map_map]
    apply List.map_congr_left
    intro i _
    exact i.signature_eventPart

theorem clash?_semanticPart : (described name path docs (semanticPart abi)).clash? =
    (described name path docs abi).clash? :=
  clash?_congr rfl (signatureFamilies_semanticPart name path docs abi)
    (declaredNames_semanticPart name path docs abi)

theorem module_semanticPart : (described name path docs (semanticPart abi)).module =
    (described name path docs abi).module := by
  have hmembers : (described name path docs (semanticPart abi)).members =
      (described name path docs abi).members := by
    simp only [members, methods_semanticPart, subscriptions_semanticPart, listeners_semanticPart]
    rfl
  simp only [module, eventTypes_semanticPart, interface, hmembers]
  rfl

end

/-- Two ABIs with the same functions and the same events, as far as these are there for programs,
are refused with the same failure, or accepted and given the same module. -/
theorem module_of_semanticPart {abi abi' : Items}
    (hf : (itemsOfType "function" abi).map Item.functionPart =
      (itemsOfType "function" abi').map Item.functionPart)
    (he : (itemsOfType "event" abi).map Item.eventPart =
      (itemsOfType "event" abi').map Item.eventPart)
    (path : Path) (docs : Option Documentation) :
    (∃ e, ofAbi abi path docs = .error e ∧ ofAbi abi' path docs = .error e) ∨
      ∃ c c', ofAbi abi path docs = .ok c ∧ ofAbi abi' path docs = .ok c' ∧ c.name = c'.name ∧
        c.path = c'.path ∧ c.module.render = c'.module.render := by
  have hpart : semanticPart abi = semanticPart abi' := by rw [semanticPart, hf, he, semanticPart]
  rcases ofAbi_of_path path with ⟨e, hfail⟩ | ⟨name, hname⟩
  · exact Or.inl ⟨e, hfail abi docs, hfail abi' docs⟩
  have hclash : (described name path docs abi).clash? = (described name path docs abi').clash? := by
    rw [← clash?_semanticPart, hpart, clash?_semanticPart]
  have hmodule : (described name path docs abi).module =
      (described name path docs abi').module := by
    rw [← module_semanticPart, hpart, module_semanticPart]
  rw [hname abi docs, hname abi' docs, hclash]
  cases (described name path docs abi').clash? with
  | some e => exact Or.inl ⟨e, rfl, rfl⟩
  | none => exact Or.inr ⟨_, _, rfl, rfl, rfl, rfl, congrArg Module.render hmodule⟩

theorem module_of_semanticPart_vault : ∃ (abi abi' : Items) (c c' : Contract),
    (itemsOfType "function" abi).map Item.functionPart =
      (itemsOfType "function" abi').map Item.functionPart ∧
    (itemsOfType "event" abi).map Item.eventPart =
      (itemsOfType "event" abi').map Item.eventPart ∧
    ofAbi abi ⟨"vault.json"⟩ none = .ok c ∧ ofAbi abi' ⟨"vault.json"⟩ none = .ok c' ∧
    c ≠ c' ∧ c.module.render = c'.module.render := by
  let p : Component := {
    name := "p", type := "tuple[2]"
    components := [{ name := "a", type := "uint" }, { name := "b", type := "bytes" }] }
  let p' : Component := {
    internalType := some "struct P[2]", name := "p", type := "tuple[2]", indexed := some true
    components := [{ type := "uint", indexed := some true }, { name := "a", type := "bytes" }] }
  let x : Component := { type := "string", indexed := some true }
  let abi : Items := [
    { type := "function", name := some "f", inputs := [p] },
    { type := "event", name := some "E", inputs := [x] }]
  let abi' : Items := [
    { type := "event", name := some "E", inputs := [x], outputs := [x], constant := some true },
    { type := "fallback" },
    { type := "function", name := some "f", anonymous := some true, inputs := [p'] }]
  have hf : (itemsOfType "function" abi).map Item.functionPart =
      (itemsOfType "function" abi').map Item.functionPart := by decide
  have he : (itemsOfType "event" abi).map Item.eventPart =
      (itemsOfType "event" abi').map Item.eventPart := by decide
  rcases module_of_semanticPart hf he ⟨"vault.json"⟩ none with
    ⟨e, hfail, -⟩ | ⟨c, c', hc, hc', -, -, hrender⟩
  · have haccepted : (ofAbi abi ⟨"vault.json"⟩ none).toOption.isSome = true := by decide +kernel
    rw [hfail] at haccepted
    cases haccepted
  · have hne : (ofAbi abi ⟨"vault.json"⟩ none).toOption ≠
        (ofAbi abi' ⟨"vault.json"⟩ none).toOption := by decide +kernel
    rw [hc, hc'] at hne
    exact ⟨abi, abi', c, c', hf, he, hc, hc', fun h => hne (congrArg some h), hrender⟩

end Contract

end ContractTypings
