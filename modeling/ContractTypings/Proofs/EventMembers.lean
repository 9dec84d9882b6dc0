import ContractTypings.Proofs.MethodKeys
import ContractTypings.Proofs.Refusal

namespace ContractTypings

open Abi Natspec Overloads Text TypeScript

theorem takeWhile_signature {name : String} (h : '(' ∉ name.toList) (ps : List Param) :
    (signature name ps).toList.takeWhile (· ≠ '(') = name.toList := by
  have hname : ∀ c ∈ name.toList, decide (c ≠ '(') = true := by
    intro c hc
    exact decide_eq_true fun he => h (he ▸ hc)
  simp only [signature, String.append_assoc, String.toList_append]
  rw [List.takeWhile_append_of_pos hname]
  simp

theorem name_eq_of_signature_eq {m n : String} {ps qs : List Param} (hm : '(' ∉ m.toList)
    (hn : '(' ∉ n.toList) (h : signature m ps = signature n qs) : m = n := by
  rw [← String.toList_inj, ← takeWhile_signature hm ps, h, takeWhile_signature hn]

namespace Event

section

variable (e : Event) (overloaded : Bool)

theorem signature_subscriptions (key : PropertyKey)
    (h : key = if overloaded then .quoted e.signature else .ident e.name) :
    (e.subscriptions overloaded).map Method.signature =
      [key.text ++ "(cb?: Callback<" ++ e.typeName overloaded ++ ">): ContractEventEmitter<" ++
          e.typeName overloaded ++ ">;",
        key.text ++ "(options?: EventOptions, cb?: Callback<" ++ e.typeName overloaded ++
          ">): ContractEventEmitter<" ++ e.typeName overloaded ++ ">;"] := by
  subst h
  simp [subscriptions, Method.signature, Parameter.text, options, callback, TypeExpr.text,
    typeTexts, commaSeparated, ← String.toList_inj]

theorem signature_listeners : e.listeners.map Method.signature =
    ["once(event: " ++ quote e.name ++ ", cb: Callback<" ++ e.name ++ ">): void;",
      "once(event: " ++ quote e.name ++ ", options: EventOptions, cb: Callback<" ++ e.name ++
        ">): void;"] := by
  simp [listeners, Method.signature, Parameter.text, options, callback, TypeExpr.text,
    typeTexts, commaSeparated, PropertyKey.text, ← String.toList_inj]

theorem signature_allEvents : allEvents.signature =
    "allEvents(options?: EventOptions, cb?: Callback<EventLog>): EventEmitter;" := by
  decide +kernel

end

end Event

namespace Contract

def eventNames (abi : Items) : List String := (itemsOfType "event" abi).map Item.nameOrEmpty

def subscriptionLines (events : Items) (i : Item) : List String :=
  let key := (memberKey events i).text
  let type := i.typeName events
  [key ++ "(cb?: Callback<" ++ type ++ ">): ContractEventEmitter<" ++ type ++ ">;",
    key ++ "(options?: EventOptions, cb?: Callback<" ++ type ++ ">): ContractEventEmitter<" ++
      type ++ ">;"]

def listenerLines (i : Item) : List String :=
  let name := i.nameOrEmpty
  ["once(event: " ++ quote name ++ ", cb: Callback<" ++ name ++ ">): void;",
    "once(event: " ++ quote name ++ ", options: EventOptions, cb: Callback<" ++ name ++
      ">): void;"]

/-- No other event has the name of this one, and the topics of its logs have it. -/
def IsListenable (events : Items) (i : Item) : Prop :=
  (events.map Item.nameOrEmpty).count i.nameOrEmpty = 1 ∧ i.anonymous ≠ some true

instance (events : Items) (i : Item) : Decidable (IsListenable events i) :=
  inferInstanceAs (Decidable (_ ∧ _))

section

variable {abi : Items} {c : Contract}

theorem nodup_signatures_of_names (hn : ∀ i ∈ itemsOfType "event" abi, '(' ∉ i.nameOrEmpty.toList)
    (hs : ∀ name, (eventSignatures name abi).Nodup) :
    ((itemsOfType "event" abi).map Item.signature).Nodup := by
  rw [← ((grouped_perm Item.nameOrEmpty (itemsOfType "event" abi)).map Item.signature).nodup_iff,
    grouped, List.map_flatMap, List.nodup_flatMap]
  refine ⟨fun name _ => hs name, (nodup_namesOf _ _).imp fun {m n} hne s hm hn' => ?_⟩
  -- events of different names have different signatures
  obtain ⟨i, hi, rfl⟩ := List.mem_map.mp hm
  obtain ⟨j, hj, he⟩ := List.mem_map.mp hn'
  obtain ⟨hie, rfl⟩ := (mem_named _).mp hi
  obtain ⟨hje, rfl⟩ := (mem_named _).mp hj
  exact hne (name_eq_of_signature_eq (hn i hie) (hn j hje) he.symm)

theorem subscriptions_eq (h : c.events = eventsOf abi) : c.subscriptions =
    ((eventsInOrder abi).flatMap fun i => (Event.ofItem i).subscriptions
      (isOverloaded Item.nameOrEmpty (itemsOfType "event" abi) i)) ++ [Event.allEvents] := by
  rw [subscriptions, h, taggedEvents_eventsOf, List.flatMap_map]

theorem keys_subscriptions (h : c.events = eventsOf abi) : c.subscriptions.map (·.key) =
    ((eventsInOrder abi).flatMap fun i => [memberKey (itemsOfType "event" abi) i,
      memberKey (itemsOfType "event" abi) i]) ++ [.ident "allEvents"] := by
  rw [subscriptions_eq h, List.map_append, List.map_flatMap]
  rfl

theorem signature_subscriptions (h : c.events = eventsOf abi) :
    c.subscriptions.map Method.signature =
      (eventsInOrder abi).flatMap (subscriptionLines (itemsOfType "event" abi)) ++
        ["allEvents(options?: EventOptions, cb?: Callback<EventLog>): EventEmitter;"] := by
  rw [subscriptions_eq h, List.map_append, List.map_flatMap, List.map_singleton,
    Event.signature_allEvents]
  congr 1
  apply List.flatMap_congr
  intro i _
  exact Event.signature_subscriptions _ _ (memberKey (itemsOfType "event" abi) i) rfl

theorem listeners_group (events : Items) (name : String) :
    (match (name, (named Item.nameOrEmpty name events).map Event.ofItem) with
      | (_, [e]) => if e.anonymous then [] else e.listeners
      | _ => []) =
    ((named Item.nameOrEmpty name events).filter fun i => decide (IsListenable events i)).flatMap
      fun i => (Event.ofItem i).listeners := by
  have hcount : ∀ i ∈ named Item.nameOrEmpty name events,
      (events.map Item.nameOrEmpty).count i.nameOrEmpty =
        (named Item.nameOrEmpty name events).length := by
    intro i hi
    rw [((mem_named _).mp hi).2, count_names]
  match hn : named Item.nameOrEmpty name events with
  | [] => rfl
  | [i] =>
    rw [hn] at hcount
    have hone := hcount i List.mem_cons_self
    have hanonymous : (Event.ofItem i).anonymous = true ↔ i.anonymous = some true := by
      cases ha : i.anonymous <;> simp [Event.ofItem, ha]
    by_cases ha : i.anonymous = some true
    · have hnot : ¬ IsListenable events i := fun h => h.2 ha
      simp [hanonymous.mpr ha, hnot]
    · have hlisten : IsListenable events i := ⟨hone, ha⟩
      have hfalse := mt hanonymous.mp ha
      simp [hfalse, hlisten]
  | i :: j :: is =>
    have hnone : (i :: j :: is).filter (fun k => decide (IsListenable events k)) = [] := by
      apply List.filter_eq_nil_iff.mpr
      intro k hk hl
      rw [← hn] at hk
      have hone := (of_decide_eq_true hl).1
      rw [hcount k hk, hn] at hone
      simp at hone
    rw [hnone]
    rfl

theorem listeners_eq (h : c.events = eventsOf abi) : c.listeners =
    ((eventsInOrder abi).filter fun i =>
      decide (IsListenable (itemsOfType "event" abi) i)).flatMap
        fun i => (Event.ofItem i).listeners := by
  rw [listeners, h, groups_eventsOf, List.flatMap_map, eventsInOrder, grouped,
    List.filter_flatMap, List.flatMap_assoc]
  apply List.flatMap_congr
  intro name _
  exact listeners_group _ name

theorem signature_listeners (h : c.events = eventsOf abi) : c.listeners.map Method.signature =
    ((eventsInOrder abi).filter fun i =>
      decide (IsListenable (itemsOfType "event" abi) i)).flatMap listenerLines := by
  rw [listeners_eq h, List.map_flatMap]
  apply List.flatMap_congr
  intro i _
  exact Event.signature_listeners _

theorem isEmpty_listeners (h : c.events = eventsOf abi) : c.listeners.isEmpty = true ↔
    ¬ ∃ i ∈ itemsOfType "event" abi, IsListenable (itemsOfType "event" abi) i := by
  rw [List.isEmpty_iff, listeners_eq h, List.flatMap_eq_nil_iff]
  constructor
  · rintro hnil ⟨i, hi, hl⟩
    have hmem : i ∈ (eventsInOrder abi).filter fun i =>
        decide (IsListenable (itemsOfType "event" abi) i) :=
      List.mem_filter.mpr ⟨(grouped_perm _ _).mem_iff.mpr hi, decide_eq_true hl⟩
    exact absurd (hnil i hmem) (List.cons_ne_nil _ _)
  · intro hnot i hi
    obtain ⟨hi, hl⟩ := List.mem_filter.mp hi
    exact absurd ⟨i, (grouped_perm _ _).mem_iff.mp hi, of_decide_eq_true hl⟩ hnot

theorem members_eq (h : c.events = eventsOf abi) : c.members =
    [.method c.constructorMethod, .method c.cloneMethod,
      .group "methods" (c.methods.map .method),
      .group "events" (c.subscriptions.map .method)] ++
    if ∃ i ∈ itemsOfType "event" abi, IsListenable (itemsOfType "event" abi) i then
      .blank :: c.listeners.map .method
    else [] := by
  rw [members]
  by_cases he : c.listeners.isEmpty = true
  · rw [if_pos he, if_neg ((isEmpty_listeners h).mp he)]
  · rw [if_neg he, if_pos (not_not.mp (mt (isEmpty_listeners h).mpr he))]

end

/-- The `events` group of an accepted contract has two members for each event of the ABI, those of
one name together, and at last one for all events. An event with a name of its own is found under
it, each of several under its signature, and no two under the same property unless a name has a
parenthesis in it. Behind a blank line the contract has two listeners for each event that has a name
of its own and is not anonymous, if there is one. -/
theorem event_members {abi : Items} {path : Path} {docs : Option Documentation} {c : Contract}
    (h : Contract.ofAbi abi path docs = .ok c) :
    let events := itemsOfType "event" abi
    (eventsInOrder abi).Perm events ∧
      c.subscriptions.map (·.key) =
        ((eventsInOrder abi).flatMap fun i => [memberKey events i, memberKey events i]) ++
          [.ident "allEvents"] ∧
      c.subscriptions.map Method.signature =
        (eventsInOrder abi).flatMap (subscriptionLines events) ++
          ["allEvents(options?: EventOptions, cb?: Callback<EventLog>): EventEmitter;"] ∧
      (∀ i ∈ events,
        ((eventNames abi).count i.nameOrEmpty = 1 → memberKey events i = .ident i.nameOrEmpty) ∧
        ((eventNames abi).count i.nameOrEmpty ≠ 1 → memberKey events i = .quoted i.signature)) ∧
      ((∀ i ∈ events, '(' ∉ i.nameOrEmpty.toList) →
        ((eventsInOrder abi).map fun i => (memberKey events i).property).Nodup) ∧
      c.listeners.map Method.signature =
        ((eventsInOrder abi).filter fun i => decide (IsListenable events i)).flatMap
          listenerLines ∧
      c.members =
        [.method c.constructorMethod, .method c.cloneMethod,
          .group "methods" (c.methods.map .method),
          .group "events" (c.subscriptions.map .method)] ++
        if ∃ i ∈ events, IsListenable events i then .blank :: c.listeners.map .method else [] := by
  intro events
  obtain ⟨_, name, -, -, hc, hclash⟩ := ofAbi_eq_ok_iff.mp h
  have hevents : c.events = eventsOf abi := by rw [hc]
  have hperm : (eventsInOrder abi).Perm events := grouped_perm _ _
  refine ⟨hperm, keys_subscriptions hevents, signature_subscriptions hevents, ?_, ?_,
    signature_listeners hevents, members_eq hevents⟩
  · intro i hi
    refine ⟨memberKey_of_unique, fun hne => memberKey_of_shared ?_⟩
    have hpos : 0 < (eventNames abi).count i.nameOrEmpty :=
      List.count_pos_iff.mpr (List.mem_map_of_mem hi)
    exact Nat.lt_of_le_of_ne hpos (Ne.symm hne)
  · intro hn
    have hfree : CollisionFree name abi := by
      rw [← clash?_described_eq_none_iff name path docs, described, ← hc]
      exact hclash
    exact (hperm.map _).nodup_iff.mpr
      (nodup_properties hn (nodup_signatures_of_names hn hfree.events))

theorem event_members_mixed :
    let abi : Items := [
      { type := "event", name := some "E", inputs := [{ type := "bool" }] },
      { type := "event", name := some "Paused" },
      { type := "event", name := some "Raw", anonymous := some true },
      { type := "event", name := some "E", anonymous := some true }]
    ∃ c, ofAbi abi ⟨"vault.json"⟩ none = .ok c ∧
      c.subscriptions.map (·.key) = [.quoted "E(bool)", .quoted "E(bool)", .quoted "E()",
        .quoted "E()", .ident "Paused", .ident "Paused", .ident "Raw", .ident "Raw",
        .ident "allEvents"] ∧
      ((eventsInOrder abi).map fun i =>
        (memberKey (itemsOfType "event" abi) i).property).Nodup ∧
      c.listeners.map Method.signature = [
        "once(event: \"Paused\", cb: Callback<Paused>): void;",
        "once(event: \"Paused\", options: EventOptions, cb: Callback<Paused>): void;"] ∧
      c.members =
        [.method c.constructorMethod, .method c.cloneMethod,
          .group "methods" (c.methods.map .method),
          .group "events" (c.subscriptions.map .method)] ++
        .blank :: c.listeners.map .method := by
  intro abi
  apply exists_ok_of_map (·.name) "Vault" (by decide +kernel)
  intro c hr _
  obtain ⟨-, hkeys, -, -, hnodup, hlisteners, hmembers⟩ := event_members hr
  refine ⟨?_, hnodup (by decide), ?_, ?_⟩
  · rw [hkeys]
    decide +kernel
  · rw [hlisteners]
    decide +kernel
  · rw [hmembers, if_pos (by decide)]

end Contract

end ContractTypings
