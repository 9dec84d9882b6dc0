import ContractTypings.Proofs.ModuleScope
import ContractTypings.Proofs.TextParts
import ContractTypings.Proofs.Refusal
import Mathlib

namespace ContractTypings

open Abi Natspec Overloads TypeScript

inductive EvmType.IsHashed : EvmType → Prop
  | string : IsHashed (.elementary .string)
  | bytes : IsHashed (.elementary .bytes)
  | array (item : EvmType) (size : Option Nat) : IsHashed (.array item size)
  | tuple (components : List Param) : IsHashed (.tuple components)

theorem EvmType.isReference_iff {t : EvmType} : t.isReference = true ↔ t.IsHashed := by
  constructor
  · intro h
    match t with
    | .elementary .string => exact .string
    | .elementary .bytes => exact .bytes
    | .array item size => exact .array item size
    | .tuple components => exact .tuple components
  · intro h
    cases h <;> rfl

theorem Param.outputType_kind (p : Param) : p.outputType = p.kind.outputType := by
  obtain ⟨name, kind, indexed⟩ := p
  rw [Param.outputType]

namespace Event

theorem fieldType_of_hashed {p : Param} (hi : p.indexed = true) (hk : p.kind.IsHashed) :
    fieldType p = .string := by
  rw [fieldType, hi, EvmType.isReference_iff.mpr hk]
  rfl

theorem fieldType_of_not_hashed {p : Param} (h : ¬ (p.indexed = true ∧ p.kind.IsHashed)) :
    fieldType p = p.kind.outputType := by
  rw [← EvmType.isReference_iff, ← Bool.and_eq_true] at h
  rw [fieldType, if_neg h, Param.outputType_kind]

end Event

def givenNames (ps : List Param) : List String := ps.filterMap Param.name

structure IsRecordOf (typeOf : Param → TypeExpr) (ps : List Param) (fields : List Field) :
    Prop where
  keys : fields.map Field.key =
    (givenNames ps).map .ident ++ (List.range ps.length).map .index
  named : ∀ (k : Nat) (p : Param) (n : String), ps[k]? = some p → p.name = some n →
    fields[(givenNames (ps.take k)).length]? = some ⟨.ident n, typeOf p⟩
  positional : ∀ (k : Nat) (p : Param), ps[k]? = some p →
    fields[(givenNames ps).length + k]? = some ⟨.index k, typeOf p⟩

theorem getElem?_filterMap_take {α β : Type} {f : α → Option β} {l : List α} {k : Nat} {a : α}
    {b : β} (h : l[k]? = some a) (hf : f a = some b) :
    (l.filterMap f)[((l.take k).filterMap f).length]? = some b := by
  obtain ⟨hlt, rfl⟩ := List.getElem?_eq_some_iff.mp h
  have hsplit : l.filterMap f =
      (l.take k).filterMap f ++ b :: (l.drop (k + 1)).filterMap f := by
    conv_lhs => rw [← List.take_append_drop k l, ← List.getElem_cons_drop hlt]
    rw [List.filterMap_append, List.filterMap_cons_some hf]
  rw [hsplit, List.getElem?_append_right (Nat.le_refl _), Nat.sub_self]
  rfl

section

variable (typeOf : Param → TypeExpr) (ps : List Param)

def namedField? (p : Param) : Option Field := p.name.map fun n => ⟨.ident n, typeOf p⟩

theorem keys_filterMap_namedField? :
    (ps.filterMap (namedField? typeOf)).map Field.key = (givenNames ps).map .ident := by
  rw [givenNames, List.map_filterMap, List.map_filterMap]
  congr 1
  funext p
  rw [namedField?, Option.map_map]
  rfl

theorem length_filterMap_namedField? :
    (ps.filterMap (namedField? typeOf)).length = (givenNames ps).length := by
  have hlength := congrArg List.length (keys_filterMap_namedField? typeOf ps)
  rwa [List.length_map, List.length_map] at hlength

theorem isRecordOf_recordType :
    ∃ fields, recordType typeOf ps = .object fields ∧ IsRecordOf typeOf ps fields := by
  refine ⟨ps.filterMap (namedField? typeOf) ++
    ps.zipIdx.map fun entry => ⟨.index entry.2, typeOf entry.1⟩, rfl, ?_, ?_, ?_⟩
  · rw [List.map_append, keys_filterMap_namedField?, List.map_map, List.range_eq_range',
      ← List.zipIdx_map_snd 0 ps, List.map_map]
    rfl
  · intro k p n hp hn
    have hf : namedField? typeOf p = some ⟨.ident n, typeOf p⟩ := by rw [namedField?, hn]; rfl
    have hget := getElem?_filterMap_take hp hf
    rw [length_filterMap_namedField?] at hget
    rw [List.getElem?_append_left (List.getElem?_eq_some_iff.mp hget).1, hget]
  · intro k p hp
    rw [← length_filterMap_namedField? typeOf, List.getElem?_append_right (Nat.le_add_right _ _),
      Nat.add_sub_cancel_left, List.getElem?_map, List.getElem?_zipIdx, hp]
    simp

end

section

variable {typeOf : Param → TypeExpr} {ps : List Param} {fields : List Field}

theorem isRecordOf_resultType (h : 2 ≤ ps.length) :
    ∃ fields, resultType ps = .object fields ∧ IsRecordOf Param.outputType ps fields := by
  match ps with
  | p :: q :: ps => exact isRecordOf_recordType Param.outputType (p :: q :: ps)

theorem IsRecordOf.nodup_keys (h : IsRecordOf typeOf ps fields) (hd : (givenNames ps).Nodup)
    (hn : ∀ n ∈ givenNames ps, ∀ k : Nat, n ≠ toString k) :
    (fields.map fun f => f.key.text).Nodup := by
  have hnames : (givenNames ps).map (PropertyKey.text ∘ PropertyKey.ident) = givenNames ps :=
    List.map_id _
  have hkeys : fields.map (fun f => f.key.text) =
      givenNames ps ++ (List.range ps.length).map toString := by
    calc fields.map (fun f => f.key.text)
      _ = (fields.map Field.key).map PropertyKey.text := by rw [List.map_map]; rfl
      _ = givenNames ps ++ (List.range ps.length).map toString := by
        rw [h.keys, List.map_append, List.map_map, hnames, List.map_map]
        rfl
  rw [hkeys, List.nodup_append]
  refine ⟨hd, List.nodup_range.map fun _ _ he => Nat.repr_injective he, ?_⟩
  intro n hm m hk
  obtain ⟨k, -, rfl⟩ := List.mem_map.mp hk
  exact hn n hm k

end

namespace Contract

def IsAliasOf (events : Items) (i : Item) (d : Declaration) : Prop :=
  ∃ fields, d = .typeAlias (i.typeName events) (.generic "ContractEventLog" [.object fields]) ∧
    IsRecordOf Event.fieldType (Param.ofComponents i.inputs) fields

theorem isAliasOf_declaration (events : Items) (i : Item) :
    IsAliasOf events i
      ((Event.ofItem i).declaration (isOverloaded Item.nameOrEmpty events i)) := by
  obtain ⟨fields, hr, hf⟩ := isRecordOf_recordType Event.fieldType (Param.ofComponents i.inputs)
  refine ⟨fields, ?_, hf⟩
  have hinputs : (Event.ofItem i).inputs = Param.ofComponents i.inputs := rfl
  rw [Event.declaration, hinputs, hr]
  rfl

section

variable {c : Contract} {abi : Items}

theorem forall₂_eventTypes (h : c.events = eventsOf abi) :
    List.Forall₂ (IsAliasOf (itemsOfType "event" abi)) (eventsInOrder abi) c.eventTypes := by
  rw [eventTypes, h, taggedEvents_eventsOf, List.map_map, List.forall₂_map_right_iff,
    List.forall₂_same]
  intro i _
  exact isAliasOf_declaration _ i

theorem valueTypeNames_eq (h : c.events = eventsOf abi) :
    c.valueTypeNames = (eventsInOrder abi).map (Item.typeName (itemsOfType "event" abi)) := by
  rw [valueTypeNames, h, taggedEvents_eventsOf, List.map_map]
  rfl

end

/-- The values of every event, and any two or more outputs of a function, are a record. In each its
keys differ if the names do, none of them a number, and the types of its fields are those of decoded
values, but for what an event only has a hash of. The module of an accepted contract has such a type
for each event of the ABI, those of one name together, and no two of one name. -/
theorem decoded_records (ps : List Param) (abi : Items) (path : Path)
    (docs : Option Documentation) :
    (∃ fields, recordType Event.fieldType ps = .object fields ∧
      IsRecordOf Event.fieldType ps fields) ∧
    (2 ≤ ps.length → ∃ fields, resultType ps = .object fields ∧
      IsRecordOf Param.outputType ps fields) ∧
    (∀ typeOf fields, IsRecordOf typeOf ps fields → (givenNames ps).Nodup →
      (∀ n ∈ givenNames ps, ∀ k : Nat, n ≠ toString k) →
        (fields.map fun f => f.key.text).Nodup) ∧
    (∀ p : Param, p.outputType = p.kind.outputType ∧
      (p.indexed = true → p.kind.IsHashed → Event.fieldType p = .string) ∧
      (¬ (p.indexed = true ∧ p.kind.IsHashed) → Event.fieldType p = p.kind.outputType)) ∧
    ∀ c, ofAbi abi path docs = .ok c →
      List.Forall₂ (IsAliasOf (itemsOfType "event" abi)) (eventsInOrder abi) c.eventTypes ∧
        (eventsInOrder abi).Perm (itemsOfType "event" abi) ∧
        c.module.aliasNames =
          (eventsInOrder abi).map (Item.typeName (itemsOfType "event" abi)) ∧
        c.module.aliasNames.Nodup := by
  refine ⟨isRecordOf_recordType Event.fieldType ps, isRecordOf_resultType, ?_, ?_, ?_⟩
  · intro typeOf fields hf hd hn
    exact hf.nodup_keys hd hn
  · intro p
    exact ⟨p.outputType_kind, Event.fieldType_of_hashed, Event.fieldType_of_not_hashed⟩
  · intro c h
    obtain ⟨_, _, -, -, hc, hclash⟩ := ofAbi_eq_ok_iff.mp h
    have hevents : c.events = eventsOf abi := by rw [hc]
    have hnodup : c.declaredNames.Nodup := (clash?_eq_none_iff.mp hclash).2.2
    refine ⟨forall₂_eventTypes hevents, grouped_perm _ _, ?_, ?_⟩
    · rw [aliasNames_module, valueTypeNames_eq hevents]
    · rw [aliasNames_module]
      exact (List.nodup_cons.mp hnodup).2

theorem decoded_records_vault :
    let item : EvmType := .array (.elementary .bool) none
    let ps : List Param := [⟨some "a", item, true⟩, ⟨none, .elementary .bool, true⟩,
      ⟨some "b", item, false⟩]
    let abi : Items := [
      { type := "event", name := some "E", inputs := [
        { name := "a", type := "bool[]", indexed := some true },
        { type := "bool", indexed := some true },
        { name := "b", type := "bool[]" }] },
      { type := "event", name := some "E" }]
    (recordType Event.fieldType ps).text =
        "\x7b a: string; b: boolean[]; 0: string; 1: boolean; 2: boolean[] \x7d" ∧
      (∃ fields, resultType ps = .object fields ∧ (fields.map fun f => f.key.text).Nodup) ∧
      ∃ c, ofAbi abi ⟨"vault.json"⟩ none = .ok c ∧
        c.module.aliasNames = ["E_bool_array_bool_bool_array", "E"] ∧
        c.module.aliasNames.Nodup := by
  intro item ps abi
  obtain ⟨-, hresult, hkeys, -, hcontract⟩ := decoded_records ps abi ⟨"vault.json"⟩ none
  refine ⟨by decide, ?_, ?_⟩
  · obtain ⟨fields, hf, hrecord⟩ := hresult (by decide)
    have hnumeral : ∀ n ∈ givenNames ps, ∀ k : Nat, n ≠ toString k := by
      rintro n hn k rfl
      have hletter : ∀ n ∈ givenNames ps, n.toList.all Char.isDigit = false := by decide
      have hdigits : (toString k).toList.all Char.isDigit = true :=
        List.all_eq_true.mpr fun c => isDigit_of_mem_toString
      rw [hletter _ hn] at hdigits
      cases hdigits
    exact ⟨fields, hf, hkeys _ _ hrecord (by decide) hnumeral⟩
  · apply exists_ok_of_map (·.module.aliasNames) ["E_bool_array_bool_bool_array", "E"]
      (by decide +kernel)
    intro c hr hnames
    exact ⟨hnames, (hcontract c hr).2.2.2⟩

end Contract

end ContractTypings
