import ContractTypings.EvmType.Leaves
import ContractTypings.TypeScript.Identifiers
import ContractTypings.TypeScript.TypeReader
import Mathlib.Tactic.Common

namespace ContractTypings.TypeScript

open Text

namespace TypeReader

def IsBoundary (cs : List Char) : Prop := ∀ c, cs.head? = some c → isNameChar c = false

theorem isBoundary_nil : IsBoundary [] := by
  intro c hc
  cases hc

theorem isBoundary_cons {c : Char} (cs : List Char) (h : isNameChar c = false) :
    IsBoundary (c :: cs) := by
  intro d hd
  rwa [← Option.some.inj hd]

theorem tokens_mark {c : Char} (cs : List Char) (hn : isNameChar c = false)
    (hb : isBlank c = false) : tokens (c :: cs) = .mark c :: tokens cs := by
  simp [tokens, hn, hb]

theorem tokens_blank {c : Char} (cs : List Char) (hn : isNameChar c = false)
    (hb : isBlank c = true) : tokens (c :: cs) = tokens cs := by
  simp [tokens, hn, hb]

theorem tokens_name {word rest : List Char} (hn : word ≠ []) (h : ∀ c ∈ word, isNameChar c = true)
    (hr : IsBoundary rest) : tokens (word ++ rest) = .name word :: tokens rest := by
  induction word with
  | nil => exact absurd rfl hn
  | cons c word ih =>
    obtain ⟨hc, hw⟩ := List.forall_mem_cons.mp h
    rw [List.cons_append, tokens, if_pos hc]
    cases word with
    | nil =>
      have hf : rest.head?.any isNameChar = false := by
        cases hd : rest.head? with
        | none => rfl
        | some d => exact hr d hd
      rw [List.nil_append, hf]
    | cons d word =>
      have hd : ((d :: word) ++ rest).head?.any isNameChar = true := (List.forall_mem_cons.mp hw).1
      rw [hd, ih (List.cons_ne_nil d word) hw]

def run (cs : List Char) (state : State) : Option State := (tokens cs).foldlM step state

theorem run_mark {c : Char} {cs : List Char} {state next : State}
    (h : step state (.mark c) = some next) (hn : isNameChar c = false)
    (hb : isBlank c = false) : run (c :: cs) state = run cs next := by
  rw [run, tokens_mark cs hn hb, List.foldlM_cons, h]
  rfl

theorem run_blank (cs : List Char) (state : State) : run (' ' :: cs) state = run cs state := by
  rw [run, tokens_blank cs rfl rfl, run]

theorem run_name {name : String} {rest : List Char} (levels : List Level) (hn : name ≠ "")
    (h : isPlainName name = true) (hr : IsBoundary rest) :
    run (name.toList ++ rest) ⟨levels, .missing⟩ = run rest ⟨levels, .read (.named name)⟩ := by
  have hw : ∀ c ∈ name.toList, isNameChar c = true := List.all_eq_true.mp h
  rw [run, tokens_name (by simpa using hn) hw hr, List.foldlM_cons]
  simp [step, run]

def IsOperand (t : TypeExpr) : Prop :=
  ∀ level levels rest, IsBoundary rest →
    run (t.text.toList ++ rest) ⟨level :: levels, .missing⟩ = run rest ⟨level :: levels, .read t⟩

def IsReadable (t : TypeExpr) : Prop :=
  ∀ items levels rest, IsBoundary rest → ∃ members last, joined last members = t ∧
    run (t.text.toList ++ rest) ⟨⟨items, []⟩ :: levels, .missing⟩ =
      run rest ⟨⟨items, members⟩ :: levels, .read last⟩

theorem IsOperand.isReadable {t : TypeExpr} (h : IsOperand t) : IsReadable t := by
  intro items levels rest hr
  exact ⟨[], t, rfl, h _ _ rest hr⟩

theorem isOperand_named {name : String} (hn : name ≠ "") (h : isPlainName name = true) :
    IsOperand (.named name) := by
  intro level levels rest hr
  rw [TypeExpr.text]
  exact run_name _ hn h hr

theorem isOperand_array {item : TypeExpr} (hi : item.isUnion = false) (h : IsOperand item) :
    IsOperand (.array item) := by
  intro level levels rest hr
  have ht : (TypeExpr.array item).text.toList ++ rest = item.text.toList ++ '[' :: ']' :: rest := by
    simp [TypeExpr.text, hi]
  rw [ht, h level levels _ (isBoundary_cons _ rfl), run_mark rfl rfl rfl, run_mark rfl rfl rfl]

theorem isOperand_array_union {item : TypeExpr} (hi : item.isUnion = true) (h : IsReadable item) :
    IsOperand (.array item) := by
  intro level levels rest hr
  have ht : (TypeExpr.array item).text.toList ++ rest =
      '(' :: (item.text.toList ++ ')' :: '[' :: ']' :: rest) := by
    simp [TypeExpr.text, hi]
  obtain ⟨members, last, hj, hm⟩ :=
    h none (level :: levels) (')' :: '[' :: ']' :: rest) (isBoundary_cons _ rfl)
  rw [ht, run_mark rfl rfl rfl, hm, run_mark rfl rfl rfl, run_mark rfl rfl rfl,
    run_mark rfl rfl rfl, hj]

theorem toList_commaSeparated (t u : TypeExpr) (ts : List TypeExpr) :
    (commaSeparated (typeTexts (t :: u :: ts))).toList =
      t.text.toList ++ ',' :: ' ' :: (commaSeparated (typeTexts (u :: ts))).toList := by
  simp [commaSeparated, typeTexts, String.intercalate_cons_cons]

theorem run_items {ts : List TypeExpr} (hn : ts ≠ []) (h : ∀ t ∈ ts, IsReadable t)
    (items : List TypeExpr) (levels : List Level) (rest : List Char) :
    run ((commaSeparated (typeTexts ts)).toList ++ ']' :: rest)
        ⟨⟨some items, []⟩ :: levels, .missing⟩ =
      run rest ⟨levels, .read (.tuple (items.reverse ++ ts))⟩ := by
  induction ts generalizing items with
  | nil => exact absurd rfl hn
  | cons t ts ih =>
    obtain ⟨ht, hts⟩ := List.forall_mem_cons.mp h
    cases ts with
    | nil =>
      obtain ⟨members, last, hj, hm⟩ := ht (some items) levels (']' :: rest) (isBoundary_cons _ rfl)
      have hc : (commaSeparated (typeTexts [t])).toList = t.text.toList := by
        simp [commaSeparated, typeTexts]
      rw [hc, hm, run_mark rfl rfl rfl, hj, List.reverse_cons]
    | cons u ts =>
      obtain ⟨members, last, hj, hm⟩ := ht (some items) levels
        (',' :: ' ' :: ((commaSeparated (typeTexts (u :: ts))).toList ++ ']' :: rest))
        (isBoundary_cons _ rfl)
      rw [toList_commaSeparated, List.append_assoc, List.cons_append, List.cons_append, hm,
        run_mark rfl rfl rfl, run_blank, hj, ih (List.cons_ne_nil u ts) hts]
      simp

theorem isOperand_tuple {ts : List TypeExpr} (h : ∀ t ∈ ts, IsReadable t) :
    IsOperand (.tuple ts) := by
  intro level levels rest hr
  have ht : (TypeExpr.tuple ts).text.toList ++ rest =
      '[' :: ((commaSeparated (typeTexts ts)).toList ++ ']' :: rest) := by
    simp [TypeExpr.text]
  rw [ht, run_mark rfl rfl rfl]
  by_cases hn : ts = []
  · subst hn
    exact run_mark rfl rfl rfl
  · exact run_items hn h [] _ rest

theorem toList_union (t u : TypeExpr) (ts : List TypeExpr) :
    (" | ".intercalate (typeTexts (t :: u :: ts))).toList =
      t.text.toList ++ ' ' :: '|' :: ' ' :: (" | ".intercalate (typeTexts (u :: ts))).toList := by
  simp [typeTexts, String.intercalate_cons_cons]

theorem run_members {ts : List TypeExpr} (hn : ts ≠ []) (h : ∀ t ∈ ts, IsOperand t)
    (items : Option (List TypeExpr)) (members : List TypeExpr) (levels : List Level)
    (rest : List Char) (hr : IsBoundary rest) :
    ∃ before last, (last :: before).reverse = members.reverse ++ ts ∧
      run ((" | ".intercalate (typeTexts ts)).toList ++ rest)
          ⟨⟨items, members⟩ :: levels, .missing⟩ =
        run rest ⟨⟨items, before⟩ :: levels, .read last⟩ := by
  induction ts generalizing members with
  | nil => exact absurd rfl hn
  | cons t ts ih =>
    obtain ⟨ht, hts⟩ := List.forall_mem_cons.mp h
    cases ts with
    | nil =>
      refine ⟨members, t, List.reverse_cons, ?_⟩
      have hc : (" | ".intercalate (typeTexts [t])).toList = t.text.toList := by
        simp [typeTexts]
      rw [hc, ht _ _ _ hr]
    | cons u ts =>
      obtain ⟨before, last, hl, hm⟩ := ih (List.cons_ne_nil u ts) hts (t :: members)
      refine ⟨before, last, by simpa using hl, ?_⟩
      rw [toList_union, List.append_assoc, List.cons_append, List.cons_append, List.cons_append,
        ht _ _ _ (isBoundary_cons _ rfl), run_blank, run_mark rfl rfl rfl, run_blank, hm]

theorem joined_eq_union {last : TypeExpr} {before ts : List TypeExpr} (hl : 2 ≤ ts.length)
    (h : (last :: before).reverse = ts) : joined last before = .union ts := by
  cases before with
  | nil =>
    subst h
    simp at hl
  | cons member before => exact congrArg TypeExpr.union h

theorem isReadable_union {ts : List TypeExpr} (hl : 2 ≤ ts.length) (h : ∀ t ∈ ts, IsOperand t) :
    IsReadable (.union ts) := by
  intro items levels rest hr
  have hn : ts ≠ [] := by
    rintro rfl
    simp at hl
  obtain ⟨before, last, hb, hm⟩ := run_members hn h items [] levels rest hr
  exact ⟨before, last, joined_eq_union hl hb, hm⟩

end TypeReader

/-- A type expression whose text can be read: a union in it has at least two members, none of which
is a union itself. -/
inductive TypeExpr.IsLegible : TypeExpr → Prop
  | named {name : String} (hn : name ≠ "") (h : isPlainName name = true) : IsLegible (.named name)
  | union {members : List TypeExpr} (hl : 2 ≤ members.length)
    (hu : ∀ m ∈ members, m.isUnion = false) (h : ∀ m ∈ members, m.IsLegible) :
    IsLegible (.union members)
  | array {item : TypeExpr} (h : item.IsLegible) : IsLegible (.array item)
  | tuple {items : List TypeExpr} (h : ∀ i ∈ items, i.IsLegible) : IsLegible (.tuple items)

open TypeReader

theorem TypeExpr.IsLegible.isRead {t : TypeExpr} (h : t.IsLegible) :
    IsReadable t ∧ (t.isUnion = false → IsOperand t) := by
  induction h with
  | named hn h =>
    have ho := isOperand_named hn h
    exact ⟨ho.isReadable, fun _ => ho⟩
  | union hl hu h ih =>
    refine ⟨isReadable_union hl ?_, nofun⟩
    intro m hm
    exact (ih m hm).2 (hu m hm)
  | @array item h ih =>
    have ho : IsOperand (.array item) := by
      cases hi : item.isUnion with
      | false => exact isOperand_array hi (ih.2 hi)
      | true => exact isOperand_array_union hi ih.1
    exact ⟨ho.isReadable, fun _ => ho⟩
  | tuple h ih =>
    have ho := isOperand_tuple fun i hi => (ih i hi).1
    exact ⟨ho.isReadable, fun _ => ho⟩

theorem TypeExpr.IsLegible.ofText?_text {t : TypeExpr} (h : t.IsLegible) :
    ofText? t.text = some t := by
  obtain ⟨members, last, hj, hm⟩ := h.isRead.1 none [] [] isBoundary_nil
  rw [List.append_nil] at hm
  have hs : (tokens t.text.toList).foldlM step ⟨[⟨none, []⟩], .missing⟩ =
      some ⟨[⟨none, members⟩], .read last⟩ := hm
  rw [ofText?, hs, ← hj]

end ContractTypings.TypeScript

namespace ContractTypings

open TypeScript

theorem Elementary.isLegible_inputType (type : Elementary) : type.inputType.IsLegible := by
  have hs : TypeExpr.string.IsLegible := .named (by decide) (by decide)
  have hn : TypeExpr.number.IsLegible := .named (by decide) (by decide)
  have hb : (TypeExpr.named "BigNumber").IsLegible := .named (by decide) (by decide)
  have hl : numberLike.IsLegible :=
    .union (by decide) (by simp [TypeExpr.isUnion]) (by simp [hs, hn, hb])
  have hy : bytesLike.IsLegible :=
    .union (by decide) (by simp [TypeExpr.isUnion]) (by simp [hs, TypeExpr.IsLegible.array hn])
  cases type with
  | int | uint => exact hl
  | address | string => exact hs
  | bool => exact .named (by decide) (by decide)
  | fixedBytes | bytes | function => exact hy

theorem Elementary.isLegible_outputType (type : Elementary) : type.outputType.IsLegible := by
  cases type <;> exact .named (by decide) (by decide)

mutual

theorem EvmType.isLegible_typeBy {leaf : Elementary → TypeExpr}
    (h : ∀ type, (leaf type).IsLegible) : (t : EvmType) → (t.typeBy leaf).IsLegible
  | .elementary type => h type
  | .array item _ => .array (item.isLegible_typeBy h)
  | .tuple components => .tuple (isLegible_typesBy h components)
  | .unknown _ => .named (by decide) (by decide)

theorem Param.isLegible_typeBy {leaf : Elementary → TypeExpr}
    (h : ∀ type, (leaf type).IsLegible) : (p : Param) → (p.typeBy leaf).IsLegible
  | ⟨_, kind, _⟩ => kind.isLegible_typeBy h

theorem isLegible_typesBy {leaf : Elementary → TypeExpr} (h : ∀ type, (leaf type).IsLegible) :
    (ps : List Param) → ∀ t ∈ typesBy leaf ps, t.IsLegible
  | [] => List.forall_mem_nil _
  | p :: ps => List.forall_mem_cons.mpr ⟨p.isLegible_typeBy h, isLegible_typesBy h ps⟩

end

theorem EvmType.isLegible_inputType (t : EvmType) : t.inputType.IsLegible := by
  rw [t.inputType_eq_typeBy]
  exact t.isLegible_typeBy Elementary.isLegible_inputType

theorem EvmType.isLegible_outputType (t : EvmType) : t.outputType.IsLegible := by
  rw [t.outputType_eq_typeBy]
  exact t.isLegible_typeBy Elementary.isLegible_outputType

theorem TypeScript.TypeExpr.IsLegible.text_ne {t u : TypeExpr} (ht : t.IsLegible)
    (hu : u.IsLegible) (h : t ≠ u) : t.text ≠ u.text := by
  intro he
  have hr := ht.ofText?_text
  rw [he, hu.ofText?_text] at hr
  exact h (Option.some.inj hr).symm

/-- The types of arguments and of decoded values are read back from their texts. No text stands for
two of them. -/
theorem EvmType.texts_determine_types (t : EvmType) :
    TypeExpr.ofText? t.inputType.text = some t.inputType ∧
    TypeExpr.ofText? t.outputType.text = some t.outputType ∧
    ∀ u : EvmType, (t.inputType ≠ u.inputType → t.inputType.text ≠ u.inputType.text) ∧
      (t.outputType ≠ u.outputType → t.outputType.text ≠ u.outputType.text) := by
  refine ⟨t.isLegible_inputType.ofText?_text, t.isLegible_outputType.ofText?_text, ?_⟩
  intro u
  constructor
  · exact t.isLegible_inputType.text_ne u.isLegible_inputType
  · exact t.isLegible_outputType.text_ne u.isLegible_outputType

theorem EvmType.texts_determine_types_tuples : ∃ t u : EvmType,
    t.inputType.text = "[(string | number[])[][], []]" ∧
    u.inputType.text = "[(string | number[])[], []][]" ∧
    TypeExpr.ofText? "[(string | number[])[][], []]" = some t.inputType ∧
    TypeExpr.ofText? "[(string | number[])[], []][]" = some u.inputType ∧
    t.inputType ≠ u.inputType ∧ t.inputType.text ≠ u.inputType.text ∧
    t.outputType ≠ u.outputType ∧ t.outputType.text ≠ u.outputType.text := by
  let words : EvmType := .array (.elementary .bytes) none
  let nothing : Param := ⟨none, .tuple [], false⟩
  let t : EvmType := .tuple [⟨none, .array words none, false⟩, nothing]
  let u : EvmType := .array (.tuple [⟨none, words, false⟩, nothing]) none
  have ht : t.inputType.text = "[(string | number[])[][], []]" := by decide
  have hu : u.inputType.text = "[(string | number[])[], []][]" := by decide
  have hi : t.inputType ≠ u.inputType := nofun
  have ho : t.outputType ≠ u.outputType := nofun
  obtain ⟨hr, -, hne⟩ := texts_determine_types t
  obtain ⟨hs, -⟩ := texts_determine_types u
  exact ⟨t, u, ht, hu, ht ▸ hr, hu ▸ hs, hi, (hne u).1 hi, ho, (hne u).2 ho⟩

end ContractTypings
