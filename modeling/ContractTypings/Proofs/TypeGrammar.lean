import ContractTypings.EvmType.Parse
import Mathlib.Data.List.DropRight
import Mathlib.Tactic.Common

namespace ContractTypings.EvmType

open Text

structure IsNumeral (digits : String) (n : Nat) : Prop where
  ne_empty : digits ≠ ""
  ascii : ∀ c ∈ digits.toList, '0' ≤ c ∧ c ≤ '9'
  value : Nat.ofDigitChars 10 digits.toList 0 = n
  lt_bound : n < sizeBound

def IsSize (digits : String) : Option Nat → Prop
  | none => digits = ""
  | some n => IsNumeral digits n

def IsWidth (digits : String) (bits : Nat) : Prop :=
  digits = "" ∧ bits = 256 ∨ IsNumeral digits bits

/-- The ways to write a type that is understood; the components are those of the tuple in it. -/
inductive Spells (components : List Abi.Component) : String → EvmType → Prop
  | uint {digits : String} {bits : Nat} (h : IsWidth digits bits) :
    Spells components ("uint" ++ digits) (.elementary (.uint bits))
  | int {digits : String} {bits : Nat} (h : IsWidth digits bits) :
    Spells components ("int" ++ digits) (.elementary (.int bits))
  | fixedBytes {digits : String} {size : Nat} (h : IsNumeral digits size) :
    Spells components ("bytes" ++ digits) (.elementary (.fixedBytes size))
  | array {item digits : String} {size : Option Nat} (hi : item ≠ "") (hl : '\n' ∉ item.toList)
    (h : IsSize digits size) :
    Spells components (item ++ "[" ++ digits ++ "]") (.array (parse item components) size)
  | address : Spells components "address" (.elementary .address)
  | bool : Spells components "bool" (.elementary .bool)
  | string : Spells components "string" (.elementary .string)
  | bytes : Spells components "bytes" (.elementary .bytes)
  | function : Spells components "function" (.elementary .function)
  | tuple : Spells components "tuple" (.tuple (components.map fun c =>
      ⟨if c.name = "" then none else some c.name, parse c.type c.components, c.indexed.getD false⟩))

end ContractTypings.EvmType

namespace ContractTypings

open Text

theorem sizeBelow?_eq_some_iff {bound n : Nat} {cs : List Char} :
    sizeBelow? bound cs = some n ↔
      cs ≠ [] ∧ (∀ c ∈ cs, isAsciiDigit c = true) ∧ digitsValue cs = n ∧ n < bound := by
  unfold sizeBelow?
  split
  next h =>
    rw [Option.some_inj]
    constructor
    · rintro rfl
      exact ⟨h.1, List.all_eq_true.mp h.2.1, rfl, h.2.2⟩
    · exact fun h => h.2.2.1
  next h =>
    constructor
    · intro hn
      cases hn
    · rintro ⟨hn, hd, rfl, hb⟩
      exact absurd ⟨hn, List.all_eq_true.mpr hd, hb⟩ h

theorem Param.ofComponents_eq (cs : List Abi.Component) :
    ofComponents cs = cs.map fun c =>
      ⟨if c.name = "" then none else some c.name, EvmType.parse c.type c.components,
        c.indexed.getD false⟩ := by
  induction cs with
  | nil => rfl
  | cons c cs ih =>
    rw [ofComponents, ih, List.map_cons]
    obtain ⟨internalType, name, type, components, indexed⟩ := c
    rfl

theorem sizeBelow?_nil (bound : Nat) : sizeBelow? bound [] = none := rfl

theorem digitsValue_eq (cs : List Char) : digitsValue cs = Nat.ofDigitChars 10 cs 0 := rfl

namespace EvmType

theorem sizeBelow?_sizeBound {cs : List Char} {n : Nat} :
    sizeBelow? sizeBound cs = some n ↔ IsNumeral (String.ofList cs) n := by
  rw [sizeBelow?_eq_some_iff, digitsValue_eq]
  constructor
  · rintro ⟨hn, hd, hv, hb⟩
    refine ⟨by simpa using hn, ?_, by simpa using hv, hb⟩
    simpa [isAsciiDigit] using hd
  · rintro ⟨hn, hd, hv, hb⟩
    refine ⟨by simpa using hn, ?_, by simpa using hv, hb⟩
    simpa [isAsciiDigit] using hd

theorem IsNumeral.isAsciiDigit {digits : String} {n : Nat} (h : IsNumeral digits n) :
    ∀ c ∈ digits.toList, isAsciiDigit c = true := by
  intro c hc
  simpa [Text.isAsciiDigit] using h.ascii c hc

theorem IsSize.isAsciiDigit {digits : String} {size : Option Nat} (h : IsSize digits size) :
    ∀ c ∈ digits.toList, isAsciiDigit c = true := by
  cases size with
  | none =>
    obtain rfl : digits = "" := h
    exact List.forall_mem_nil _
  | some n => exact IsNumeral.isAsciiDigit h

theorem IsWidth.isAsciiDigit {digits : String} {bits : Nat} (h : IsWidth digits bits) :
    ∀ c ∈ digits.toList, isAsciiDigit c = true := by
  rcases h with ⟨rfl, -⟩ | h
  · exact List.forall_mem_nil _
  · exact h.isAsciiDigit

theorem eq_brackets {s : String} {back rest : List Char} (hb : s.toList.reverse = ']' :: back)
    (hr : back.dropWhile Text.isAsciiDigit = '[' :: rest) :
    s = String.ofList rest.reverse ++ "[" ++
      String.ofList (back.takeWhile Text.isAsciiDigit).reverse ++ "]" := by
  have ht := List.takeWhile_append_dropWhile (p := Text.isAsciiDigit) (l := back)
  rw [hr] at ht
  apply String.toList_inj.mp
  apply List.reverse_injective
  rw [hb]
  nth_rewrite 1 [← ht]
  simp

theorem exists_of_splitArray? {s : String} {item : List Char} {size : Option Nat}
    (h : splitArray? s.toList = some (item, size)) :
    ∃ digits, s = String.ofList item ++ "[" ++ digits ++ "]" ∧ item ≠ [] ∧ '\n' ∉ item ∧
      IsSize digits size := by
  unfold splitArray? at h
  split at h
  next back hb =>
    simp only at h
    split at h
    next rest hr =>
      have hs := eq_brackets hb hr
      split at h
      · cases h
      next hi =>
        obtain ⟨hi, hl⟩ := not_or.mp hi
        split at h
        next hd =>
          obtain ⟨rfl, rfl⟩ := Prod.mk.inj (Option.some.inj h)
          refine ⟨_, hs, by simpa using hi, by simpa using hl, ?_⟩
          simp [hd, IsSize]
        · obtain ⟨n, hn, h⟩ := Option.map_eq_some_iff.mp h
          obtain ⟨rfl, rfl⟩ := Prod.mk.inj h
          exact ⟨_, hs, by simpa using hi, by simpa using hl, sizeBelow?_sizeBound.mp hn⟩
    · cases h
  · cases h

theorem splitArray?_brackets {item digits : String} {size : Option Nat} (hi : item ≠ "")
    (hl : '\n' ∉ item.toList) (hs : IsSize digits size) :
    splitArray? (item ++ "[" ++ digits ++ "]").toList = some (item.toList, size) := by
  have hd : ∀ c ∈ digits.toList.reverse, Text.isAsciiDigit c = true := by
    simpa using hs.isAsciiDigit
  have hrev : (item ++ "[" ++ digits ++ "]").toList.reverse =
      ']' :: (digits.toList.reverse ++ '[' :: item.toList.reverse) := by simp
  have ht : (digits.toList.reverse ++ '[' :: item.toList.reverse).takeWhile Text.isAsciiDigit =
      digits.toList.reverse := by
    rw [List.takeWhile_append_of_pos hd, List.takeWhile_cons_of_neg (by decide), List.append_nil]
  have hr : (digits.toList.reverse ++ '[' :: item.toList.reverse).dropWhile Text.isAsciiDigit =
      '[' :: item.toList.reverse := by
    rw [List.dropWhile_append_of_pos hd, List.dropWhile_cons_of_neg (by decide)]
  unfold splitArray?
  rw [hrev]
  simp only [ht, hr, List.reverse_reverse, List.reverse_eq_nil_iff, List.mem_reverse]
  rw [if_neg (not_or.mpr ⟨by simpa using hi, hl⟩)]
  cases size with
  | none =>
    obtain rfl : digits = "" := hs
    rfl
  | some n =>
    have hn : sizeBelow? sizeBound digits.toList = some n :=
      sizeBelow?_sizeBound.mpr (by rwa [String.ofList_toList])
    rw [if_neg (sizeBelow?_eq_some_iff.mp hn).1, hn, Option.map_some]

theorem after?_eq_some_iff {word : String} {cs rest : List Char} :
    after? word cs = some rest ↔ cs = word.toList ++ rest := by
  rw [after?, List.isPrefixOf?_eq_some_iff_append_eq, eq_comm]

theorem isWidth_ofList {digits : List Char} {bits : Nat} :
    IsWidth (String.ofList digits) bits ↔
      digits = [] ∧ bits = 256 ∨ IsNumeral (String.ofList digits) bits := by
  simp [IsWidth]

theorem width?_eq_some_iff {word : String} {cs : List Char} {bits : Nat} :
    width? word cs = some bits ↔
      ∃ digits, cs = word.toList ++ digits ∧ IsWidth (String.ofList digits) bits := by
  simp only [← after?_eq_some_iff, isWidth_ofList, ← sizeBelow?_sizeBound]
  unfold width?
  split
  next h => simp [h, sizeBelow?_nil, eq_comm]
  next digits hd h =>
    have hne : digits ≠ [] := hd
    simp [h, hne]
  next h => simp [h]

theorem byteCount?_eq_some_iff {cs : List Char} {size : Nat} :
    byteCount? cs = some size ↔
      ∃ digits, cs = "bytes".toList ++ digits ∧ IsNumeral (String.ofList digits) size := by
  simp only [byteCount?, Option.bind_eq_some_iff, after?_eq_some_iff, sizeBelow?_sizeBound]

theorem parse_of_split {s : String} {item : List Char} {size : Option Nat}
    (components : List Abi.Component) (h : splitArray? (trim s).toList = some (item, size)) :
    parse s components = .array (parse (String.ofList item) components) size := by
  rw [trim, String.toList_ofList] at h
  rw [parse, ofChars]
  split
  next item' size' h' =>
    rw [h] at h'
    obtain ⟨rfl, rfl⟩ := Prod.mk.inj (Option.some.inj h')
    rw [parse, String.toList_ofList]
  next h' =>
    rw [h] at h'
    cases h'

theorem parse_of_not_split {s : String} (components : List Abi.Component)
    (h : splitArray? (trim s).toList = none) :
    parse s components = ofWord (trim s).toList (Param.ofComponents components) := by
  rw [trim, String.toList_ofList] at h ⊢
  rw [parse, ofChars]
  split
  next h' =>
    rw [h] at h'
    cases h'
  · rfl

theorem ofWord_uint {cs : List Char} {bits : Nat} (components : List Param)
    (h : width? "uint" cs = some bits) : ofWord cs components = .elementary (.uint bits) := by
  rw [ofWord, h]

theorem ofWord_int {digits : List Char} {bits : Nat} (components : List Param)
    (h : width? "int" ("int".toList ++ digits) = some bits) :
    ofWord ("int".toList ++ digits) components = .elementary (.int bits) := by
  have hu : width? "uint" ("int".toList ++ digits) = none := rfl
  rw [ofWord, hu, h]

theorem ofWord_fixedBytes {digits : List Char} {size : Nat} (components : List Param)
    (h : byteCount? ("bytes".toList ++ digits) = some size) :
    ofWord ("bytes".toList ++ digits) components = .elementary (.fixedBytes size) := by
  have hu : width? "uint" ("bytes".toList ++ digits) = none := rfl
  have hi : width? "int" ("bytes".toList ++ digits) = none := rfl
  rw [ofWord, hu, hi, h]

theorem eq_append_of_toList {s word : String} {rest : List Char}
    (h : s.toList = word.toList ++ rest) : s = word ++ String.ofList rest := by
  rw [← String.toList_inj, String.toList_append, String.toList_ofList, h]

theorem spells_or_unknown (s : String) (components : List Abi.Component) :
    Spells components (trim s) (parse s components) ∨
      parse s components = .unknown (trim s) := by
  cases hs : splitArray? (trim s).toList with
  | some split =>
    obtain ⟨item, size⟩ := split
    obtain ⟨digits, ht, hi, hl, hn⟩ := exists_of_splitArray? hs
    rw [parse_of_split components hs, ht]
    exact Or.inl (.array (by simpa using hi) (by simpa using hl) hn)
  | none =>
    rw [parse_of_not_split components hs]
    unfold ofWord
    split
    next bits _ _ hb =>
      obtain ⟨digits, hd, hn⟩ := width?_eq_some_iff.mp hb
      rw [eq_append_of_toList hd]
      exact Or.inl (.uint hn)
    next bits _ hb _ =>
      obtain ⟨digits, hd, hn⟩ := width?_eq_some_iff.mp hb
      rw [eq_append_of_toList hd]
      exact Or.inl (.int hn)
    next size hb _ _ =>
      obtain ⟨digits, hd, hn⟩ := byteCount?_eq_some_iff.mp hb
      rw [eq_append_of_toList hd]
      exact Or.inl (.fixedBytes hn)
    · rw [String.ofList_toList]
      split
      next h => exact Or.inl (h ▸ .address)
      next h => exact Or.inl (h ▸ .bool)
      next h => exact Or.inl (h ▸ .string)
      next h => exact Or.inl (h ▸ .bytes)
      next h => exact Or.inl (h ▸ .function)
      next h =>
        rw [Param.ofComponents_eq, h]
        exact Or.inl .tuple
      · exact Or.inr rfl

theorem not_mem_of_digits {s : String} {c : Char} (h : ∀ d ∈ s.toList, isAsciiDigit d = true)
    (hc : isAsciiDigit c = false) : c ∉ s.toList := by
  intro hm
  rw [h c hm] at hc
  cases hc

theorem not_mem_word {word digits : String} {c : Char} (hw : c ∉ word.toList)
    (hd : ∀ d ∈ digits.toList, isAsciiDigit d = true) (hc : isAsciiDigit c = false) :
    c ∉ (word ++ digits).toList := by
  rw [String.toList_append, List.mem_append, not_or]
  exact ⟨hw, not_mem_of_digits hd hc⟩

theorem splitArray?_word {word digits : String} (hw : ']' ∉ word.toList)
    (hd : ∀ c ∈ digits.toList, isAsciiDigit c = true) :
    splitArray? (word ++ digits).toList = none := by
  apply Option.eq_none_iff_forall_not_mem.mpr
  rintro ⟨item, size⟩ h
  obtain ⟨rest, hs, -⟩ := exists_of_splitArray? h
  apply not_mem_word hw hd (by decide)
  rw [hs]
  simp

theorem parse_of_spells {s : String} {components : List Abi.Component} {type : EvmType}
    (h : Spells components (trim s) type) : parse s components = type := by
  generalize ht : trim s = t at h
  have hw : splitArray? t.toList = none →
      parse s components = ofWord t.toList (Param.ofComponents components) := by
    intro hn
    rw [← ht] at hn ⊢
    exact parse_of_not_split components hn
  cases h with
  | @uint digits bits h =>
    rw [hw (splitArray?_word (by decide) h.isAsciiDigit)]
    apply ofWord_uint
    apply width?_eq_some_iff.mpr
    exact ⟨digits.toList, by simp, by simpa using h⟩
  | @int digits bits h =>
    rw [hw (splitArray?_word (by decide) h.isAsciiDigit), String.toList_append]
    apply ofWord_int
    apply width?_eq_some_iff.mpr
    exact ⟨digits.toList, by simp, by simpa using h⟩
  | @fixedBytes digits size h =>
    rw [hw (splitArray?_word (by decide) h.isAsciiDigit), String.toList_append]
    apply ofWord_fixedBytes
    apply byteCount?_eq_some_iff.mpr
    exact ⟨digits.toList, by simp, by simpa using h⟩
  | @array item digits size hi hl h =>
    have hs : splitArray? (trim s).toList = some (item.toList, size) := by
      rw [ht]
      exact splitArray?_brackets hi hl h
    rw [parse_of_split components hs, String.ofList_toList]
  | address => exact hw (by decide)
  | bool => exact hw (by decide)
  | string => exact hw (by decide)
  | bytes => exact hw (by decide)
  | function => exact hw (by decide)
  | tuple =>
    rw [hw (by decide), Param.ofComponents_eq]
    rfl

theorem Spells.ne_unknown {components : List Abi.Component} {s raw : String} {type : EvmType}
    (h : Spells components s type) : type ≠ .unknown raw := by
  cases h <;> exact nofun

/-- What a text is read as, without the white space around it: the type of which it is a name, and
an unknown one if there is none. -/
theorem parse_eq_iff (s : String) (components : List Abi.Component) (type : EvmType) :
    parse s components = type ↔
      Spells components (trim s) type ∨
        type = .unknown (trim s) ∧ ∀ other, ¬ Spells components (trim s) other := by
  constructor
  · rintro rfl
    rcases spells_or_unknown s components with h | h
    · exact Or.inl h
    · refine Or.inr ⟨h, ?_⟩
      intro other ho
      exact ho.ne_unknown ((parse_of_spells ho).symm.trans h)
  · rintro (h | ⟨rfl, hn⟩)
    · exact parse_of_spells h
    · exact (spells_or_unknown s components).resolve_left (hn _)

example : parse "bytes٣" [] = .unknown "bytes٣" := by cbv

end EvmType

end ContractTypings
