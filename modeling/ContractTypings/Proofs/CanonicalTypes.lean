import ContractTypings.Proofs.SignatureWords
import ContractTypings.Proofs.TextParts
import ContractTypings.Proofs.TypeGrammar

namespace ContractTypings

open Text

theorem IsAlphanumeric.trim {s : String} (h : IsAlphanumeric s) : trim s = s := by
  apply trim_eq_self
  · intro c hc
    exact isBlank_of_isAlphanum (h c (List.mem_of_mem_head? hc))
  · intro c hc
    exact isBlank_of_isAlphanum (h c (List.mem_of_getLast? hc))

def Elementary.IsBounded : Elementary → Prop
  | .int n | .uint n | .fixedBytes n => n < EvmType.sizeBound
  | _ => True

namespace EvmType

section Spells

variable {components : List Abi.Component} {s : String} {type : EvmType} {n : Nat}

theorem isNumeral_toString (h : n < sizeBound) : IsNumeral (toString n) n where
  ne_empty := by simp
  ascii c hc := by
    simpa [Char.isDigit, Char.le_def] using isDigit_of_mem_toString hc
  value := ofDigitChars_toString n
  lt_bound := h

theorem isSize_sizeText {size : Option Nat} (h : ∀ n ∈ size, n < sizeBound) :
    IsSize (sizeText size) size := by
  cases size with
  | none => rfl
  | some n => exact isNumeral_toString (h n rfl)

theorem IsSize.lt_bound {digits : String} {size : Option Nat} (h : IsSize digits size) :
    ∀ n ∈ size, n < sizeBound := by
  intro n hn
  obtain rfl := Option.mem_def.mp hn
  exact IsNumeral.lt_bound h

theorem IsWidth.lt_bound {digits : String} {bits : Nat} (h : IsWidth digits bits) :
    bits < sizeBound := by
  rcases h with ⟨-, rfl⟩ | h
  · decide
  · exact h.lt_bound

theorem spells_text {type : Elementary} (h : type.IsBounded) :
    Spells components type.text (.elementary type) := by
  cases type with
  | int bits => exact .int (Or.inr (isNumeral_toString h))
  | uint bits => exact .uint (Or.inr (isNumeral_toString h))
  | fixedBytes size => exact .fixedBytes (isNumeral_toString h)
  | address => exact .address
  | bool => exact .bool
  | string => exact .string
  | bytes => exact .bytes
  | function => exact .function

theorem newline_not_mem_of_spells (h : Spells components s type) : '\n' ∉ s.toList := by
  cases h with
  | uint h | int h | fixedBytes h => exact not_mem_word (by decide) h.isAsciiDigit (by decide)
  | @array item digits size hi hl h =>
    have hd : '\n' ∉ digits.toList := not_mem_of_digits h.isAsciiDigit (by decide)
    simp [hl, hd]
  | address | bool | string | bytes | function | tuple => decide

theorem getLast?_of_spells (h : Spells components s type) : s.toList.getLast? ≠ some ')' := by
  intro hp
  have hm : ')' ∈ s.toList := List.mem_of_getLast? hp
  cases h with
  | uint h | int h | fixedBytes h =>
    exact not_mem_word (by decide) h.isAsciiDigit (by decide) hm
  | array hi hl h =>
    rw [String.toList_append, List.getLast?_append] at hp
    cases hp
  | address | bool | string | bytes | function | tuple => revert hm; decide

theorem exists_spells (h : Spells components s type) (others : List Abi.Component) :
    ∃ other, Spells others s other := by
  cases h with
  | uint h => exact ⟨_, .uint h⟩
  | int h => exact ⟨_, .int h⟩
  | fixedBytes h => exact ⟨_, .fixedBytes h⟩
  | array hi hl h => exact ⟨_, .array hi hl h⟩
  | address => exact ⟨_, .address⟩
  | bool => exact ⟨_, .bool⟩
  | string => exact ⟨_, .string⟩
  | bytes => exact ⟨_, .bytes⟩
  | function => exact ⟨_, .function⟩
  | tuple => exact ⟨_, .tuple⟩

end Spells

def hasTuple : EvmType → Bool
  | .elementary _ | .unknown _ => false
  | .array item _ => item.hasTuple
  | .tuple _ => true

inductive IsRead : EvmType → Prop
  | elementary {type : Elementary} (h : type.IsBounded) : IsRead (.elementary type)
  | array {item : EvmType} {size : Option Nat} (hi : item.IsRead) (hn : item.text ≠ "")
    (hl : item.hasTuple = false → '\n' ∉ item.text.toList) (hs : ∀ n ∈ size, n < sizeBound) :
    IsRead (.array item size)
  | tuple (components : List Param) : IsRead (.tuple components)
  | unknown {raw : String} (ht : trim raw = raw)
    (h : ∀ components type, ¬ Spells components raw type) : IsRead (.unknown raw)

theorem text_parse_ne_empty {s : String} (h : trim s ≠ "") (components : List Abi.Component) :
    (parse s components).text ≠ "" := by
  rcases spells_or_unknown s components with hk | hk
  · generalize parse s components = type at hk
    cases type with
    | elementary type =>
      rw [text]
      exact fun he => type.text_ne_nil (by simp [he])
    | array item size => simp [text]
    | tuple components => simp [text]
    | unknown raw => exact absurd rfl hk.ne_unknown
  · rwa [hk, text]

theorem isAlphanumeric_newline {s : String} (h : IsAlphanumeric s) : '\n' ∉ s.toList := by
  intro hm
  exact absurd (h _ hm) (by decide)

theorem IsRead.newline_not_mem {type : EvmType} (h : type.IsRead) (ht : type.hasTuple = false)
    (hu : ∀ raw, type = .unknown raw → '\n' ∉ raw.toList) : '\n' ∉ type.text.toList := by
  cases h with
  | elementary hb => exact isAlphanumeric_newline (Elementary.isAlphanumeric_text _)
  | @array item size hi hn hl hs =>
    simp [text, hl ht, isAlphanumeric_newline (isAlphanumeric_sizeText size)]
  | tuple components => cases ht
  | unknown => exact hu _ rfl

theorem eq_trim_of_parse {s raw : String} {components : List Abi.Component}
    (h : parse s components = .unknown raw) : raw = trim s := by
  rcases spells_or_unknown s components with hk | hk
  · exact absurd h hk.ne_unknown
  · rw [hk] at h
    exact (EvmType.unknown.inj h).symm

theorem isRead_parse (s : String) (components : List Abi.Component) :
    (parse s components).IsRead := by
  rcases spells_or_unknown s components with h | h
  · generalize hp : parse s components = type at h
    generalize ht : trim s = t at h
    cases h with
    | uint h => exact .elementary h.lt_bound
    | int h => exact .elementary h.lt_bound
    | fixedBytes h => exact .elementary h.lt_bound
    | @array item digits size hi hl h =>
      have hlen : item.toList.length < s.toList.length := by
        apply Nat.lt_of_lt_of_le _ (length_trim_le s)
        rw [ht]
        simp
      have hr : (parse item components).IsRead := isRead_parse item components
      have hne : (parse item components).text ≠ "" := by
        apply text_parse_ne_empty
        rw [String.append_assoc, String.append_assoc] at ht
        exact trim_start_ne_empty ht hi
      apply IsRead.array hr hne _ h.lt_bound
      -- Of the types without tuples, only an unknown one can have a line feed in its text.
      intro hf
      apply hr.newline_not_mem hf
      intro raw hraw
      rw [eq_trim_of_parse hraw]
      exact fun hm => hl (mem_of_mem_trim hm)
    | address | bool | string | bytes | function => exact .elementary trivial
    | tuple => exact .tuple _
  · rw [h]
    apply IsRead.unknown (trim_trim s)
    intro others type ho
    obtain ⟨other, hc⟩ := exists_spells ho components
    exact hc.ne_unknown ((parse_of_spells hc).symm.trans h)
termination_by s.toList.length

theorem parse_of_text {s : String} {type : EvmType} {components : List Abi.Component}
    (ht : trim s = s) (h : Spells components s type) : parse s components = type :=
  parse_of_spells (by rwa [ht])

theorem parse_of_not_spells {s : String} {components : List Abi.Component} (ht : trim s = s)
    (h : ∀ type, ¬ Spells components s type) : parse s components = .unknown s := by
  have hk := spells_or_unknown s components
  rw [ht] at hk
  exact hk.resolve_left (h _)

theorem IsRead.trim_text {type : EvmType} (h : type.IsRead) : trim type.text = type.text := by
  induction h with
  | elementary hb => exact (Elementary.isAlphanumeric_text _).trim
  | @array item size hi hn hl hs ih =>
    apply trim_eq_self
    · intro c hc
      apply head_trim (s := item.text)
      rw [text, String.append_assoc, String.append_assoc, head?_append _ hn] at hc
      rw [ih, hc]
    · intro c hc
      rw [text, String.toList_append, List.getLast?_append] at hc
      obtain rfl : ']' = c := Option.some.inj hc
      decide
  | tuple components =>
    apply trim_eq_self
    · intro c hc
      obtain rfl : '(' = c := by simpa [text] using hc
      decide
    · intro c hc
      rw [text, String.toList_append, List.getLast?_append] at hc
      obtain rfl : ')' = c := Option.some.inj hc
      decide
  | unknown ht h => exact ht

theorem IsRead.parse_text {type : EvmType} (h : type.IsRead) (components : List Abi.Component) :
    (parse type.text components).text = type.text ∧
      (type.hasTuple = false → parse type.text components = type) := by
  induction h with
  | elementary hb =>
    rw [parse_of_text (IsRead.elementary hb).trim_text (spells_text hb)]
    exact ⟨rfl, fun _ => rfl⟩
  | @array item size hi hn hl hs ih =>
    have ht := (IsRead.array hi hn hl hs).trim_text
    -- The name of a tuple can have a line feed in it: an array of that one is no array any more.
    by_cases hm : '\n' ∈ item.text.toList
    · have hp : parse (EvmType.array item size).text components =
          .unknown (EvmType.array item size).text := by
        apply parse_of_not_spells ht
        intro type hk
        apply newline_not_mem_of_spells hk
        simp [text, hm]
      rw [hp]
      refine ⟨rfl, ?_⟩
      intro hf
      exact absurd hm (hl hf)
    · have hp : parse (EvmType.array item size).text components =
          .array (parse item.text components) size :=
        parse_of_text ht (.array hn hm (isSize_sizeText hs))
      rw [hp]
      constructor
      · rw [text, ih.1, text]
      · intro hf
        rw [ih.2 hf]
  | tuple ps =>
    have hp : parse (EvmType.tuple ps).text components = .unknown (EvmType.tuple ps).text := by
      apply parse_of_not_spells (IsRead.tuple ps).trim_text
      intro type hk
      apply getLast?_of_spells hk
      rw [text, String.toList_append, List.getLast?_append]
      rfl
    rw [hp]
    exact ⟨rfl, fun hf => nomatch hf⟩
  | unknown ht h =>
    have hp := parse_of_not_spells ht (h components)
    rw [text, hp]
    exact ⟨rfl, fun _ => rfl⟩

def IsBounded : EvmType → Prop
  | .elementary type => type.IsBounded
  | .array item size => item.IsBounded ∧ ∀ n ∈ size, n < sizeBound
  | .tuple _ | .unknown _ => True

theorem isRead_of_isBounded : (type : EvmType) → type.IsBounded → type.hasTuple = false →
    type.unknowns = [] → type.IsRead ∧ type.text ≠ ""
  | .elementary type, hb, _, _ => by
    refine ⟨.elementary hb, ?_⟩
    intro he
    exact type.text_ne_nil (congrArg String.toList he)
  | .array item size, hb, ht, hu => by
    obtain ⟨hi, hn⟩ := isRead_of_isBounded item hb.1 ht hu
    refine ⟨.array hi hn ?_ hb.2, by simp [text]⟩
    intro hf
    apply hi.newline_not_mem hf
    rintro raw rfl
    cases hu
  | .tuple _, _, ht, _ => by cases ht
  | .unknown _, _, _, hu => by cases hu

/-- The canonical name of a type that was read is a normal form: read again, with whatever
components, it names a type of the same name, which is the same type unless a tuple occurs in it.
All arrays of elementary types are read back from their names, up to the largest numbers. -/
theorem parse_text_parse (s : String) (components others : List Abi.Component) :
    (parse (parse s components).text others).text = (parse s components).text ∧
      ((parse s components).hasTuple = false →
        parse (parse s components).text others = parse s components) ∧
      ∀ type : EvmType, type.IsBounded → type.hasTuple = false → type.unknowns = [] →
        parse type.text others = type := by
  obtain ⟨ht, hp⟩ := (isRead_parse s components).parse_text others
  refine ⟨ht, hp, ?_⟩
  intro type hb hf hu
  exact ((isRead_of_isBounded type hb hf hu).1.parse_text others).2 hf

theorem parse_text_parse_spaced : ∃ spaced largest : EvmType,
    parse " uint [03] " [] = spaced ∧ spaced.text = "uint256[3]" ∧ spaced.hasTuple = false ∧
    parse "uint256[3]" [] = spaced ∧
    largest.text = "int18446744073709551615[][18446744073709551615]" ∧ largest.IsBounded ∧
    largest.hasTuple = false ∧ largest.unknowns = [] ∧
    parse "int18446744073709551615[][18446744073709551615]" [] = largest := by
  let largest : EvmType := .array (.array (.elementary (.int 18446744073709551615)) none)
    (some 18446744073709551615)
  have hs : parse " uint [03] " [] = .array (.elementary (.uint 256)) (some 3) := by cbv
  have ht : largest.text = "int18446744073709551615[][18446744073709551615]" := by decide
  have hb : largest.IsBounded := by simp [largest, IsBounded, Elementary.IsBounded, sizeBound]
  obtain ⟨-, hp, hl⟩ := parse_text_parse " uint [03] " [] []
  rw [hs] at hp
  refine ⟨_, largest, hs, by decide, rfl, hp rfl, ht, hb, rfl, rfl, ?_⟩
  rw [← ht]
  exact hl largest hb rfl rfl

end EvmType

end ContractTypings
