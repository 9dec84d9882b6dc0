import ContractTypings.Contract.Interface
import ContractTypings.Proofs.Acceptance
import ContractTypings.Proofs.TextParts
import Mathlib

namespace ContractTypings

open Abi TypeScript

namespace Contract

section

variable {i j : Nat} {m n : String}

theorem parameterName_empty (i : Nat) : parameterName i "" = "arg" ++ toString i := rfl

theorem parameterName_of_reserved (i : Nat) (h : n ∈ reserved) : parameterName i n = n ++ "_" := by
  have hne : n ≠ "" := by
    rintro rfl
    exact absurd h (by decide)
  rw [parameterName, if_neg hne, if_pos h]

theorem parameterName_of_usable (i : Nat) (hne : n ≠ "") (h : n ∉ reserved) :
    parameterName i n = n := by
  rw [parameterName, if_neg hne, if_neg h]

theorem letters_of_mem_reserved :
    ∀ w ∈ reserved, '_' ∉ w.toList ∧ w.toList.any Char.isDigit = false := by
  decide

theorem underscore_mem_escaped (w : String) : '_' ∈ (w ++ "_").toList := by
  simp

theorem underscore_not_mem_positional (i : Nat) : '_' ∉ ("arg" ++ toString i).toList := by
  intro h
  rw [String.toList_append, List.mem_append] at h
  rcases h with h | h
  · exact absurd h (by decide)
  · exact absurd (isDigit_of_mem_toString h) (by decide)

theorem positional_not_reserved (i : Nat) : "arg" ++ toString i ∉ reserved := by
  intro h
  obtain ⟨c, hc⟩ : ∃ c, c ∈ (toString i).toList := List.exists_mem_of_ne_nil _ (by simp)
  have hmem : c ∈ ("arg" ++ toString i).toList := by
    rw [String.toList_append]
    exact List.mem_append_right _ hc
  have hdigit : ("arg" ++ toString i).toList.any Char.isDigit = true :=
    List.any_eq_true.mpr ⟨c, hmem, isDigit_of_mem_toString hc⟩
  rw [(letters_of_mem_reserved _ h).2] at hdigit
  cases hdigit

theorem escaped_not_reserved (w : String) : w ++ "_" ∉ reserved := fun h =>
  (letters_of_mem_reserved _ h).1 (underscore_mem_escaped w)

theorem positional_ne_escaped (i : Nat) (w : String) : "arg" ++ toString i ≠ w ++ "_" := fun h =>
  underscore_not_mem_positional i (h ▸ underscore_mem_escaped w)

/-- What a parameter at a position is called instead of a name that cannot be used. -/
inductive IsSubstitute (i : Nat) : String → String → Prop
  | unnamed : IsSubstitute i "" ("arg" ++ toString i)
  | escaped {w : String} (h : w ∈ reserved) : IsSubstitute i w (w ++ "_")

theorem parameterName_rule (i : Nat) (n : String) :
    (n ≠ "" ∧ n ∉ reserved ∧ parameterName i n = n) ∨ IsSubstitute i n (parameterName i n) := by
  by_cases hne : n = ""
  · subst hne
    rw [parameterName_empty]
    exact Or.inr .unnamed
  · by_cases hr : n ∈ reserved
    · rw [parameterName_of_reserved i hr]
      exact Or.inr (.escaped hr)
    · exact Or.inl ⟨hne, hr, parameterName_of_usable i hne hr⟩

theorem IsSubstitute.parameterName_eq (h : IsSubstitute i m n) : parameterName i m = n := by
  cases h with
  | unnamed => exact parameterName_empty i
  | escaped h => exact parameterName_of_reserved i h

theorem IsSubstitute.usable (h : IsSubstitute i m n) : n ≠ "" ∧ n ∉ reserved := by
  cases h with
  | unnamed => exact ⟨by simp, positional_not_reserved i⟩
  | escaped h => exact ⟨by simp, escaped_not_reserved m⟩

theorem IsSubstitute.ne (h : IsSubstitute i m n) : m ≠ n := by
  cases h with
  | unnamed => simp
  | escaped h =>
    intro he
    exact escaped_not_reserved m (he ▸ h)

theorem IsSubstitute.unique {o : String} (h : IsSubstitute i m o) (h' : IsSubstitute j n o) :
    m = n ∧ (m = "" → i = j) := by
  generalize ho : o = o' at h'
  cases h with
  | unnamed =>
    cases h' with
    | unnamed => exact ⟨rfl, fun _ => Nat.repr_injective ((String.append_right_inj _).mp ho)⟩
    | escaped => exact absurd ho (positional_ne_escaped i n)
  | escaped hm =>
    cases h' with
    | unnamed => exact absurd ho.symm (positional_ne_escaped j m)
    | escaped =>
      refine ⟨(String.append_left_inj _).mp ho, ?_⟩
      rintro rfl
      exact absurd hm (by decide)

theorem parameterName_legal (i : Nat) (n : String) :
    parameterName i n ≠ "" ∧ parameterName i n ∉ reserved := by
  rcases parameterName_rule i n with ⟨hne, hr, he⟩ | h
  · rw [he]
    exact ⟨hne, hr⟩
  · exact h.usable

theorem parameterName_eq_iff : parameterName i m = parameterName j n ↔
    (m = n ∧ (m = "" → i = j)) ∨ IsSubstitute i m n ∨ IsSubstitute j n m := by
  constructor
  · intro h
    rcases parameterName_rule i m with ⟨hm, -, hi⟩ | hi
    · rcases parameterName_rule j n with ⟨-, -, hj⟩ | hj
      · rw [hi, hj] at h
        exact Or.inl ⟨h, fun he => absurd he hm⟩
      · rw [← h, hi] at hj
        exact Or.inr (Or.inr hj)
    · rcases parameterName_rule j n with ⟨-, -, hj⟩ | hj
      · rw [h, hj] at hi
        exact Or.inr (Or.inl hi)
      · rw [← h] at hj
        exact Or.inl (hi.unique hj)
  · rintro (⟨rfl, he⟩ | h | h)
    · by_cases hm : m = ""
      · rw [he hm]
      · simp only [parameterName, if_neg hm]
    · rw [h.parameterName_eq, parameterName_of_usable j h.usable.1 h.usable.2]
    · rw [h.parameterName_eq, parameterName_of_usable i h.usable.1 h.usable.2]

end

structure AvoidsSubstitutes (names : List String) : Prop where
  positional : ∀ i : Nat, names[i]? = some "" → "arg" ++ toString i ∉ names
  escaped : ∀ w ∈ reserved, w ∈ names → w ++ "_" ∉ names

theorem avoidsSubstitutes_iff {names : List String} : AvoidsSubstitutes names ↔
    ∀ (i : Nat) (m n : String), names[i]? = some m → n ∈ names → ¬ IsSubstitute i m n := by
  constructor
  · intro h i m n hm hn hs
    cases hs with
    | unnamed => exact h.positional i hm hn
    | escaped hr => exact h.escaped m hr (List.mem_of_getElem? hm) hn
  · intro h
    constructor
    · intro i hi hmem
      exact h i "" _ hi hmem .unnamed
    · intro w hr hw hmem
      obtain ⟨i, hi⟩ := List.mem_iff_getElem?.mp hw
      exact h i w _ hi hmem (.escaped hr)

theorem names_parametersOf (inputs : List Param) : (parametersOf inputs).map Parameter.name =
    (inputs.map Param.nameOrEmpty).zipIdx.map fun (n, i) => parameterName i n := by
  rw [parametersOf, List.zipIdx_map, List.map_map, List.map_map]
  rfl

theorem eq_of_getElem?_of_nodup_filter {p : String → Bool} {names : List String} {i j : Nat}
    {n : String} (h : (names.filter p).Nodup) (hp : p n = true) (hi : names[i]? = some n)
    (hj : names[j]? = some n) : i = j := by
  obtain ⟨hil, hi⟩ := List.getElem?_eq_some_iff.mp hi
  obtain ⟨hjl, hj⟩ := List.getElem?_eq_some_iff.mp hj
  have hne := List.pairwise_iff_getElem.mp (List.pairwise_filter.mp h)
  rcases Nat.lt_trichotomy i j with hlt | heq | hgt
  · exact absurd (hi.trans hj.symm) (hne i j hil hjl hlt (hi ▸ hp) (hj ▸ hp))
  · exact heq
  · exact absurd (hj.trans hi.symm) (hne j i hjl hil hgt (hj ▸ hp) (hi ▸ hp))

theorem nodup_names_iff {names : List String} (hn : (names.filter (· ≠ "")).Nodup) :
    (names.zipIdx.map fun (n, i) => parameterName i n).Nodup ↔ AvoidsSubstitutes names := by
  rw [avoidsSubstitutes_iff]
  constructor
  · intro h i m n hm hn hs
    obtain ⟨j, hj⟩ := List.mem_iff_getElem?.mp hn
    have heq : parameterName i m = parameterName j n :=
      parameterName_eq_iff.mpr (Or.inr (Or.inl hs))
    have hpair := List.inj_on_of_nodup_map h (List.mk_mem_zipIdx_iff_getElem?.mpr hm)
      (List.mk_mem_zipIdx_iff_getElem?.mpr hj) heq
    exact hs.ne (congrArg Prod.fst hpair)
  · intro h
    apply List.Nodup.map_on
    · rintro ⟨m, i⟩ hm ⟨n, j⟩ hn' heq
      have hi := List.mk_mem_zipIdx_iff_getElem?.mp hm
      have hj := List.mk_mem_zipIdx_iff_getElem?.mp hn'
      rcases parameterName_eq_iff.mp heq with ⟨rfl, hpos⟩ | hs | hs
      · by_cases hm : m = ""
        · rw [hpos hm]
        · rw [eq_of_getElem?_of_nodup_filter hn (by simpa using hm) hi hj]
      · exact absurd hs (h i m n hi (List.mem_of_getElem? hj))
      · exact absurd hs (h j n m hj (List.mem_of_getElem? hi))
    · apply List.Nodup.of_map Prod.snd
      rw [List.zipIdx_map_snd]
      exact List.nodup_range'

/-- Parameters whose names in the ABI differ, as far as they have any, all get names that are
neither empty nor reserved. These differ too just if no parameter is called what another has as a
substitute. -/
theorem parameter_names {inputs : List Param}
    (h : ((inputs.map Param.nameOrEmpty).filter (· ≠ "")).Nodup) :
    let names := (parametersOf inputs).map Parameter.name
    names.length = inputs.length ∧ (∀ n ∈ names, n ≠ "" ∧ n ∉ reserved) ∧
      (names.Nodup ↔ AvoidsSubstitutes (inputs.map Param.nameOrEmpty)) := by
  intro names
  have hnames : names = _ := names_parametersOf inputs
  refine ⟨by simp [names, parametersOf], ?_, ?_⟩
  · intro n hn
    rw [hnames] at hn
    obtain ⟨⟨m, i⟩, -, rfl⟩ := List.mem_map.mp hn
    exact parameterName_legal i m
  · rw [hnames]
    exact nodup_names_iff h

theorem parameter_names_mixed :
    let inputs : List Param := [
      .plain "" (.elementary .bool), .plain "new" (.elementary .bool),
      .plain "arg1" (.elementary .bool), .plain "" (.elementary .bool)]
    let names := (parametersOf inputs).map Parameter.name
    ((inputs.map Param.nameOrEmpty).filter (· ≠ "")).Nodup ∧
      names = ["arg0", "new_", "arg1", "arg3"] ∧ (∀ n ∈ names, n ≠ "" ∧ n ∉ reserved) ∧
      AvoidsSubstitutes (inputs.map Param.nameOrEmpty) := by
  intro inputs names
  have h : ((inputs.map Param.nameOrEmpty).filter (· ≠ "")).Nodup := by decide
  have hnames : names = ["arg0", "new_", "arg1", "arg3"] := by decide
  have hnodup : names.Nodup := by
    rw [hnames]
    decide
  obtain ⟨-, hlegal, hiff⟩ := parameter_names h
  exact ⟨h, hnames, hlegal, hiff.mp hnodup⟩

/-- A parameter that is called what the unnamed one after it has as a substitute, and one that is
called what a reserved word is replaced by: both contracts are accepted, and both methods have one
name twice. -/
theorem parameter_names_repeated :
    let positional : List Component := [{ name := "arg1", type := "bool" }, { type := "bool" }]
    let escaped : List Component := [
      { name := "new", type := "bool" }, { name := "new_", type := "bool" }]
    (∀ inputs ∈ [positional, escaped],
      (((Param.ofComponents inputs).map Param.nameOrEmpty).filter (· ≠ "")).Nodup ∧
        ¬ ((parametersOf (Param.ofComponents inputs)).map Parameter.name).Nodup) ∧
    ∃ c, ofAbi [
        { type := "function", name := some "f", inputs := positional },
        { type := "function", name := some "g", inputs := escaped }] ⟨"Token.json"⟩ none = .ok c ∧
      c.methods.map Method.signature = [
        "f(arg1: boolean, arg1: boolean): NonPayableTransactionObject<void>;",
        "g(new_: boolean, new_: boolean): NonPayableTransactionObject<void>;"] := by
  intro positional escaped
  refine ⟨by decide +kernel, ?_⟩
  exact exists_ok_of_map (fun c => c.methods.map Method.signature) _ (by decide +kernel)
    fun _ _ hlines => hlines

end Contract

end ContractTypings
