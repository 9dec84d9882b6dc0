import ContractTypings.Contract.Name
import Mathlib.Data.List.Basic
import Mathlib.Tactic.Common

namespace ContractTypings

def CharRange.codes (r : CharRange) : List Nat :=
  (List.range ((r.last - r.first) / r.step + 1)).map fun k => r.first + r.step * k

theorem CharRange.mem_codes {r : CharRange} {c : Char} (h : r.has c = true) :
    c.toNat ∈ r.codes := by
  simp only [has, Bool.and_eq_true, decide_eq_true_eq, beq_iff_eq] at h
  obtain ⟨⟨hfirst, hlast⟩, hstep⟩ := h
  have hdiv := Nat.div_add_mod (c.toNat - r.first) r.step
  have hle : (c.toNat - r.first) / r.step ≤ (r.last - r.first) / r.step :=
    Nat.div_le_div_right (Nat.sub_le_sub_right hlast r.first)
  apply List.mem_map.mpr
  refine ⟨(c.toNat - r.first) / r.step, List.mem_range.mpr (Nat.lt_succ_of_le hle), ?_⟩
  omega

/-- A number with a bit for each of some code points, so that two tables can be compared by a single
operation on numbers. -/
def bitsOf (codes : List Nat) : Nat := codes.foldl (fun bits code => bits ||| 1 <<< code) 0

theorem testBit_bitsOf {codes : List Nat} {n : Nat} (h : n ∈ codes) :
    (bitsOf codes).testBit n = true := by
  have hfold : ∀ (codes : List Nat) (bits : Nat), bits.testBit n = true ∨ n ∈ codes →
      (codes.foldl (fun bits code => bits ||| 1 <<< code) bits).testBit n = true := by
    intro codes
    induction codes with
    | nil => exact fun _ h => h.resolve_right List.not_mem_nil
    | cons code codes ih =>
      intro bits h
      apply ih
      rcases h with h | h
      · simp [Nat.testBit_or, h]
      · rcases List.mem_cons.mp h with rfl | h
        · left
          simp [Nat.testBit_or, Nat.one_shiftLeft]
        · exact Or.inr h
  exact hfold codes 0 (Or.inr h)

namespace CharRanges

def bits (ranges : CharRanges) : Nat := bitsOf (ranges.flatMap CharRange.codes)

theorem not_has_of_apart {rs ss : CharRanges} (h : rs.bits &&& ss.bits = 0) {c : Char}
    (hc : rs.has c = true) : ss.has c = false := by
  have hbit : ∀ {ts : CharRanges}, ts.has c = true → ts.bits.testBit c.toNat = true := by
    intro ts ht
    obtain ⟨r, hr, hrc⟩ := List.any_eq_true.mp ht
    exact testBit_bitsOf (List.mem_flatMap.mpr ⟨r, hr, CharRange.mem_codes hrc⟩)
  by_contra hs
  have hboth := Nat.testBit_and rs.bits ss.bits c.toNat
  rw [h, hbit hc, hbit (by simpa using hs)] at hboth
  simp at hboth

end CharRanges

namespace Text

def capitalSources : CharRanges :=
  singleCapitals.map Prod.fst ++ longCapitals.map fun e => ⟨e.1, e.1, 1⟩

def capitalsOf (e : CharRange × Nat) : CharRange :=
  ⟨e.2, e.2 + (e.1.last - e.1.first), e.1.step⟩

def capitalForms : CharRanges :=
  singleCapitals.map capitalsOf ++ (longCapitals.flatMap Prod.snd).map fun n => ⟨n, n, 1⟩

def capitalHeads : CharRanges :=
  singleCapitals.map capitalsOf ++ (longCapitals.filterMap (·.2.head?)).map fun n => ⟨n, n, 1⟩

def nameless : CharRanges :=
  whiteSpace ++ ⟨0x2D, 0x2E, 1⟩ :: digitZeros.map fun z => ⟨z, z + 9, 1⟩

theorem heads_apart_sources : capitalHeads.bits &&& capitalSources.bits = 0 := by decide +kernel

theorem forms_apart_nameless : capitalForms.bits &&& nameless.bits = 0 := by decide +kernel

theorem longCapitals_ne_nil : ∀ e ∈ longCapitals, e.2 ≠ [] := by decide

set_option maxRecDepth 2000 in
theorem capitalForms_first : ∀ r ∈ capitalForms, 0x41 ≤ r.first := by decide

theorem longCapitals_valid : ∀ e ∈ longCapitals, ∀ n ∈ e.2, n.isValidChar := by decide

set_option maxRecDepth 2000 in
theorem singleCapitals_valid : ∀ e ∈ singleCapitals,
    e.2 + (e.1.last - e.1.first) < 0xD800 ∨
      0xDFFF < e.2 ∧ e.2 + (e.1.last - e.1.first) < 0x110000 := by
  decide

theorem toNat_ofNat {n : Nat} (h : n.isValidChar) : (Char.ofNat n).toNat = n := by
  rw [Char.ofNat, dif_pos h]
  rfl

theorem capitalSources_has_iff {c : Char} : capitalSources.has c = true ↔
    (∃ e ∈ longCapitals, e.1 = c.toNat) ∨ ∃ e ∈ singleCapitals, e.1.has c = true := by
  simp only [capitalSources, CharRanges.has, List.any_append, List.any_map, Bool.or_eq_true,
    List.any_eq_true, Function.comp_apply, CharRange.has, Nat.mod_one, beq_self_eq_true,
    Bool.and_true, Bool.and_eq_true, decide_eq_true_eq, Nat.le_antisymm_iff]
  exact or_comm

theorem capital_cases (c : Char) :
    (∃ e ∈ longCapitals, e.1 = c.toNat ∧ capital c = e.2.map Char.ofNat) ∨
    (∃ e ∈ singleCapitals, e.1.has c = true ∧ ∃ d, (capitalsOf e).has d = true ∧ capital c = [d]) ∨
    capitalSources.has c = false ∧ capital c = [c] := by
  unfold capital
  split
  next code form h =>
    have hcode := List.find?_some h
    exact Or.inl ⟨_, List.mem_of_find?_eq_some h, by simpa using hcode, rfl⟩
  next hlong =>
    split
    next r first h =>
      have hmem := List.mem_of_find?_eq_some h
      have hc := List.find?_some h
      refine Or.inr (Or.inl ⟨_, hmem, hc, _, ?_, rfl⟩)
      have hvalid := singleCapitals_valid _ hmem
      simp only [CharRange.has, Bool.and_eq_true, decide_eq_true_eq, beq_iff_eq] at hc hvalid
      have hcode : (first + (c.toNat - r.first)).isValidChar := by
        unfold Nat.isValidChar
        omega
      simp only [CharRange.has, capitalsOf, toNat_ofNat hcode, Bool.and_eq_true,
        decide_eq_true_eq, beq_iff_eq, Nat.add_sub_cancel_left]
      exact ⟨⟨by omega, by omega⟩, hc.2⟩
    next hsingle =>
      refine Or.inr (Or.inr ⟨?_, rfl⟩)
      rw [← Bool.not_eq_true, capitalSources_has_iff]
      rintro (⟨e, he, hc⟩ | ⟨e, he, hc⟩)
      · exact List.find?_eq_none.mp hlong e he (by simpa using hc)
      · exact List.find?_eq_none.mp hsingle e he hc

theorem capital_eq_self {c : Char} (h : capitalSources.has c = false) : capital c = [c] := by
  rw [← Bool.not_eq_true, capitalSources_has_iff, not_or] at h
  rcases capital_cases c with ⟨e, he, hc, -⟩ | ⟨e, he, hc, -⟩ | ⟨-, hself⟩
  · exact absurd ⟨e, he, hc⟩ h.1
  · exact absurd ⟨e, he, hc⟩ h.2
  · exact hself

theorem has_capitals_of_mem {e : CharRange × Nat} {ns : List Nat} {d : Char}
    (he : e ∈ singleCapitals) (h : (capitalsOf e).has d = true) :
    CharRanges.has (singleCapitals.map capitalsOf ++ ns.map fun n => ⟨n, n, 1⟩) d = true :=
  List.any_eq_true.mpr ⟨_, List.mem_append_left _ (List.mem_map_of_mem he), h⟩

theorem has_capitals_of_code {n : Nat} {ns : List Nat} (hv : n.isValidChar) (h : n ∈ ns) :
    CharRanges.has (singleCapitals.map capitalsOf ++ ns.map fun n => ⟨n, n, 1⟩) (Char.ofNat n) =
      true := by
  refine List.any_eq_true.mpr ⟨⟨n, n, 1⟩, List.mem_append_right _ (List.mem_map_of_mem h), ?_⟩
  simp [CharRange.has, toNat_ofNat hv]

theorem has_capitalForms {c d : Char} (h : d ∈ capital c) : d = c ∨ capitalForms.has d = true := by
  rcases capital_cases c with ⟨e, he, -, hform⟩ | ⟨e, he, -, d', hd', hform⟩ | ⟨-, hform⟩
  · rw [hform] at h
    obtain ⟨n, hn, rfl⟩ := List.mem_map.mp h
    exact Or.inr (has_capitals_of_code (longCapitals_valid e he n hn)
      (List.mem_flatMap.mpr ⟨e, he, hn⟩))
  · rw [hform, List.mem_singleton] at h
    exact Or.inr (has_capitals_of_mem he (h ▸ hd'))
  · rw [hform, List.mem_singleton] at h
    exact Or.inl h

theorem capital_ne_nil (c : Char) : capital c ≠ [] := by
  rcases capital_cases c with ⟨e, he, -, hform⟩ | ⟨-, -, -, d, -, hform⟩ | ⟨-, hform⟩
  · simpa [hform] using longCapitals_ne_nil e he
  · simp [hform]
  · simp [hform]

theorem le_of_has_capitalForms {c : Char} (h : capitalForms.has c = true) : 0x41 ≤ c.toNat := by
  obtain ⟨r, hr, hc⟩ := List.any_eq_true.mp h
  simp only [CharRange.has, Bool.and_eq_true, decide_eq_true_eq] at hc
  exact Nat.le_trans (capitalForms_first r hr) hc.1.1

theorem mem_capitalize {cs : List Char} {d : Char} (h : d ∈ capitalize cs) :
    d ∈ cs ∨ capitalForms.has d = true := by
  cases cs with
  | nil => exact Or.inl h
  | cons c cs =>
    rcases List.mem_append.mp h with h | h
    · rcases has_capitalForms h with rfl | h
      · exact Or.inl List.mem_cons_self
      · exact Or.inr h
    · exact Or.inl (List.mem_cons_of_mem c h)

theorem not_source_of_head {c d : Char} (h : (capital c).head? = some d) :
    capitalSources.has d = false := by
  rcases capital_cases c with ⟨e, he, -, hform⟩ | ⟨e, he, -, d', hd', hform⟩ | ⟨hsource, hform⟩
  · rw [hform, List.head?_map] at h
    obtain ⟨n, hn, rfl⟩ := Option.map_eq_some_iff.mp h
    have hvalid := longCapitals_valid e he n (List.mem_of_mem_head? hn)
    exact CharRanges.not_has_of_apart heads_apart_sources
      (has_capitals_of_code hvalid (List.mem_filterMap.mpr ⟨e, he, hn⟩))
  · rw [hform, List.head?_cons, Option.some.injEq] at h
    exact CharRanges.not_has_of_apart heads_apart_sources (has_capitals_of_mem he (h ▸ hd'))
  · rw [hform, List.head?_cons, Option.some.injEq] at h
    exact h ▸ hsource

theorem head_capital {c d : Char} (h : (capital c).head? = some d) :
    d.toNat < 0x61 ∨ 0x7A < d.toNat := by
  by_contra hsmall
  have hsource : capitalSources.has d = true := by
    refine capitalSources_has_iff.mpr (Or.inr ⟨(⟨0x61, 0x7A, 1⟩, 0x41), List.mem_cons_self, ?_⟩)
    simp only [CharRange.has, Nat.mod_one, beq_self_eq_true, Bool.and_true, Bool.and_eq_true,
      decide_eq_true_eq]
    omega
  rw [not_source_of_head h] at hsource
  cases hsource

end Text

end ContractTypings
