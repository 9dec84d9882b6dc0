import ContractTypings.Contract.Name
import ContractTypings.Proofs.ContractName

namespace ContractTypings

namespace Text

theorem toUpper_ne_underscore {c : Char} (h : c ≠ '_') : c.toUpper ≠ '_' := by
  intro he
  rcases Contract.toNat_toUpper c with hc | hc
  · exact h (hc.symm.trans he)
  · rw [he] at hc
    revert hc
    decide

theorem toNat_toLower (c : Char) : (c.toLower = c ∧ (c.toNat < 0x41 ∨ 0x5A < c.toNat)) ∨
    (0x61 ≤ c.toLower.toNat ∧ c.toLower.toNat ≤ 0x7A) := by
  unfold Char.toLower
  split
  next hc =>
    right
    have hl : 65 ≤ c.val.toNat := UInt32.le_iff_toNat_le.mp hc.1
    have hu : c.val.toNat ≤ 90 := UInt32.le_iff_toNat_le.mp hc.2
    have hd : ('a'.val - 'A'.val).toNat = 32 := by decide
    rw [Char.toNat, UInt32.toNat_add, hd]
    omega
  next hc =>
    refine Or.inl ⟨rfl, ?_⟩
    by_contra hn
    apply hc
    rw [not_or, Nat.not_lt, Nat.not_lt] at hn
    exact ⟨UInt32.le_iff_toNat_le.mpr hn.1, UInt32.le_iff_toNat_le.mpr hn.2⟩

theorem toLower_ne_underscore {c : Char} (h : c ≠ '_') : c.toLower ≠ '_' := by
  intro he
  rcases toNat_toLower c with ⟨hc, -⟩ | hc
  · exact h (hc.symm.trans he)
  · rw [he] at hc
    revert hc
    decide

set_option maxRecDepth 4000 in
theorem alphabetic_ranges : ∀ r ∈ alphabetic, 0x41 ≤ r.first ∧ r.last ≤ 0x5A ∨ 0x61 ≤ r.first := by
  decide

theorem toNat_of_isAlphabetic {c : Char} (h : isAlphabetic c = true) :
    0x41 ≤ c.toNat ∧ c.toNat ≤ 0x5A ∨ 0x61 ≤ c.toNat := by
  obtain ⟨r, hr, hc⟩ := List.any_eq_true.mp h
  simp only [CharRange.has, Bool.and_eq_true, decide_eq_true_eq] at hc
  have hranges := alphabetic_ranges r hr
  omega

set_option maxRecDepth 4000 in
theorem isAlphanumeric_underscore : isAlphanumeric '_' = false := by decide

set_option maxRecDepth 4000 in
theorem isLowercase_space : isLowercase ' ' = false := by decide

namespace CamelState

def first (c : Char) : Char := if isNumeric c then c else c.toLower

theorem reversed_step (s : CamelState) (c : Char) : (s.step c).reversed = s.reversed ∨
    isAlphanumeric c = true ∧
      ∃ d, (s.step c).reversed = d :: s.reversed ∧ (d = c ∨ d = c.toUpper ∨ d = c.toLower) := by
  unfold step
  split
  · left
    split <;> rfl
  next hc =>
    right
    refine ⟨by simpa using hc, ?_⟩
    split
    · exact ⟨c, rfl, Or.inl rfl⟩
    · split
      · exact ⟨c.toUpper, rfl, Or.inr (Or.inl rfl)⟩
      · exact ⟨c.toLower, rfl, Or.inr (Or.inr rfl)⟩

theorem underscore_not_mem_foldl {s : CamelState} (h : '_' ∉ s.reversed) (cs : List Char) :
    '_' ∉ (cs.foldl step s).reversed := by
  induction cs generalizing s with
  | nil => exact h
  | cons c cs ih =>
    apply ih
    rcases s.reversed_step c with he | ⟨hc, d, he, hd⟩
    · rwa [he]
    · have hne : c ≠ '_' := by
        rintro rfl
        simp [isAlphanumeric_underscore] at hc
      rw [he, List.mem_cons, not_or]
      refine ⟨?_, h⟩
      rintro rfl
      rcases hd with hd | hd | hd
      · exact hne hd.symm
      · exact toUpper_ne_underscore hne hd.symm
      · exact toLower_ne_underscore hne hd.symm

theorem getLast?_foldl {s : CamelState} (h : s.reversed ≠ []) (cs : List Char) :
    (cs.foldl step s).reversed.getLast? = s.reversed.getLast? := by
  induction cs generalizing s with
  | nil => rfl
  | cons c cs ih =>
    rcases s.reversed_step c with he | ⟨-, d, he, -⟩
    · rw [List.foldl_cons, ih (he ▸ h), he]
    · rw [List.foldl_cons, ih (by simp [he]), he, List.getLast?_cons_of_ne_nil h]

theorem getLast?_foldl_start (cs : List Char) :
    (cs.foldl step {}).reversed.getLast? = (cs.find? isAlphanumeric).map first := by
  induction cs with
  | nil => rfl
  | cons c cs ih =>
    cases hc : isAlphanumeric c with
    | false =>
      have hs : step {} c = {} := by simp [step, hc]
      rw [List.foldl_cons, hs, ih, List.find?_cons_of_neg (by simp [hc])]
    | true =>
      have hs : (step {} c).reversed = [first c] := by
        unfold step first
        cases isNumeric c <;> simp [hc, isLowercase_space]
      rw [List.foldl_cons, getLast?_foldl (by simp [hs]), hs, List.find?_cons_of_pos hc]
      rfl

end CamelState

theorem underscore_not_mem_camelCase (s : String) : '_' ∉ (camelCase s).toList := by
  rw [camelCase, String.toList_ofList, List.mem_reverse]
  exact CamelState.underscore_not_mem_foldl (by simp) _

theorem head_camelCase (s : String) :
    (camelCase s).toList.head? = (s.toList.find? isAlphanumeric).map CamelState.first := by
  rw [camelCase, String.toList_ofList, List.head?_reverse]
  exact CamelState.getLast?_foldl_start _

end Text

namespace Contract

open Text

theorem namespaceName_eq_iff {x y : String} :
    namespaceName x = namespaceName y ↔ camelCase x = camelCase y := by
  -- no camel case has an underscore, so an escaped name is not one that is left as it is
  have hne : ∀ a b : String, "_" ++ camelCase a ≠ camelCase b := by
    intro a b h
    apply underscore_not_mem_camelCase b
    rw [← h, String.toList_append]
    exact List.mem_append_left _ (by decide)
  constructor
  · intro h
    unfold namespaceName at h
    dsimp only at h
    split at h
    · split at h
      · exact String.append_right_inj _ |>.mp h
      · exact absurd h (hne x y)
    · split at h
      · exact absurd h.symm (hne y x)
      · exact h
  · intro h
    rw [namespaceName, namespaceName, h]

theorem head_namespaceName {x : String} {c : Char}
    (h : (namespaceName x).toList.head? = some c) : c = '_' ∨ 0x61 ≤ c.toNat := by
  unfold namespaceName at h
  dsimp only at h
  split at h
  · rw [String.toList_append] at h
    cases h
    exact Or.inl rfl
  next hn =>
    right
    rw [not_or, not_or] at hn
    obtain ⟨-, hnum, -⟩ := hn
    rw [head_camelCase] at h hnum
    obtain ⟨d, hd, rfl⟩ := Option.map_eq_some_iff.mp h
    have hfirst : isNumeric (CamelState.first d) = false := by simpa [hd] using hnum
    have hnumeric : isNumeric d = false := by
      by_contra hn
      rw [Bool.not_eq_false] at hn
      rw [CamelState.first, if_pos hn, hn] at hfirst
      cases hfirst
    have halpha : isAlphabetic d = true := by
      simpa [isAlphanumeric, hnumeric] using List.find?_some hd
    rw [CamelState.first, if_neg (by simp [hnumeric])]
    have ha := toNat_of_isAlphabetic halpha
    rcases toNat_toLower d with ⟨hl, hr⟩ | ⟨hl, -⟩
    · rw [hl]
      omega
    · exact hl

end Contract

end ContractTypings
