import ContractTypings.Json.Decoder
import ContractTypings.Proofs.Loading
import Mathlib.Data.List.Pairwise

namespace ContractTypings.Json.Decoder

variable {α β γ : Type} {slots : List (Slot α)} {source : Source} {room : Nat}

theorem run_of_ended {d : Decoder α} {text : String} {t : Tree}
    (h : Document.ofText text = ⟨t, true⟩) : d.run text = d .text maxNesting t := by
  simp only [run, h, if_true]
  cases d .text maxNesting t <;> rfl

def isKnown (slots : List (Slot α)) (key : String) : Bool := (slots.find? (·.key == key)).isSome

def knownKeys (slots : List (Slot α)) (ms : List (String × Tree)) : List String :=
  (ms.filter fun m => isKnown slots m.1).map Prod.fst

def storeAll (slots : List (Slot α)) (source : Source) (room : Nat) :
    List (String × Tree) → α → Except Fault α
  | [], a => .ok a
  | (key, t) :: ms, a =>
    match slots.find? (·.key == key) with
    | none => storeAll slots source room ms a
    | some s => do
      let a ← s.store source room t a
      storeAll slots source room ms a

theorem unfilled?_eq_none_iff {seen : List String} :
    unfilled? slots seen = none ↔ ∀ s ∈ slots, s.required = true → s.key ∈ seen := by
  simp [unfilled?]

theorem bind_eq_ok_iff {x : Except Fault α} {f : α → Except Fault β} {b : β} :
    (x >>= f) = .ok b ↔ ∃ a, x = .ok a ∧ f a = .ok b := by
  cases x with
  | error e =>
    constructor
    · exact nofun
    · rintro ⟨_, h, -⟩
      cases h
  | ok a =>
    constructor
    · exact fun h => ⟨a, rfl, h⟩
    · rintro ⟨_, h, h'⟩
      cases h
      exact h'

theorem exists_ok_of_bind {x : Except Fault α} {f : α → Except Fault β}
    (h : ∃ b, (x >>= f) = .ok b) : ∃ a, x = .ok a := by
  obtain ⟨b, hb⟩ := h
  obtain ⟨a, ha, -⟩ := bind_eq_ok_iff.mp hb
  exact ⟨a, ha⟩

theorem exists_ok_of_bind_ok {x : Except Fault α} {f : α → Except Fault β} {a : α}
    (hx : x = .ok a) (h : ∃ b, (x >>= f) = .ok b) : ∃ b, f a = .ok b := by
  subst hx
  exact h

theorem storeAll_filter (ms : List (String × Tree)) (a : α) :
    storeAll slots source room (ms.filter fun m => isKnown slots m.1) a =
      storeAll slots source room ms a := by
  induction ms generalizing a with
  | nil => rfl
  | cons m ms ih =>
    obtain ⟨key, t⟩ := m
    cases hs : slots.find? (·.key == key) with
    | none =>
      rw [List.filter_cons_of_neg (by simp [isKnown, hs]), ih, storeAll, hs]
    | some s =>
      rw [List.filter_cons_of_pos (by simp [isKnown, hs]), storeAll, storeAll, hs]
      simp only [ih]

theorem knownKeys_eq (ms : List (String × Tree)) :
    knownKeys slots ms = (ms.map Prod.fst).filter (isKnown slots) := by
  rw [List.filter_map]
  rfl

theorem knownKeys_cons_of_none {key : String} {t : Tree} {ms : List (String × Tree)}
    (h : slots.find? (·.key == key) = none) :
    knownKeys slots ((key, t) :: ms) = knownKeys slots ms := by
  rw [knownKeys, List.filter_cons_of_neg (by simp [isKnown, h]), knownKeys]

theorem knownKeys_cons_of_some {key : String} {t : Tree} {ms : List (String × Tree)} {s : Slot α}
    (h : slots.find? (·.key == key) = some s) :
    knownKeys slots ((key, t) :: ms) = key :: knownKeys slots ms := by
  rw [knownKeys, List.filter_cons_of_pos (by simp [isKnown, h]), List.map_cons, knownKeys]

/-- The members of an object that make a record, when some of its fields have been read before: the
unknown ones keep to the grammar, no known one is repeated, and none is missing that is required. -/
structure Fits (slots : List (Slot α)) (seen : List String) (ms : List (String × Tree)) : Prop where
  whole : ∀ m ∈ ms, isKnown slots m.1 = false → m.2.isWhole = true
  nodup : (knownKeys slots ms).Nodup
  unseen : ∀ k ∈ knownKeys slots ms, k ∉ seen
  complete : ∀ s ∈ slots, s.required = true → s.key ∈ seen ∨ s.key ∈ knownKeys slots ms

section

variable {key : String} {t : Tree} {ms : List (String × Tree)} {seen : List String}

theorem fits_nil : Fits slots seen [] ↔ unfilled? slots seen = none := by
  rw [unfilled?_eq_none_iff]
  constructor
  · intro h s hs hr
    exact (h.complete s hs hr).resolve_right List.not_mem_nil
  · intro h
    exact ⟨by simp, List.nodup_nil, by simp [knownKeys], fun s hs hr => Or.inl (h s hs hr)⟩

theorem fits_cons_of_none (h : slots.find? (·.key == key) = none) :
    Fits slots seen ((key, t) :: ms) ↔ t.isWhole = true ∧ Fits slots seen ms := by
  have hknown : isKnown slots key = false := by simp [isKnown, h]
  constructor
  · rintro ⟨hw, hn, hu, hc⟩
    rw [knownKeys_cons_of_none h] at hn hu hc
    obtain ⟨ht, hw⟩ := List.forall_mem_cons.mp hw
    exact ⟨ht hknown, hw, hn, hu, hc⟩
  · rintro ⟨ht, hw, hn, hu, hc⟩
    rw [← knownKeys_cons_of_none (t := t) h] at hn hu hc
    exact ⟨List.forall_mem_cons.mpr ⟨fun _ => ht, hw⟩, hn, hu, hc⟩

theorem fits_cons_of_some {s : Slot α} (h : slots.find? (·.key == key) = some s) :
    Fits slots seen ((key, t) :: ms) ↔ key ∉ seen ∧ Fits slots (key :: seen) ms := by
  have hknown : isKnown slots key = true := by simp [isKnown, h]
  constructor
  · rintro ⟨hw, hn, hu, hc⟩
    rw [knownKeys_cons_of_some h] at hn hu hc
    obtain ⟨hk, hn⟩ := List.nodup_cons.mp hn
    obtain ⟨hks, hu⟩ := List.forall_mem_cons.mp hu
    refine ⟨hks, (List.forall_mem_cons.mp hw).2, hn, ?_, ?_⟩
    · intro k hkm hmem
      rcases List.mem_cons.mp hmem with rfl | hmem
      · exact hk hkm
      · exact hu k hkm hmem
    · intro s hs hr
      rw [List.mem_cons, or_assoc]
      exact or_left_comm.mp (by simpa using hc s hs hr)
  · rintro ⟨hks, hw, hn, hu, hc⟩
    refine ⟨List.forall_mem_cons.mpr ⟨?_, hw⟩, ?_, ?_, ?_⟩
    · intro hf
      rw [hknown] at hf
      cases hf
    all_goals rw [knownKeys_cons_of_some h]
    · exact List.nodup_cons.mpr ⟨fun hk => hu key hk List.mem_cons_self, hn⟩
    · exact List.forall_mem_cons.mpr
        ⟨hks, fun k hk hmem => hu k hk (List.mem_cons_of_mem key hmem)⟩
    · intro s hs hr
      rw [List.mem_cons]
      exact or_left_comm.mpr (by simpa [or_assoc] using hc s hs hr)

theorem fields_ofList_eq_ok_iff {a b : α} :
    fields slots source room seen a (.ofList ms) = .ok b ↔
      Fits slots seen ms ∧ storeAll slots source room ms a = .ok b := by
  induction ms generalizing seen a with
  | nil =>
    rw [Members.ofList, fields, storeAll, fits_nil]
    cases unfilled? slots seen with
    | none => simp
    | some m => simp
  | cons m ms ih =>
    obtain ⟨key, t⟩ := m
    rw [Members.ofList, fields, storeAll]
    cases hs : slots.find? (·.key == key) with
    | none =>
      rw [fits_cons_of_none hs]
      cases t.isWhole with
      | true => simp [ih]
      | false => simp
    | some s =>
      rw [fits_cons_of_some hs]
      by_cases hseen : key ∈ seen
      · simp [hseen]
      · simp only [List.contains_iff_mem, hseen, if_false, not_false_eq_true, true_and,
          bind_eq_ok_iff, ih]
        constructor
        · rintro ⟨a, h, hf, hm⟩
          exact ⟨hf, a, h, hm⟩
        · rintro ⟨hf, a, h, hm⟩
          exact ⟨a, h, hf, hm⟩

end

def Slot.Commute (s s' : Slot α) : Prop :=
  ∀ source room t t' a b,
    (s.store source room t a >>= s'.store source room t') = .ok b ↔
      (s'.store source room t' a >>= s.store source room t) = .ok b

instance : Std.Symm (Slot.Commute (α := α)) where
  symm _ _ h := fun source room t t' a b => (h source room t' t a b).symm

theorem commute_slot {d : Decoder β} {d' : Decoder γ} {put : β → α → α} {put' : γ → α → α}
    {key key' : String} (h : ∀ b c a, put' c (put b a) = put b (put' c a)) :
    (slot key d put).Commute (slot key' d' put') := by
  intro source room t t' a b
  simp only [slot]
  cases d source room t with
  | error e =>
    cases d' source room t' with
    | error e' => exact ⟨nofun, nofun⟩
    | ok c => exact ⟨nofun, nofun⟩
  | ok b' =>
    cases d' source room t' with
    | error e' => exact ⟨nofun, nofun⟩
    | ok c =>
      change Except.ok (put' c (put b' a)) = Except.ok b ↔
        Except.ok (put b' (put' c a)) = Except.ok b
      rw [h]

theorem storeAll_perm {ms ms' : List (String × Tree)} {a b : α}
    (hc : slots.Pairwise Slot.Commute) (h : ms.Perm ms')
    (hn : (ms.map Prod.fst).Nodup) (hs : storeAll slots source room ms a = .ok b) :
    storeAll slots source room ms' a = .ok b := by
  induction h generalizing a with
  | nil => exact hs
  | cons m h ih =>
    obtain ⟨key, t⟩ := m
    rw [storeAll] at hs ⊢
    have hn := (List.nodup_cons.mp hn).2
    split at hs
    · exact ih hn hs
    · obtain ⟨a', ha, hs⟩ := bind_eq_ok_iff.mp hs
      exact bind_eq_ok_iff.mpr ⟨a', ha, ih hn hs⟩
  | swap m m' ms =>
    obtain ⟨key, t⟩ := m
    obtain ⟨key', t'⟩ := m'
    simp only [storeAll] at hs ⊢
    cases hk : slots.find? (·.key == key) with
    | none => simpa only [hk] using hs
    | some s =>
      cases hk' : slots.find? (·.key == key') with
      | none => simpa only [hk, hk'] using hs
      | some s' =>
        simp only [hk, hk', bind_eq_ok_iff] at hs ⊢
        obtain ⟨a', ha, c, hc', hs⟩ := hs
        have hkey : s.key = key := by simpa using List.find?_some hk
        have hkey' : s'.key = key' := by simpa using List.find?_some hk'
        have hne : s' ≠ s := by
          rintro rfl
          simp [← hkey, ← hkey'] at hn
        have hcommute : s'.Commute s :=
          hc.forall (List.mem_of_find?_eq_some hk') (List.mem_of_find?_eq_some hk) hne
        obtain ⟨a'', ha', hc''⟩ := bind_eq_ok_iff.mp
          ((hcommute _ _ _ _ _ _).mp (bind_eq_ok_iff.mpr ⟨a', ha, hc'⟩))
        exact ⟨a'', ha', c, hc'', hs⟩
  | trans h h' ih ih' => exact ih' ((h.map Prod.fst).nodup_iff.mp hn) (ih hn hs)

end ContractTypings.Json.Decoder
