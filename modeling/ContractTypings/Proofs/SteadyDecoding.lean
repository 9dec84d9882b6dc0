import ContractTypings.Proofs.BegunTrees
import ContractTypings.Proofs.FaithfulDecoding

/-!
Decoders that go through a text from left to right: what they say of its beginning stands whatever
follows. Of a text that can be loaded they say what they say of the value in memory, but for one
thing: an element that no field of a record is left for is malformed in a text, and too long an
array in memory.
-/

namespace ContractTypings.Json.Decoder

variable {α β : Type}

/-- What is said of a beginning stands, unless it is that the beginning is malformed. -/
inductive Stands : Except Fault α → Except Fault α → Prop
  | malformed (y : Except Fault α) : Stands (.error .malformed) y
  | refl (x : Except Fault α) : Stands x x

inductive Agree : Except Fault α → Except Fault α → Prop
  | ok (a : α) : Agree (.ok a) (.ok a)
  | mismatch (m : Mismatch) : Agree (.error (.mismatch m)) (.error (.mismatch m))
  | surplus (n : Nat) : Agree (.error .malformed) (.error (.mismatch (.tooLong n)))

theorem Stands.eq_of_mismatch {y : Except Fault α} {m : Mismatch}
    (h : Stands (.error (.mismatch m)) y) : y = .error (.mismatch m) := by
  cases h
  rfl

theorem Stands.bind {x y : Except Fault α} {f g : α → Except Fault β} (h : Stands x y)
    (hf : ∀ a, Stands (f a) (g a)) : Stands (x >>= f) (y >>= g) := by
  cases h with
  | malformed => exact .malformed _
  | refl =>
    cases x with
    | error e => exact .refl _
    | ok a => exact hf a

theorem Stands.map {x y : Except Fault α} (h : Stands x y) (f : α → β) :
    Stands (x.map f) (y.map f) := by
  cases h with
  | malformed => exact .malformed _
  | refl => exact .refl _

theorem Agree.bind {x y : Except Fault α} {f g : α → Except Fault β} (h : Agree x y)
    (hf : ∀ a, Agree (f a) (g a)) : Agree (x >>= f) (y >>= g) := by
  cases h with
  | ok a => exact hf a
  | mismatch m => exact .mismatch m
  | surplus n => exact .surplus n

theorem Agree.map {x y : Except Fault α} (h : Agree x y) (f : α → β) :
    Agree (x.map f) (y.map f) := by
  cases h with
  | ok a => exact .ok (f a)
  | mismatch m => exact .mismatch m
  | surplus n => exact .surplus n

theorem Agree.refl_of_ne {x : Except Fault α} (h : x ≠ .error .malformed) : Agree x x := by
  match x with
  | .ok a => exact .ok a
  | .error (.mismatch m) => exact .mismatch m
  | .error .malformed => exact absurd rfl h

theorem Agree.ne_malformed {x y : Except Fault α} (h : Agree x y) : y ≠ .error .malformed := by
  cases h <;> exact nofun

structure Steady (d : Decoder α) : Prop where
  broken (room : Nat) : d .text room .broken = .error .malformed
  begun {source : Source} {room : Nat} {t t' : Tree} (h : t.Begins t') :
    Stands (d .text room t) (d source room t')
  loaded {room : Nat} {t : Tree} {v : Value} (h : t.load? room = some v) :
    Agree (d .text room t) (d .value room t)

theorem agree_wrongType {room : Nat} {t : Tree} {v : Value} (h : t.load? room = some v)
    (wanted : Wanted) :
    Agree (.error (t.wrongType wanted) : Except Fault α) (.error (t.wrongType wanted)) := by
  match t with
  | .null | .bool _ | .number (some _) | .string (some _) | .array _ | .object _ =>
    exact .mismatch _
  | .number none | .string none | .broken => cases h

theorem steady_string : Steady string where
  broken _ := rfl
  begun h := by
    cases h with
    | broken => exact .malformed _
    | string s => cases s <;> exact .refl _
    | _ => exact .refl _
  loaded {_ t _} h := by
    match t with
    | .string (some s) => exact .ok s
    | .null | .bool _ | .number _ | .array _ | .object _ | .string none | .broken =>
      exact agree_wrongType h .string

theorem steady_bool : Steady bool where
  broken _ := rfl
  begun h := by
    cases h with
    | broken => exact .malformed _
    | _ => exact .refl _
  loaded {_ t _} h := by
    match t with
    | .bool b => exact .ok b
    | .null | .number _ | .string _ | .array _ | .object _ | .broken =>
      exact agree_wrongType h .boolean

theorem steady_optional {d : Decoder α} (h : Steady d) : Steady (optional d) where
  broken room := congrArg (Except.map some) (h.broken room)
  begun {source room t t'} ht := by
    by_cases hnull : t = .null
    · subst hnull
      cases ht
      exact .refl _
    by_cases hbroken : t = .broken
    · subst hbroken
      rw [optional_of_ne_null hnull, h.broken]
      exact .malformed _
    · have hnull' : t' ≠ .null := by
        rintro rfl
        cases ht with
        | broken => exact hbroken rfl
        | null => exact hnull rfl
      rw [optional_of_ne_null hnull, optional_of_ne_null hnull']
      exact (h.begun ht).map some
  loaded {_ t _} hl := by
    by_cases hnull : t = .null
    · subst hnull
      exact .ok none
    · rw [optional_of_ne_null hnull, optional_of_ne_null hnull]
      exact (h.loaded hl).map some

theorem stands_elements {read read' : Tree → Except Fault α}
    (hread : ∀ {t t'}, t.Begins t' → Stands (read t) (read' t')) :
    (es : Elements) → {es' : Elements} → es.Begins es' →
      Stands (elements read es) (elements read' es')
  | .cut, _, _ => .malformed _
  | .closed, _, .closed => .refl _
  | .cons _ es, _, .cons ht h =>
    (hread ht).bind fun _ => (stands_elements hread es h).bind fun _ => .refl _

theorem agree_elements {read read' : Tree → Except Fault α} {room : Nat}
    (hread : ∀ {t v}, t.load? room = some v → Agree (read t) (read' t)) :
    (es : Elements) → {vs : List Value} → es.load? room = some vs →
      Agree (elements read es) (elements read' es)
  | .cut, _, h => by cases h
  | .closed, _, _ => .ok []
  | .cons t es, _, h => by
    obtain ⟨v, hv, h⟩ := Option.bind_eq_some_iff.mp h
    obtain ⟨vs, hvs, -⟩ := Option.bind_eq_some_iff.mp h
    exact (hread hv).bind fun a => (agree_elements hread es hvs).bind fun as => .ok (a :: as)

theorem steady_list {d : Decoder α} (h : Steady d) : Steady (list d) where
  broken room := by cases room <;> rfl
  begun {source room t t'} ht := by
    cases ht with
    | broken => cases room <;> exact .malformed _
    | array hes =>
      cases room with
      | zero => exact .malformed _
      | succ room => exact stands_elements h.begun _ hes
    | _ => cases room <;> exact .refl _
  loaded {room t v} hl := by
    cases t with
    | array es =>
      cases room with
      | zero => cases hl
      | succ room =>
        obtain ⟨vs, hvs, -⟩ := Option.map_eq_some_iff.mp hl
        exact agree_elements h.loaded es hvs
    | _ => cases room <;> exact agree_wrongType hl .sequence

theorem stands_entries {read read' : Tree → Except Fault α}
    (hread : ∀ {t t'}, t.Begins t' → Stands (read t) (read' t')) :
    (ms : Members) → {ms' : Members} → {d : Dictionary α} → ms.Begins ms' →
      Stands (entries read ms d) (entries read' ms' d)
  | .cut, _, _, _ => .malformed _
  | .closed, _, _, .closed => .refl _
  | .cons none _ _, _, _, .cons _ _ _ => .malformed _
  | .cons (some _) _ ms, _, _, .cons _ ht h =>
    (hread ht).bind fun _ => stands_entries hread ms h

theorem agree_entries {read read' : Tree → Except Fault α} {room : Nat}
    (hread : ∀ {t v}, t.load? room = some v → Agree (read t) (read' t)) :
    (ms : Members) → {D D' : Dictionary Value} → {d : Dictionary α} → ms.load? room D = some D' →
      Agree (entries read ms d) (entries read' ms d)
  | .cut, _, _, _, h => by cases h
  | .closed, _, _, d, _ => .ok d
  | .cons key t ms, _, _, _, h => by
    obtain ⟨key, rfl, h⟩ := Option.bind_eq_some_iff.mp h
    obtain ⟨v, hv, h⟩ := Option.bind_eq_some_iff.mp h
    exact (hread hv).bind fun a => agree_entries hread ms h

theorem steady_dictionary {d : Decoder α} (h : Steady d) : Steady (dictionary d) where
  broken room := by cases room <;> rfl
  begun {source room t t'} ht := by
    cases ht with
    | broken => cases room <;> exact .malformed _
    | object hms =>
      cases room with
      | zero => exact .malformed _
      | succ room => exact stands_entries h.begun _ hms
    | _ => cases room <;> exact .refl _
  loaded {room t v} hl := by
    cases t with
    | object ms =>
      cases room with
      | zero => cases hl
      | succ room =>
        obtain ⟨D, hD, -⟩ := Option.map_eq_some_iff.mp hl
        exact agree_entries h.loaded ms hD
    | _ => cases room <;> exact agree_wrongType hl .map

structure Slot.Steady (s : Slot α) : Prop where
  begun {source : Source} {room : Nat} {t t' : Tree} (a : α) (h : t.Begins t') :
    Stands (s.store .text room t a) (s.store source room t' a)
  loaded {room : Nat} {t : Tree} {v : Value} (a : α) (h : t.load? room = some v) :
    Agree (s.store .text room t a) (s.store .value room t a)

theorem steady_slot {d : Decoder β} (h : Decoder.Steady d) (key : String) (put : β → α → α) :
    (slot key d put).Steady where
  begun _ ht := (h.begun ht).map _
  loaded _ hl := (h.loaded hl).map _

theorem steady_requiredSlot {d : Decoder β} (h : Decoder.Steady d) (key : String)
    (put : β → α → α) : (requiredSlot key d put).Steady where
  begun := (steady_slot h key put).begun
  loaded := (steady_slot h key put).loaded

section

variable {slots : List (Slot α)} (hs : ∀ s ∈ slots, s.Steady)

include hs

theorem stands_fields {source : Source} {room : Nat} :
    (ms : Members) → {ms' : Members} → {seen : List String} → {a : α} → ms.Begins ms' →
      Stands (fields slots .text room seen a ms) (fields slots source room seen a ms')
  | .cut, _, _, _, _ => by
    rw [fields]
    exact .malformed _
  | .closed, _, _, _, .closed => by
    rw [fields, fields]
    exact .refl _
  | .cons none _ _, _, _, _, .cons _ _ _ => by
    rw [fields]
    exact .malformed _
  | .cons (some key) t ms, _, seen, a, .cons _ ht h => by
    rw [fields, fields]
    cases hfind : slots.find? (·.key == key) with
    | none =>
      dsimp only
      split
      next hw =>
        rw [ht.eq_of_isWhole t hw, if_pos hw]
        exact stands_fields ms h
      · exact .malformed _
    | some s =>
      dsimp only
      split
      · exact .refl _
      · exact ((hs s (List.mem_of_find?_eq_some hfind)).begun a ht).bind fun _ =>
          stands_fields ms h
termination_by structural ms => ms

theorem agree_fields {room : Nat} :
    (ms : Members) → {D D' : Dictionary Value} → {seen : List String} → {a : α} →
      ms.load? room D = some D' →
      Agree (fields slots .text room seen a ms) (fields slots .value room seen a ms)
  | .cut, _, _, _, _, h => by cases h
  | .closed, _, _, seen, a, _ => by
    rw [fields, fields]
    cases unfilled? slots seen with
    | none => exact .ok a
    | some m => exact .mismatch m
  | .cons key t ms, _, _, seen, a, h => by
    obtain ⟨key, rfl, h⟩ := Option.bind_eq_some_iff.mp h
    obtain ⟨v, hv, h⟩ := Option.bind_eq_some_iff.mp h
    rw [fields, fields]
    cases hfind : slots.find? (·.key == key) with
    | none =>
      dsimp only
      rw [if_pos (t.isWhole_of_load? hv), if_pos (t.isWhole_of_load? hv)]
      exact agree_fields ms h
    | some s =>
      dsimp only
      split
      · exact .mismatch _
      · exact ((hs s (List.mem_of_find?_eq_some hfind)).loaded a hv).bind fun _ =>
          agree_fields ms h

end

theorem stands_positions {name : String} {size size' count position : Nat} {source : Source}
    {room : Nat} {slots : List (Slot α)} {a : α} (hs : ∀ s ∈ slots, s.Steady) :
    (es : Elements) → {es' : Elements} → es.Begins es' →
      Stands (positions name size count .text room position slots a es)
        (positions name size' count source room position slots a es')
  | .cut, _, _ => by
    rw [positions]
    exact .malformed _
  | .closed, _, .closed => by
    rw [positions, positions]
    exact .refl _
  | .cons _ es, _, .cons ht h => by
    cases slots with
    | nil => exact .malformed _
    | cons s slots =>
      obtain ⟨hhead, hs⟩ := List.forall_mem_cons.mp hs
      exact (hhead.begun a ht).bind fun _ => stands_positions hs es h

theorem agree_positions {name : String} {size count position : Nat} {room : Nat}
    {slots : List (Slot α)} {a : α} (hs : ∀ s ∈ slots, s.Steady) :
    (es : Elements) → {vs : List Value} → es.load? room = some vs →
      Agree (positions name size count .text room position slots a es)
        (positions name size count .value room position slots a es)
  | .cut, _, h => by cases h
  | .closed, _, _ => by
    rw [positions, positions]
    cases requiredAt? slots with
    | none => exact .ok a
    | some i => exact .mismatch _
  | .cons t es, _, h => by
    obtain ⟨v, hv, h⟩ := Option.bind_eq_some_iff.mp h
    obtain ⟨vs, hvs, -⟩ := Option.bind_eq_some_iff.mp h
    cases slots with
    | nil => exact .surplus size
    | cons s slots =>
      obtain ⟨hhead, hs⟩ := List.forall_mem_cons.mp hs
      exact (hhead.loaded a hv).bind fun _ => agree_positions hs es hvs

theorem steady_record {name : String} {initial : α} {slots : List (Slot α)}
    (hs : ∀ s ∈ slots, s.Steady) : Steady (record name initial slots) where
  broken room := by cases room <;> rfl
  begun {source room t t'} ht := by
    cases room with
    | zero =>
      cases ht with
      | broken | array | object => exact .malformed _
      | _ => exact .refl _
    | succ room =>
      cases ht with
      | broken => exact .malformed _
      | array hes => exact stands_positions hs _ hes
      | object hms => exact stands_fields hs _ hms
      | _ => exact .refl _
  loaded {room t v} hl := by
    cases room with
    | zero =>
      cases t with
      | array | object => cases hl
      | _ => exact agree_wrongType hl _
    | succ room =>
      cases t with
      | array es =>
        obtain ⟨vs, hvs, -⟩ := Option.map_eq_some_iff.mp hl
        exact agree_positions hs es hvs
      | object ms =>
        obtain ⟨D, hD, -⟩ := Option.map_eq_some_iff.mp hl
        exact agree_fields hs ms hD
      | _ => exact agree_wrongType hl _

theorem steady_loaded : Steady loaded where
  broken _ := rfl
  begun {_ room t t'} ht := by
    cases hl : t.load? room with
    | none =>
      have hmalformed : loaded .text room t = .error .malformed := by rw [loaded, hl]
      rw [hmalformed]
      exact .malformed _
    | some v =>
      rw [ht.eq_of_isWhole t (t.isWhole_of_load? hl)]
      exact .refl _
  loaded {_ _ v} hl := by
    simp only [loaded, hl]
    exact .ok v

end ContractTypings.Json.Decoder
