import ContractTypings.Proofs.SteadyDecoding
import ContractTypings.Artifact

/-!
Artifacts are read from left to right, but for the values that may hold an ABI: those are loaded
whole before their items are read, and so are the notices of functions.
-/

namespace ContractTypings

open Json Decoder

namespace Abi

namespace Component

theorem steady_slots {nested : Decoder (List Component)} (h : Steady nested) :
    ∀ s ∈ slots nested, s.Steady := by
  simp only [slots, List.forall_mem_cons]
  exact ⟨steady_slot (steady_optional steady_string) _ _, steady_slot steady_string _ _,
    steady_requiredSlot steady_string _ _, steady_slot h _ _,
    steady_slot (steady_optional steady_bool) _ _, nofun⟩

theorem steady_decoderTo (depth : Nat) : Steady (decoderTo depth) := by
  induction depth with
  | zero => exact steady_record nofun
  | succ depth ih => exact steady_record (steady_slots (steady_list ih))

theorem steady_decoder : Steady decoder where
  broken room := (steady_decoderTo room).broken room
  begun {_ room _ _} h := (steady_decoderTo room).begun h
  loaded {room _ _} h := (steady_decoderTo room).loaded h

end Component

theorem Item.steady_decoder : Steady Item.decoder := by
  have hcomponents : Steady (list Component.decoder) := steady_list Component.steady_decoder
  have hstring : Steady (optional string) := steady_optional steady_string
  have hbool : Steady (optional bool) := steady_optional steady_bool
  apply steady_record
  simp only [List.forall_mem_cons]
  exact ⟨steady_slot hcomponents _ _, steady_slot hstring _ _, steady_slot steady_string _ _,
    steady_slot hstring _ _, steady_slot hcomponents _ _, steady_slot hbool _ _,
    steady_slot hbool _ _, steady_slot hbool _ _, nofun⟩

theorem Items.steady_decoder : Steady Items.decoder := steady_list Item.steady_decoder

end Abi

namespace Natspec

theorem MethodDevDoc.steady_decoder : Steady MethodDevDoc.decoder := by
  have hstring : Steady (optional string) := steady_optional steady_string
  have hdictionary : Steady (dictionary string) := steady_dictionary steady_string
  apply steady_record
  simp only [List.forall_mem_cons]
  exact ⟨steady_slot hstring _ _, steady_slot hdictionary _ _, steady_slot hstring _ _,
    steady_slot hdictionary _ _, nofun⟩

theorem DevDoc.steady_decoder : Steady DevDoc.decoder := by
  have hstring : Steady (optional string) := steady_optional steady_string
  apply steady_record
  simp only [List.forall_mem_cons]
  exact ⟨steady_slot hstring _ _, steady_slot hstring _ _,
    steady_slot (steady_dictionary MethodDevDoc.steady_decoder) _ _, nofun⟩

theorem MethodUserDoc.steady_decoder : Steady MethodUserDoc.decoder where
  broken _ := rfl
  begun {_ room t _} ht := by
    cases hl : t.load? room with
    | none =>
      have hmalformed : MethodUserDoc.decoder .text room t = .error .malformed := by
        simp only [decoder, loaded, hl]
        rfl
      rw [hmalformed]
      exact .malformed _
    | some v =>
      rw [ht.eq_of_isWhole t (t.isWhole_of_load? hl)]
      exact .refl _
  loaded {room t v} hl := by
    simp only [decoder, loaded, hl]
    apply Agree.refl_of_ne
    dsimp only [bind, Except.bind]
    split
    · simp
    · split <;> simp
    · simp

theorem UserDoc.steady_decoder : Steady UserDoc.decoder := by
  apply steady_record
  simp only [List.forall_mem_cons]
  exact ⟨steady_slot (steady_optional steady_string) _ _,
    steady_slot (steady_dictionary MethodUserDoc.steady_decoder) _ _, nofun⟩

end Natspec

namespace Json

theorem Elements.exists_load? {room : Nat} {ts : List Tree}
    (h : ∀ t ∈ ts, ∃ v, t.load? room = some v) : ∃ vs, (ofList ts).load? room = some vs := by
  induction ts with
  | nil => exact ⟨[], rfl⟩
  | cons t ts ih =>
    obtain ⟨⟨v, hv⟩, h⟩ := List.forall_mem_cons.mp h
    obtain ⟨vs, hvs⟩ := ih h
    exact ⟨v :: vs, by rw [ofList, Elements.load?, hv, hvs]; rfl⟩

theorem Members.exists_load? {room : Nat} {ms : List (String × Tree)} {d : Dictionary Value}
    (h : ∀ m ∈ ms, ∃ v, m.2.load? room = some v) : ∃ d', (ofList ms).load? room d = some d' := by
  induction ms generalizing d with
  | nil => exact ⟨d, rfl⟩
  | cons m ms ih =>
    obtain ⟨key, t⟩ := m
    obtain ⟨⟨v, hv⟩, h⟩ := List.forall_mem_cons.mp h
    obtain ⟨d', hd'⟩ := ih (d := d.insert key v) h
    exact ⟨d', by rw [ofList, Members.load?, hv]; exact hd'⟩

def Value.Reloads (room : Nat) (v : Value) : Prop := ∃ w, v.tree.load? room = some w

mutual

theorem Tree.reloads {room : Nat} : (t : Tree) → {v : Value} → t.load? room = some v →
    v.Reloads room
  | .null, _, h => by
    cases h
    exact ⟨.null, rfl⟩
  | .bool b, _, h => by
    cases h
    exact ⟨.bool b, rfl⟩
  | .number n, _, h => by
    obtain ⟨n, rfl, rfl⟩ := Option.map_eq_some_iff.mp h
    exact ⟨.number n, rfl⟩
  | .string s, _, h => by
    obtain ⟨s, rfl, rfl⟩ := Option.map_eq_some_iff.mp h
    exact ⟨.string s, rfl⟩
  | .array es, _, h => by
    match room with
    | 0 => cases h
    | room + 1 =>
      obtain ⟨vs, hvs, rfl⟩ := Option.map_eq_some_iff.mp h
      obtain ⟨ws, hws⟩ := Elements.exists_load? (List.forall_mem_map.mpr (es.reloads hvs))
      exact ⟨.array ws, by rw [Value.tree, elementTrees_eq, Tree.load?, hws]; rfl⟩
  | .object ms, _, h => by
    match room with
    | 0 => cases h
    | room + 1 =>
      obtain ⟨d, hd, rfl⟩ := Option.map_eq_some_iff.mp h
      have hentries : ∀ m ∈ d.entries.map fun e => (e.1, e.2.tree),
          ∃ v, m.2.load? room = some v :=
        List.forall_mem_map.mpr (ms.reloads (d := ∅) nofun hd)
      obtain ⟨D, hD⟩ := Members.exists_load? (d := ∅) hentries
      exact ⟨.object D.entries, by rw [Value.tree, memberTrees_eq, Tree.load?, hD]; rfl⟩
  | .broken, _, h => by cases h

theorem Elements.reloads {room : Nat} : (es : Elements) → {vs : List Value} →
    es.load? room = some vs → ∀ v ∈ vs, v.Reloads room
  | .closed, _, h => by
    cases h
    exact nofun
  | .cut, _, h => by cases h
  | .cons t es, _, h => by
    obtain ⟨v, hv, h⟩ := Option.bind_eq_some_iff.mp h
    obtain ⟨vs, hvs, h⟩ := Option.bind_eq_some_iff.mp h
    cases h
    exact List.forall_mem_cons.mpr ⟨t.reloads hv, es.reloads hvs⟩

theorem Members.reloads {room : Nat} : (ms : Members) → {d d' : Dictionary Value} →
    (∀ e ∈ d.entries, e.2.Reloads room) → ms.load? room d = some d' →
      ∀ e ∈ d'.entries, e.2.Reloads room
  | .closed, _, _, hd, h => by
    cases h
    exact hd
  | .cut, _, _, _, h => by cases h
  | .cons key t ms, d, _, hd, h => by
    obtain ⟨key, rfl, h⟩ := Option.bind_eq_some_iff.mp h
    obtain ⟨v, hv, h⟩ := Option.bind_eq_some_iff.mp h
    refine ms.reloads ?_ h
    intro e he
    rcases Dictionary.mem_insertSorted he with rfl | he
    · exact t.reloads hv
    · exact hd e he

end

theorem Value.Reloads.mono {v : Value} {m n : Nat} (h : v.Reloads m) (hmn : m ≤ n) :
    v.Reloads n := by
  induction hmn with
  | refl => exact h
  | step _ ih =>
    obtain ⟨w, hw⟩ := ih
    exact ⟨w, Tree.load?_succ _ hw⟩

end Json

namespace Artifact

open Abi Natspec

variable {source : Source} {room : Nat} {s : Sections} {key : String} {t t' : Tree} {v : Value}

theorem itemsOf_ne_malformed (h : v.Reloads maxNesting) : itemsOf v ≠ .error .malformed := by
  cases v with
  | array vs =>
    obtain ⟨w, hw⟩ := h
    exact ((Items.steady_decoder.loaded hw).map some).ne_malformed
  | _ => exact nofun

theorem compilerItemsOf_ne_malformed (hl : t.load? room = some v) (hr : room ≤ maxNesting) :
    compilerItemsOf v ≠ .error .malformed := by
  rcases Tree.load?_cases hl with ⟨hc, rfl⟩ | ⟨_, _, _, -, -, rfl, -⟩ | ⟨m, ms, d, rfl, -, rfl, hd⟩
  · cases v with
    | object ms => cases hc
    | _ => exact nofun
  · exact nofun
  · rw [compilerItemsOf]
    cases hfind : d.entries.find? (·.1 == "abi") with
    | none => exact nofun
    | some e =>
      have hreloads : ∀ e ∈ d.entries, e.2.Reloads m := ms.reloads (d := ∅) nofun hd
      apply itemsOf_ne_malformed
      exact (hreloads e (List.mem_of_find?_eq_some hfind)).mono (by omega)

theorem stands_readMember (ht : t.Begins t') :
    Stands (readMember .text room s key t) (readMember source room s key t') := by
  unfold readMember
  split
  · exact (steady_loaded.begun ht).bind fun _ => .refl _
  · exact (steady_loaded.begun ht).bind fun _ => .refl _
  · exact ((steady_optional DevDoc.steady_decoder).begun ht).map _
  · exact ((steady_optional UserDoc.steady_decoder).begun ht).map _
  · split
    next hw =>
      rw [ht.eq_of_isWhole t hw, if_pos hw]
      exact .refl _
    · exact .malformed _

theorem agree_readMember (hl : t.load? room = some v) (hr : room ≤ maxNesting) :
    Agree (readMember .text room s key t) (readMember .value room s key t) := by
  unfold readMember
  split
  · simp only [loaded, hl]
    have hv : v.Reloads maxNesting := (t.reloads hl).mono hr
    exact (Agree.refl_of_ne (itemsOf_ne_malformed hv)).bind fun _ => .ok _
  · simp only [loaded, hl]
    exact (Agree.refl_of_ne (compilerItemsOf_ne_malformed hl hr)).bind fun _ => .ok _
  · exact ((steady_optional DevDoc.steady_decoder).loaded hl).map _
  · exact ((steady_optional UserDoc.steady_decoder).loaded hl).map _
  · rw [if_pos (t.isWhole_of_load? hl)]
    exact .ok s

theorem stands_readMembers : (ms : Members) → {ms' : Members} → {s : Sections} → ms.Begins ms' →
    Stands (readMembers .text room s ms) (readMembers source room s ms')
  | .cut, _, _, _ => .malformed _
  | .closed, _, _, .closed => .refl _
  | .cons none _ _, _, _, .cons _ _ _ => .malformed _
  | .cons (some _) _ ms, _, _, .cons _ ht h =>
    (stands_readMember ht).bind fun _ => stands_readMembers ms h

theorem agree_readMembers (hr : room ≤ maxNesting) : (ms : Members) → {D D' : Dictionary Value} →
    {s : Sections} → ms.load? room D = some D' →
      Agree (readMembers .text room s ms) (readMembers .value room s ms)
  | .cut, _, _, _, h => by cases h
  | .closed, _, _, s, _ => .ok s
  | .cons key t ms, _, _, _, h => by
    obtain ⟨key, rfl, h⟩ := Option.bind_eq_some_iff.mp h
    obtain ⟨v, hv, h⟩ := Option.bind_eq_some_iff.mp h
    exact (agree_readMember hv hr).bind fun _ => agree_readMembers hr ms h

theorem stands_decoder (ht : t.Begins t') :
    Stands (decoder .text room t) (decoder source room t') := by
  cases ht with
  | broken => cases room <;> exact .malformed _
  | array hes =>
    rw [decoder, decoder]
    exact ((Items.steady_decoder.begun (.array hes)).bind fun _ => .refl _).map _
  | object hms =>
    cases room with
    | zero => exact .malformed _
    | succ room => exact (stands_readMembers _ hms).map _
  | null => cases room <;> exact .refl _
  | bool b => cases room <;> exact .refl _
  | number n => cases room <;> exact .refl _
  | string s => cases room <;> exact .refl _

theorem agree_decoder (hl : t.load? maxNesting = some v) :
    Agree (decoder .text maxNesting t) (decoder .value maxNesting t) := by
  cases t with
  | array es =>
    rw [decoder, decoder]
    exact ((Items.steady_decoder.loaded hl).bind fun items => .ok (some items)).map _
  | object ms =>
    obtain ⟨D, hD, -⟩ := Option.map_eq_some_iff.mp hl
    exact (agree_readMembers (by decide) ms hD).map _
  | _ => exact (steady_loaded.loaded hl).map fun _ => ({} : Artifact)

end Artifact

end ContractTypings
