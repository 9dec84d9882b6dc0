import ContractTypings.Abi.Json
import ContractTypings.Proofs.FaithfulDecoding

namespace ContractTypings

open Json Decoder

namespace Json.Decoder

variable {α : Type} {slots slots' : List (Slot α)} {source : Source} {room : Nat}

def Slot.fix (source : Source) (room : Nat) (s : Slot α) : Slot α :=
  { s with store := fun _ _ => s.store source room }

theorem unfilled?_fix (seen : List String) :
    unfilled? (slots.map (Slot.fix source room)) seen = unfilled? slots seen := by
  simp only [unfilled?, List.find?_map, Option.map_map]
  rfl

theorem fields_fix {seen : List String} {a : α} : (ms : Members) →
    fields (slots.map (Slot.fix source room)) source room seen a ms =
      fields slots source room seen a ms
  | .closed => by rw [fields, fields, unfilled?_fix]
  | .cut => rfl
  | .cons none _ _ => rfl
  | .cons (some key) t rest => by
    have hfind : (slots.map (Slot.fix source room)).find? (·.key == key) =
        (slots.find? (·.key == key)).map (Slot.fix source room) :=
      List.find?_map
    rw [fields, fields, hfind]
    cases slots.find? (·.key == key) with
    | none => simp only [Option.map_none, fields_fix rest]
    | some s => simp only [Option.map_some, fields_fix rest, Slot.fix]

theorem positions_fix {name : String} {size count position : Nat} {slots : List (Slot α)} {a : α} :
    (es : Elements) →
    positions name size count source room position (slots.map (Slot.fix source room)) a es =
      positions name size count source room position slots a es := by
  intro es
  cases es with
  | closed =>
    rw [positions, positions, requiredAt?, requiredAt?, List.findIdx?_map]
    rfl
  | cut => rw [positions, positions]
  | cons t rest =>
    cases slots with
    | nil => rfl
    | cons s slots =>
      rw [List.map_cons, positions, positions]
      simp only [positions_fix rest, Slot.fix]

theorem record_congr {name : String} {initial : α}
    (h : slots.map (Slot.fix source room) = slots'.map (Slot.fix source room)) (t : Tree) :
    record name initial slots source (room + 1) t =
      record name initial slots' source (room + 1) t := by
  have hlength : slots.length = slots'.length := by simpa using congrArg List.length h
  cases t with
  | array es =>
    change positions name es.size slots.length source room 0 slots initial es =
      positions name es.size slots'.length source room 0 slots' initial es
    rw [← positions_fix, h, positions_fix, hlength]
  | object ms =>
    change fields slots source room [] initial ms = fields slots' source room [] initial ms
    rw [← fields_fix, h, fields_fix]
  | _ => rfl

theorem record_zero {name : String} {initial : α} (t : Tree) :
    record name initial slots source 0 t = record name initial slots' source 0 t := by
  cases t <;> rfl

theorem list_congr {d d' : Decoder α} (h : ∀ r t, r < room → d source r t = d' source r t)
    (t : Tree) : list d source room t = list d' source room t := by
  cases room with
  | zero => cases t <;> rfl
  | succ r =>
    have hr : d source r = d' source r := funext fun t => h r t (Nat.lt_succ_self r)
    cases t with
    | array es =>
      change elements (d source r) es = elements (d' source r) es
      rw [hr]
    | _ => rfl

theorem faithful_requiredSlot {β : Type} {d : Decoder β} (h : Faithful d) (key : String)
    (put : β → α → α) : (requiredSlot key d put).Faithful :=
  faithful_slot h key put

theorem requiredSlot_commute {β : Type} {d : Decoder β} {key : String} {put : β → α → α}
    {s : Slot α} : (requiredSlot key d put).Commute s ↔ (slot key d put).Commute s :=
  Iff.rfl

theorem commute_requiredSlot {β : Type} {d : Decoder β} {key : String} {put : β → α → α}
    {s : Slot α} : s.Commute (requiredSlot key d put) ↔ s.Commute (slot key d put) :=
  Iff.rfl

end Json.Decoder

namespace Abi

namespace Component

theorem slots_fix {nested nested' : Decoder (List Component)} {source : Source} {room : Nat}
    (h : ∀ t, nested source room t = nested' source room t) :
    (slots nested).map (Slot.fix source room) = (slots nested').map (Slot.fix source room) := by
  simp [slots, Slot.fix, slot, h]

theorem decoderTo_eq {m n : Nat} {source : Source} {room : Nat} (hm : room ≤ m) (hn : room ≤ n)
    (t : Tree) : decoderTo m source room t = decoderTo n source room t := by
  induction m generalizing n room t with
  | zero =>
    obtain rfl : room = 0 := Nat.le_zero.mp hm
    cases n with
    | zero => rfl
    | succ n => exact record_zero t
  | succ m ih =>
    cases room with
    | zero =>
      cases n with
      | zero => exact record_zero t
      | succ n => exact record_zero t
    | succ room =>
      cases n with
      | zero => cases hn
      | succ n =>
        apply record_congr
        apply slots_fix
        apply list_congr
        intro r t hr
        exact ih (by omega) (by omega) t

theorem decoder_eq : decoder = record "Component" { type := "" } (slots (list decoder)) := by
  funext source room t
  cases room with
  | zero => exact record_zero t
  | succ room =>
    apply record_congr
    apply slots_fix
    apply list_congr
    intro r t hr
    exact decoderTo_eq (Nat.le_of_lt hr) (Nat.le_refl r) t

theorem faithful_slots {nested : Decoder (List Component)} (h : Faithful nested) :
    ∀ s ∈ slots nested, s.Faithful := by
  simp only [slots, List.forall_mem_cons]
  exact ⟨faithful_slot (faithful_optional faithful_string) _ _, faithful_slot faithful_string _ _,
    faithful_requiredSlot faithful_string _ _, faithful_slot h _ _,
    faithful_slot (faithful_optional faithful_bool) _ _, by simp⟩

theorem commute_slots (nested : Decoder (List Component)) :
    (slots nested).Pairwise Slot.Commute := by
  simp [slots, commute_slot, commute_requiredSlot, requiredSlot_commute]

theorem faithful_decoderTo (depth : Nat) : Faithful (decoderTo depth) := by
  induction depth with
  | zero => exact faithful_record (by simp) .nil
  | succ depth ih => exact faithful_record (faithful_slots (faithful_list ih)) (commute_slots _)

theorem faithful_decoder : Faithful decoder := by
  intro n room room' t v c hl hv hr
  have htext : decoder .text room t = decoderTo (max room room') .text room t :=
    decoderTo_eq (Nat.le_refl room) (Nat.le_max_left room room') t
  have hvalue : decoder .value room' v.tree = decoderTo (max room room') .value room' v.tree :=
    decoderTo_eq (Nat.le_refl room') (Nat.le_max_right room room') v.tree
  rw [hvalue] at hv
  rw [CanRead, htext] at hr
  rw [htext]
  exact faithful_decoderTo _ hl hv hr

end Component

theorem Item.faithful_decoder : Faithful Item.decoder := by
  have hcomponents : Faithful (list Component.decoder) := faithful_list Component.faithful_decoder
  have hstring : Faithful (optional string) := faithful_optional faithful_string
  have hbool : Faithful (optional bool) := faithful_optional faithful_bool
  apply faithful_record
  · simp only [List.forall_mem_cons]
    exact ⟨faithful_slot hcomponents _ _, faithful_slot hstring _ _,
      faithful_slot faithful_string _ _, faithful_slot hstring _ _, faithful_slot hcomponents _ _,
      faithful_slot hbool _ _, faithful_slot hbool _ _, faithful_slot hbool _ _, by simp⟩
  · simp [commute_slot]

theorem Items.faithful_decoder : Faithful Items.decoder := faithful_list Item.faithful_decoder

end Abi

end ContractTypings
