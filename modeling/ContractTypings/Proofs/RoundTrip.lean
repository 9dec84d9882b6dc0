import ContractTypings.Generator.Config
import ContractTypings.Natspec
import ContractTypings.Proofs.ItemDecoding
import ContractTypings.Proofs.WrittenValues

namespace ContractTypings

open Json Decoder Abi Natspec

namespace Json.Decoder

theorem readsBack_text (s : String) : ReadsBack (optional string) (.string s) (some s) :=
  (readsBack_string s).optional (by simp [Value.tree])

theorem readsBack_flag (x : Bool) : ReadsBack (optional bool) (.bool x) (some x) :=
  (readsBack_bool x).optional (by simp [Value.tree])

theorem readsBack_texts (D : Dictionary String) :
    ReadsBack (dictionary string) (dictionaryValue .string D) D :=
  ReadsBack.dictionary fun e _ => readsBack_string e.2

def RoundTrips {α : Type} (d : Decoder α) (value : α → Value) : Prop :=
  ∀ a, (value a).nesting ≤ maxNesting → d.run (value a).text = .ok a

theorem roundTrips_of_readsBack {α : Type} {d : Decoder α} {value : α → Value}
    (h : ∀ a, ReadsBack d (value a) a) : RoundTrips d value :=
  fun a hn => (h a).run hn

end Json.Decoder

namespace Abi

theorem componentValues_eq (cs : List Component) : componentValues cs = cs.map Component.value := by
  induction cs with
  | nil => rw [componentValues, List.map_nil]
  | cons c cs ih => rw [componentValues, ih, List.map_cons]

theorem readsBack_list {cs : List Component}
    (h : ∀ c ∈ cs, ReadsBack Component.decoder c.value c) :
    ReadsBack (list Component.decoder) (.array (componentValues cs)) cs := by
  rw [componentValues_eq]
  exact ReadsBack.list h

theorem Component.readsBack_of {c : Component}
    (h : ∀ c' ∈ c.components, ReadsBack decoder c'.value c') : ReadsBack decoder c.value c := by
  obtain ⟨internalType, name, type, components, indexed⟩ := c
  have hw : Writes (slots (list decoder)) { type := "" }
      (member? "internalType" .string internalType ++
        ("name", .string name) :: ("type", .string type) ::
        ("components", .array (componentValues components)) ::
        (member? "indexed" .bool indexed ++ []))
      ⟨internalType, name, type, components, indexed⟩ := by
    apply Writes.member? readsBack_text rfl
    apply Writes.slot (readsBack_string name)
    apply Writes.requiredSlot (readsBack_string type)
    apply Writes.slot (readsBack_list h)
    apply Writes.member? readsBack_flag rfl
    exact Writes.nil
  rw [decoder_eq, value]
  simpa using hw.readsBack (by decide)

mutual

theorem Component.readsBack : (c : Component) → ReadsBack Component.decoder c.value c
  | ⟨_, _, _, components, _⟩ => Component.readsBack_of (readsBack_components components)

theorem readsBack_components : (cs : List Component) →
    ∀ c ∈ cs, ReadsBack Component.decoder c.value c
  | [] => fun _ hc => absurd hc List.not_mem_nil
  | c :: cs => List.forall_mem_cons.mpr ⟨c.readsBack, readsBack_components cs⟩

end

theorem Item.readsBack (i : Item) : ReadsBack Item.decoder i.value i := by
  have hcomponents : ∀ cs, ReadsBack (list Component.decoder) (.array (componentValues cs)) cs :=
    fun cs => readsBack_list (readsBack_components cs)
  rw [Item.value, ← List.append_nil (_ ++ member? "payable" _ _)]
  simp only [List.append_assoc, List.singleton_append]
  apply Writes.readsBack
  · apply Writes.slot (hcomponents i.inputs)
    apply Writes.member? readsBack_text rfl
    apply Writes.slot (readsBack_string i.type)
    apply Writes.member? readsBack_text rfl
    apply Writes.slot (hcomponents i.outputs)
    apply Writes.member? readsBack_flag rfl
    apply Writes.member? readsBack_flag rfl
    apply Writes.member? readsBack_flag rfl
    exact Writes.nil
  · decide

theorem Items.readsBack (items : Items) : ReadsBack Items.decoder (Items.value items) items :=
  ReadsBack.list fun i _ => i.readsBack

end Abi

namespace Natspec

theorem MethodDevDoc.readsBack (d : MethodDevDoc) : ReadsBack MethodDevDoc.decoder d.value d := by
  rw [MethodDevDoc.value]
  simp only [List.append_assoc, List.singleton_append]
  apply Writes.readsBack
  · apply Writes.member? readsBack_text rfl
    apply Writes.slot (readsBack_texts d.params)
    apply Writes.member? readsBack_text rfl
    apply Writes.slot (readsBack_texts d.returns)
    exact Writes.nil
  · decide

theorem DevDoc.readsBack (d : DevDoc) : ReadsBack DevDoc.decoder d.value d := by
  rw [DevDoc.value]
  simp only [List.append_assoc]
  apply Writes.readsBack
  · apply Writes.member? readsBack_text rfl
    apply Writes.member? readsBack_text rfl
    apply Writes.slot (ReadsBack.dictionary fun e _ => e.2.readsBack)
    exact Writes.nil
  · decide

theorem MethodUserDoc.readsBack (d : MethodUserDoc) :
    ReadsBack MethodUserDoc.decoder d.value d := by
  cases d with
  | bare text => exact ⟨Value.isRead_string text, fun source room _ => rfl⟩
  | notice text =>
    cases text with
    | none =>
      refine ⟨Value.isRead_object (by simp [Value.isRead_null]), fun source room hn => ?_⟩
      obtain ⟨r, rfl, -⟩ := Value.exists_room_of_object hn
      rfl
    | some text =>
      refine ⟨Value.isRead_object (by simp [Value.isRead_string]), fun source room hn => ?_⟩
      obtain ⟨r, rfl, -⟩ := Value.exists_room_of_object hn
      rfl

theorem UserDoc.readsBack (d : UserDoc) : ReadsBack UserDoc.decoder d.value d := by
  rw [UserDoc.value]
  apply Writes.readsBack
  · apply Writes.member? readsBack_text rfl
    apply Writes.slot (ReadsBack.dictionary fun e _ => e.2.readsBack)
    exact Writes.nil
  · decide

end Natspec

namespace Config

theorem readsBack_path (p : Path) : ReadsBack pathDecoder (pathValue p) p where
  isRead := Value.isRead_string p.text
  read source room _ := by
    rw [pathValue, Value.tree]
    rfl

theorem readsBack (c : Config) : ReadsBack decoder c.value c := by
  have hpath : ∀ p, ReadsBack (optional pathDecoder) (pathValue p) (some p) :=
    fun p => (readsBack_path p).optional (by simp [pathValue, Value.tree])
  rw [Config.value]
  simp only [List.append_assoc, List.singleton_append]
  apply Writes.readsBack
  · apply Writes.slot (readsBack_path c.cwd)
    apply Writes.member? hpath rfl
    apply Writes.member? hpath rfl
    apply Writes.slot (ReadsBack.list fun p _ => readsBack_path p)
    apply Writes.slot (readsBack_bool c.prettier)
    exact Writes.nil
  · decide

end Config

/-- Decoding undoes encoding for everything that is written as JSON. -/
theorem roundTrips : RoundTrips Items.decoder Items.value ∧ RoundTrips Item.decoder Item.value ∧
    RoundTrips Component.decoder Component.value ∧ RoundTrips DevDoc.decoder DevDoc.value ∧
    RoundTrips MethodDevDoc.decoder MethodDevDoc.value ∧
    RoundTrips UserDoc.decoder UserDoc.value ∧
    RoundTrips MethodUserDoc.decoder MethodUserDoc.value ∧
    RoundTrips Config.decoder Config.value :=
  ⟨roundTrips_of_readsBack Items.readsBack, roundTrips_of_readsBack Item.readsBack,
    roundTrips_of_readsBack Component.readsBack, roundTrips_of_readsBack DevDoc.readsBack,
    roundTrips_of_readsBack MethodDevDoc.readsBack, roundTrips_of_readsBack UserDoc.readsBack,
    roundTrips_of_readsBack MethodUserDoc.readsBack, roundTrips_of_readsBack Config.readsBack⟩

theorem roundTrips_tuple :
    let flag : Component := { internalType := some "", type := "bool" }
    let c : Component :=
      { name := "\"\\\x08\x1f\n\u20ac", type := "tuple", components := [flag], indexed := some true }
    let i : Item := { inputs := [c], type := "event", anonymous := some false }
    Items.decoder.run (Items.value [i]).text = .ok [i] ∧
      MethodUserDoc.decoder.run (MethodUserDoc.value (.notice none)).text = .ok (.notice none) := by
  intro flag c i
  obtain ⟨hitems, -, -, -, -, -, huser, -⟩ := roundTrips
  exact ⟨hitems [i] (by decide), huser (.notice none) (by decide)⟩

end ContractTypings
