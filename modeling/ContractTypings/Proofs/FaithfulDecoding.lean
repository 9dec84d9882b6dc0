import ContractTypings.Proofs.RecordDecoding

/-!
Decoders that read the same from a text as from the value that the text was loaded as. Where the
value is read, the text may still be refused, but only for a known key that it repeats or for lack
of room.
-/

namespace ContractTypings.Json

def Tree.isContainer : Tree → Bool
  | .array _ | .object _ => true
  | _ => false

theorem Tree.load?_cases {n : Nat} {t : Tree} {v : Value} (h : t.load? n = some v) :
    (t.isContainer = false ∧ v.tree = t) ∨
      (∃ m es vs, n = m + 1 ∧ t = .array es ∧ v = .array vs ∧ es.load? m = some vs) ∨
      ∃ m ms d, n = m + 1 ∧ t = .object ms ∧ v = .object d.entries ∧ ms.load? m ∅ = some d := by
  cases t with
  | null => exact Or.inl ⟨rfl, by cases h; rfl⟩
  | bool b => exact Or.inl ⟨rfl, by cases h; rfl⟩
  | number x =>
    obtain ⟨x, rfl, rfl⟩ := Option.map_eq_some_iff.mp h
    exact Or.inl ⟨rfl, rfl⟩
  | string s =>
    obtain ⟨s, rfl, rfl⟩ := Option.map_eq_some_iff.mp h
    exact Or.inl ⟨rfl, rfl⟩
  | array es =>
    cases n with
    | zero => cases h
    | succ m =>
      obtain ⟨vs, hvs, rfl⟩ := Option.map_eq_some_iff.mp h
      exact Or.inr (Or.inl ⟨m, es, vs, rfl, rfl, rfl, hvs⟩)
  | object ms =>
    cases n with
    | zero => cases h
    | succ m =>
      obtain ⟨d, hd, rfl⟩ := Option.map_eq_some_iff.mp h
      exact Or.inr (Or.inr ⟨m, ms, d, rfl, rfl, rfl, hd⟩)
  | broken => cases h

namespace Decoder

variable {α β : Type}

theorem map_eq_ok_iff {x : Except Fault α} {f : α → β} {b : β} :
    x.map f = .ok b ↔ ∃ a, x = .ok a ∧ f a = b := by
  cases x with
  | error e =>
    constructor
    · exact nofun
    · rintro ⟨_, h, -⟩
      cases h
  | ok a =>
    constructor
    · exact fun h => ⟨a, rfl, Except.ok.inj h⟩
    · rintro ⟨_, h, rfl⟩
      cases h
      rfl

def CanRead (d : Decoder α) (n room : Nat) (t : Tree) : Prop :=
  (∃ a, d .text room t = .ok a) ∨ n ≤ room ∧ t.hasDistinctKeys = true

/-- What is read from a value in memory is read from the text that it was loaded from, if anything
can be. -/
def Faithful (d : Decoder α) : Prop :=
  ∀ ⦃n room room' t v a⦄, t.load? n = some v → d .value room' v.tree = .ok a →
    CanRead d n room t → d .text room t = .ok a

theorem faithful_of_scalar {d : Decoder α} (h : ∀ room room' t, d .value room t = d .text room' t)
    (ha : ∀ room es a, d .value room (.array es) ≠ .ok a)
    (ho : ∀ room ms a, d .value room (.object ms) ≠ .ok a) : Faithful d := by
  intro n room room' t v a hl hv _
  rcases Tree.load?_cases hl with ⟨-, ht⟩ | ⟨_, _, _, -, -, rfl, -⟩ | ⟨_, _, _, -, -, rfl, -⟩
  · rw [← h room' room, ← ht]
    exact hv
  · exact absurd hv (ha _ _ _)
  · exact absurd hv (ho _ _ _)

theorem faithful_string : Faithful string := by
  apply faithful_of_scalar
  · intro room room' t
    cases t with
    | string s => cases s <;> rfl
    | _ => rfl
  · exact fun _ _ _ => nofun
  · exact fun _ _ _ => nofun

theorem faithful_bool : Faithful bool := by
  apply faithful_of_scalar
  · intro room room' t
    cases t <;> rfl
  · exact fun _ _ _ => nofun
  · exact fun _ _ _ => nofun

theorem optional_of_ne_null {d : Decoder α} {source : Source} {room : Nat} {t : Tree}
    (h : t ≠ .null) : optional d source room t = (d source room t).map some := by
  cases t with
  | null => exact absurd rfl h
  | _ => rfl

theorem faithful_map {d : Decoder α} (h : Faithful d) (f : α → β) :
    Faithful fun source room t => (d source room t).map f := by
  intro n room room' t v b hl hv hr
  obtain ⟨a, ha, rfl⟩ := map_eq_ok_iff.mp hv
  have hread : CanRead d n room t := by
    refine hr.imp_left ?_
    rintro ⟨b, hb⟩
    obtain ⟨a', ha', -⟩ := map_eq_ok_iff.mp hb
    exact ⟨a', ha'⟩
  exact map_eq_ok_iff.mpr ⟨a, h hl ha hread, rfl⟩

theorem faithful_optional {d : Decoder α} (h : Faithful d) : Faithful (optional d) := by
  intro n room room' t v a hl hv hr
  by_cases ht : t = .null
  · subst ht
    cases hl
    exact hv
  have hvt : v.tree ≠ .null := by
    rcases Tree.load?_cases hl with ⟨-, hvt⟩ | ⟨_, _, _, -, -, rfl, -⟩ | ⟨_, _, _, -, -, rfl, -⟩
    · rw [hvt]
      exact ht
    · exact nofun
    · exact nofun
  rw [CanRead, optional_of_ne_null ht] at hr
  rw [optional_of_ne_null hvt] at hv
  rw [optional_of_ne_null ht]
  exact faithful_map h some hl hv hr

def Slot.Faithful (s : Slot α) : Prop :=
  ∀ a, Decoder.Faithful fun source room t => s.store source room t a

theorem faithful_slot {d : Decoder β} (h : Decoder.Faithful d) (key : String) (put : β → α → α) :
    (slot key d put).Faithful :=
  fun a => faithful_map h fun b => put b a

section

variable {n room room' : Nat} {loaded : List LoadedElement}
  (hl : ∀ e ∈ loaded, e.tree.load? n = some e.value)

include hl

theorem elements_of_value {d : Decoder α} (h : Faithful d) {as : List α}
    (hv : elements (d .value room') (.ofList (loaded.map (·.value.tree))) = .ok as)
    (hr : (∃ bs, elements (d .text room) (.ofList (loaded.map (·.tree))) = .ok bs) ∨
      n ≤ room ∧ ∀ e ∈ loaded, e.tree.hasDistinctKeys = true) :
    elements (d .text room) (.ofList (loaded.map (·.tree))) = .ok as := by
  induction loaded generalizing as with
  | nil => exact hv
  | cons e loaded ih =>
    obtain ⟨he, hl⟩ := List.forall_mem_cons.mp hl
    obtain ⟨a, ha, hv⟩ := bind_eq_ok_iff.mp hv
    obtain ⟨as', has, hv⟩ := bind_eq_ok_iff.mp hv
    have hread : CanRead d n room e.tree :=
      hr.imp exists_ok_of_bind (And.imp_right fun hk => hk e List.mem_cons_self)
    have htext : d .text room e.tree = .ok a := h he ha hread
    have hrest : (∃ bs, elements (d .text room) (.ofList (loaded.map (·.tree))) = .ok bs) ∨
        n ≤ room ∧ ∀ e ∈ loaded, e.tree.hasDistinctKeys = true := by
      refine hr.imp ?_ (And.imp_right fun hk => (List.forall_mem_cons.mp hk).2)
      intro hbs
      have hbind := exists_ok_of_bind_ok htext hbs
      exact exists_ok_of_bind hbind
    exact bind_eq_ok_iff.mpr ⟨a, htext, bind_eq_ok_iff.mpr ⟨as', ih hl has hrest, hv⟩⟩

theorem positions_of_value {slots : List (Slot α)} (hs : ∀ s ∈ slots, s.Faithful) {name : String}
    {size size' count position : Nat} {a b : α}
    (hv : positions name size' count .value room' position slots a
      (.ofList (loaded.map (·.value.tree))) = .ok b)
    (hr : (∃ c, positions name size count .text room position slots a
      (.ofList (loaded.map (·.tree))) = .ok c) ∨
      n ≤ room ∧ ∀ e ∈ loaded, e.tree.hasDistinctKeys = true) :
    positions name size count .text room position slots a (.ofList (loaded.map (·.tree))) =
      .ok b := by
  induction loaded generalizing slots a position with
  | nil => simpa only [List.map_nil, Elements.ofList, positions] using hv
  | cons e loaded ih =>
    obtain ⟨he, hl⟩ := List.forall_mem_cons.mp hl
    cases slots with
    | nil => cases hv
    | cons s slots =>
      obtain ⟨hs, hslots⟩ := List.forall_mem_cons.mp hs
      obtain ⟨a', ha, hv⟩ := bind_eq_ok_iff.mp hv
      have hread : CanRead (fun source room t => s.store source room t a) n room e.tree :=
        hr.imp exists_ok_of_bind (And.imp_right fun hk => hk e List.mem_cons_self)
      have htext : s.store .text room e.tree a = .ok a' := hs a he ha hread
      have hrest : (∃ c, positions name size count .text room (position + 1) slots a'
          (.ofList (loaded.map (·.tree))) = .ok c) ∨
          n ≤ room ∧ ∀ e ∈ loaded, e.tree.hasDistinctKeys = true := by
        refine hr.imp ?_ (And.imp_right fun hk => (List.forall_mem_cons.mp hk).2)
        exact exists_ok_of_bind_ok htext
      exact bind_eq_ok_iff.mpr ⟨a', htext, ih hl hslots hv hrest⟩

end

theorem storeAll_of_value {slots : List (Slot α)} (hs : ∀ s ∈ slots, s.Faithful)
    {n room room' : Nat} {loaded : List LoadedMember}
    (hl : ∀ m ∈ loaded, m.tree.load? n = some m.value) {a b : α}
    (hv : storeAll slots .value room' (loaded.map fun m => (m.key, m.value.tree)) a = .ok b)
    (hr : (∃ c, storeAll slots .text room (loaded.map fun m => (m.key, m.tree)) a = .ok c) ∨
      n ≤ room ∧ ∀ m ∈ loaded, m.tree.hasDistinctKeys = true) :
    storeAll slots .text room (loaded.map fun m => (m.key, m.tree)) a = .ok b := by
  induction loaded generalizing a with
  | nil => exact hv
  | cons m loaded ih =>
    obtain ⟨hm, hl⟩ := List.forall_mem_cons.mp hl
    rw [List.map_cons, storeAll] at hv hr ⊢
    cases hf : slots.find? (·.key == m.key) with
    | none =>
      simp only [hf] at hv hr ⊢
      exact ih hl hv (hr.imp_right (And.imp_right fun hk => (List.forall_mem_cons.mp hk).2))
    | some s =>
      simp only [hf] at hv hr ⊢
      obtain ⟨a', ha, hv⟩ := bind_eq_ok_iff.mp hv
      have hread : CanRead (fun source room t => s.store source room t a) n room m.tree :=
        hr.imp exists_ok_of_bind (And.imp_right fun hk => hk m List.mem_cons_self)
      have htext : s.store .text room m.tree a = .ok a' :=
        hs s (List.mem_of_find?_eq_some hf) a hm ha hread
      -- the text goes on with the same record, so the induction hypothesis applies
      refine bind_eq_ok_iff.mpr ⟨a', htext, ih hl hv ?_⟩
      exact hr.imp (exists_ok_of_bind_ok htext)
        (And.imp_right fun hk => (List.forall_mem_cons.mp hk).2)

theorem list_of_not_container {d : Decoder α} {source : Source} {room : Nat} {t : Tree}
    (h : t.isContainer = false) : list d source room t = .error (t.wrongType .sequence) := by
  cases t
  case array es => cases h
  case object ms => cases h
  all_goals cases room <;> rfl

theorem record_of_not_container {name : String} {initial : α} {slots : List (Slot α)}
    {source : Source} {room : Nat} {t : Tree} (h : t.isContainer = false) :
    record name initial slots source room t = .error (t.wrongType (.record name)) := by
  cases t
  case array es => cases h
  case object ms => cases h
  all_goals cases room <;> rfl

theorem CanRead.exists_room {d : Decoder α} {n room : Nat} {t : Tree} (h : CanRead d (n + 1) room t)
    (h0 : ∀ a, d .text 0 t ≠ .ok a) : ∃ r, room = r + 1 := by
  cases room with
  | zero =>
    rcases h with ⟨a, ha⟩ | ⟨hn, -⟩
    · exact absurd ha (h0 a)
    · cases hn
  | succ r => exact ⟨r, rfl⟩

theorem faithful_list {d : Decoder α} (h : Faithful d) : Faithful (list d) := by
  intro n room room' t v as hl hv hr
  rcases Tree.load?_cases hl with
    ⟨ht, hvt⟩ | ⟨m, es, vs, rfl, rfl, rfl, hes⟩ | ⟨_, _, _, -, -, rfl, -⟩
  · rw [hvt, list_of_not_container ht] at hv
    cases hv
  · obtain ⟨loaded, rfl, rfl, hloaded⟩ := es.load?_eq_some hes
    obtain ⟨r, rfl⟩ := hr.exists_room fun _ => nofun
    cases room' with
    | zero => cases hv
    | succ r' =>
      change elements (d .value r') (elementTrees _) = .ok as at hv
      rw [elementTrees_eq, List.map_map] at hv
      refine elements_of_value hloaded h hv (hr.imp_right ?_)
      rw [Tree.hasDistinctKeys, haveDistinctKeys_elements, List.all_map, List.all_eq_true]
      exact And.imp_left Nat.le_of_succ_le_succ
  · cases room' <;> cases hv

theorem known_perm {slots : List (Slot α)} {loaded : List LoadedMember} {d : Dictionary Value}
    (hd : d = (loaded.map fun m => (m.key, m.value)).foldl (fun d m => d.insert m.1 m.2) ∅)
    (hn : ((loaded.map (·.key)).filter (isKnown slots)).Nodup) :
    ((d.entries.map fun e => (e.1, e.2.tree)).filter fun m => isKnown slots m.1).Perm
      ((loaded.map fun m => (m.key, m.value.tree)).filter fun m => isKnown slots m.1) := by
  have hmembers : (((loaded.map fun m => (m.key, m.value)).filter fun e => isKnown slots e.1).map
      Prod.fst).Nodup := by
    simpa only [List.filter_map, List.map_map, Function.comp_def] using hn
  have hentries := Dictionary.filter_foldl_insert_perm (d := ∅) hmembers
    fun _ _ _ _ he => absurd he List.not_mem_nil
  have hempty : (∅ : Dictionary Value).entries = [] := rfl
  rw [← hd, hempty, List.filter_nil, List.append_nil] at hentries
  have htrees := hentries.map fun e => (e.1, e.2.tree)
  simpa only [List.filter_map, List.map_map, Function.comp_def] using htrees

section

variable {slots : List (Slot α)} (hs : ∀ s ∈ slots, s.Faithful)
  (hc : slots.Pairwise Slot.Commute)

include hs hc

theorem fields_of_value {n room room' : Nat} {loaded : List LoadedMember}
    (hl : ∀ m ∈ loaded, m.tree.load? n = some m.value) {d : Dictionary Value}
    (hd : d = (loaded.map fun m => (m.key, m.value)).foldl (fun d m => d.insert m.1 m.2) ∅)
    {a b : α}
    (hv : fields slots .value room' [] a (.ofList (d.entries.map fun e => (e.1, e.2.tree))) = .ok b)
    (hr : (∃ c, fields slots .text room [] a
        (.ofList (loaded.map fun m => (m.key, m.tree))) = .ok c) ∨
      n ≤ room ∧ (loaded.map (·.key)).Nodup ∧ ∀ m ∈ loaded, m.tree.hasDistinctKeys = true) :
    fields slots .text room [] a (.ofList (loaded.map fun m => (m.key, m.tree))) = .ok b := by
  obtain ⟨hfits, hstore⟩ := fields_ofList_eq_ok_iff.mp hv
  have hknown : (knownKeys slots (loaded.map fun m => (m.key, m.tree))).Nodup := by
    rcases hr with ⟨c, hc⟩ | ⟨-, hn, -⟩
    · exact (fields_ofList_eq_ok_iff.mp hc).1.nodup
    · rw [knownKeys_eq, List.map_map]
      exact hn.filter _
  have hkeep : ((loaded.map (·.key)).filter (isKnown slots)).Nodup := by
    simpa only [knownKeys_eq, List.map_map, Function.comp_def] using hknown
  have hperm := known_perm hd hkeep
  have hkeys : (knownKeys slots (d.entries.map fun e => (e.1, e.2.tree))).Perm
      (knownKeys slots (loaded.map fun m => (m.key, m.tree))) := by
    have hmap := hperm.map Prod.fst
    rw [← knownKeys, ← knownKeys, knownKeys_eq (loaded.map _), List.map_map] at hmap
    rw [knownKeys_eq (loaded.map _), List.map_map]
    exact hmap
  have htext : Fits slots [] (loaded.map fun m => (m.key, m.tree)) := by
    refine ⟨?_, hknown, fun _ _ => List.not_mem_nil, ?_⟩
    · intro m hm _
      obtain ⟨l, hlm, rfl⟩ := List.mem_map.mp hm
      exact l.tree.isWhole_of_load? (hl l hlm)
    · intro s hs hreq
      exact (hfits.complete s hs hreq).imp_right hkeys.mem_iff.mp
  -- in memory the members are sorted by their keys; they are stored as well in the text's order
  have hvalue : storeAll slots .value room' (loaded.map fun m => (m.key, m.value.tree)) a =
      .ok b := by
    rw [← storeAll_filter] at hstore ⊢
    exact storeAll_perm hc hperm hfits.nodup hstore
  refine fields_ofList_eq_ok_iff.mpr ⟨htext, storeAll_of_value hs hl hvalue ?_⟩
  refine hr.imp ?_ (And.imp_right And.right)
  rintro ⟨c, hc⟩
  exact ⟨c, (fields_ofList_eq_ok_iff.mp hc).2⟩

theorem faithful_record {name : String} {initial : α} : Faithful (record name initial slots) := by
  intro n room room' t v a hl hv hr
  rcases Tree.load?_cases hl with
    ⟨ht, hvt⟩ | ⟨m, es, vs, rfl, rfl, rfl, hes⟩ | ⟨m, ms, d, rfl, rfl, rfl, hms⟩
  · rw [hvt, record_of_not_container ht] at hv
    cases hv
  · obtain ⟨loaded, rfl, rfl, hloaded⟩ := es.load?_eq_some hes
    obtain ⟨r, rfl⟩ := hr.exists_room fun _ => nofun
    cases room' with
    | zero => cases hv
    | succ r' =>
      change positions name _ slots.length .value r' 0 slots initial (elementTrees _) = .ok a at hv
      rw [elementTrees_eq, List.map_map] at hv
      refine positions_of_value hloaded hs hv (hr.imp_right ?_)
      rw [Tree.hasDistinctKeys, haveDistinctKeys_elements, List.all_map, List.all_eq_true]
      exact And.imp_left Nat.le_of_succ_le_succ
  · obtain ⟨loaded, rfl, hd, hloaded⟩ := ms.load?_eq_some hms
    obtain ⟨r, rfl⟩ := hr.exists_room fun _ => nofun
    cases room' with
    | zero => cases hv
    | succ r' =>
      change fields slots .value r' [] initial (memberTrees _) = .ok a at hv
      rw [memberTrees_eq] at hv
      refine fields_of_value hs hc hloaded hd hv (hr.imp_right ?_)
      rw [Tree.hasDistinctKeys, keys_ofList, haveDistinctKeys_members, List.map_map, List.all_map,
        Bool.and_eq_true, decide_eq_true_eq, List.all_eq_true]
      exact And.imp_left Nat.le_of_succ_le_succ

end

end Decoder

end ContractTypings.Json
