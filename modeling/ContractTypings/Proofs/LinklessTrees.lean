import ContractTypings.Proofs.Walk

namespace ContractTypings

open ContractTypings.Path

def Path.Component.goFrom (place : Place) : Component → Place
  | .root => []
  | .here => place
  | .up => place.dropLast
  | .name s => place ++ [s]

def Path.placeFrom (p : Path) (cwd : Place) : Place := p.components.foldl Component.goFrom cwd

namespace FileTree

def IsLinkless (t : FileTree) : Prop := ∀ place target, t.get? place ≠ some (.link target)

theorem isLinkless_of_entries {t : FileTree} (h : ∀ e ∈ t.entries, ∀ target, e.2 ≠ .link target) :
    t.IsLinkless := by
  intro place target hp
  rw [get?] at hp
  split at hp
  · cases hp
  · obtain ⟨e, he, hlink⟩ := Option.map_eq_some_iff.mp hp
    exact h e (List.mem_of_find?_eq_some he) target hlink

/-- Segments lead from a place to another if there is a directory wherever a step is taken from. At
the end there may be anything, or nothing. -/
inductive Leads (t : FileTree) : Place → List (List Char) → Place → Prop
  | nil (place : Place) : Leads t place [] place
  | idle {place q : Place} {segment : List Char} {rest : List (List Char)}
      (hd : t.get? place = some .directory) (hi : isIdle segment = true)
      (h : Leads t place rest q) : Leads t place (segment :: rest) q
  | up {place q : Place} {rest : List (List Char)} (hd : t.get? place = some .directory)
      (h : Leads t place.dropLast rest q) : Leads t place (['.', '.'] :: rest) q
  | name {place q : Place} {segment : List Char} {rest : List (List Char)}
      (hd : t.get? place = some .directory) (hi : isIdle segment = false)
      (hu : segment ≠ ['.', '.']) (hl : (String.ofList segment).utf8ByteSize ≤ maxName)
      (h : Leads t (place ++ [String.ofList segment]) rest q) : Leads t place (segment :: rest) q

variable {t t' : FileTree} {follow : Bool} {links : ℕ} {place q r : Place} {e : Entry}
  {segment : List Char} {ss rest : List (List Char)} {p : Path}

namespace Leads

theorem directory (h : t.Leads place (segment :: rest) q) : t.get? place = some .directory := by
  cases h with
  | idle hd _ _ => exact hd
  | up hd _ => exact hd
  | name hd _ _ _ _ => exact hd

theorem append (h : t.Leads place ss q) (h' : t.Leads q rest r) :
    t.Leads place (ss ++ rest) r := by
  induction h with
  | nil place => exact h'
  | idle hd hi _ ih => exact .idle hd hi (ih h')
  | up hd _ ih => exact .up hd (ih h')
  | name hd hi hu hl _ ih => exact .name hd hi hu hl (ih h')

theorem of_append (h : t.Leads place (ss ++ rest) r) :
    ∃ q, t.Leads place ss q ∧ t.Leads q rest r := by
  induction ss generalizing place with
  | nil => exact ⟨place, .nil place, h⟩
  | cons segment ss ih =>
    cases h with
    | idle hd hi h =>
      obtain ⟨q, hq, hr⟩ := ih h
      exact ⟨q, .idle hd hi hq, hr⟩
    | up hd h =>
      obtain ⟨q, hq, hr⟩ := ih h
      exact ⟨q, .up hd hq, hr⟩
    | name hd hi hu hl h =>
      obtain ⟨q, hq, hr⟩ := ih h
      exact ⟨q, .name hd hi hu hl hq, hr⟩

theorem mono (h : t.Leads place ss q)
    (hd : ∀ place, t.get? place = some .directory → t'.get? place = some .directory) :
    t'.Leads place ss q := by
  induction h with
  | nil place => exact .nil place
  | idle hp hi _ ih => exact .idle (hd _ hp) hi ih
  | up hp _ ih => exact .up (hd _ hp) ih
  | name hp hi hu hl _ ih => exact .name (hd _ hp) hi hu hl ih

theorem slashes (hd : t.get? place = some .directory) (h : ∀ s ∈ ss, s = []) :
    t.Leads place ss place := by
  induction ss with
  | nil => exact .nil place
  | cons s ss ih =>
    obtain ⟨rfl, hs⟩ := List.forall_mem_cons.mp h
    exact .idle hd rfl (ih hs)

theorem of_absent (hn : t.get? place = none) (h : t.Leads place ss q) : ss = [] ∧ q = place := by
  cases ss with
  | nil =>
    cases h
    exact ⟨rfl, rfl⟩
  | cons segment rest =>
    have hd := h.directory
    rw [hn] at hd
    cases hd

theorem of_name (hi : isIdle segment = false) (hu : segment ≠ ['.', '.'])
    (h : t.Leads place (segment :: rest) q) :
    (String.ofList segment).utf8ByteSize ≤ maxName ∧
      t.Leads (place ++ [String.ofList segment]) rest q := by
  cases h with
  | idle _ hn _ =>
    rw [hi] at hn
    cases hn
  | up _ _ => exact absurd rfl hu
  | name _ _ _ hl h => exact ⟨hl, h⟩

theorem eq_foldl (h : t.Leads place ss q) :
    q = (parts ss).foldl Component.goFrom place := by
  induction h with
  | nil place => rfl
  | idle _ hi _ ih =>
    rw [parts, List.filterMap_cons_none (component?_eq_none_iff.mpr hi)]
    exact ih
  | up _ _ ih =>
    have hc : component? ['.', '.'] = some .up := rfl
    rw [parts, List.filterMap_cons_some hc, List.foldl_cons]
    exact ih
  | @name _ _ segment _ _ hi hu _ _ ih =>
    have hc : component? segment = some (.name (String.ofList segment)) := by
      simp [component?, hi, hu]
    rw [parts, List.filterMap_cons_some hc, List.foldl_cons]
    exact ih

theorem eq_placeFrom (h : t.Leads (t.start p) (segments p.text) q) : q = p.placeFrom t.cwd := by
  have hstart : p.lead.foldl Component.goFrom t.cwd = t.start p := by
    unfold lead start
    split_ifs <;> rfl
  rw [h.eq_foldl, placeFrom, components, List.foldl_append, hstart, parts]

end Leads

theorem walk_cons_of_ne (hd : t.get? place ≠ some .directory) :
    t.walk follow links place (segment :: rest) = .error .notADirectory := by
  have hany : (t.get? place).any Entry.isDirectory = false := by
    cases he : t.get? place with
    | none => rfl
    | some e =>
      cases e with
      | directory => exact absurd he hd
      | _ => rfl
  rw [walk, hany]
  rfl

theorem walk_up (hd : t.get? place = some .directory) :
    t.walk follow links place (['.', '.'] :: rest) =
      t.walk follow links place.dropLast rest := by
  rw [walk]
  simp [hd, Path.isIdle, Entry.isDirectory]

theorem walk_cons_name (ht : t.IsLinkless) (hd : t.get? place = some .directory)
    (hi : isIdle segment = false) (hu : segment ≠ ['.', '.']) :
    t.walk follow links place (segment :: rest) =
      if maxName < (String.ofList segment).utf8ByteSize then .error .nameTooLong
      else if (t.get? (place ++ [String.ofList segment])).isSome then
        t.walk follow links (place ++ [String.ofList segment]) rest
      else if rest.all (· = []) then
        .ok (.missing place (String.ofList segment) (rest ≠ []))
      else .error .notFound := by
  rw [walk]
  simp only [hd, hi, hu, Option.any_some, Entry.isDirectory, Bool.not_true, Bool.false_eq_true,
    ↓reduceIte]
  split
  · rfl
  · cases he : t.get? (place ++ [String.ofList segment]) with
    | none => rfl
    | some e =>
      cases e with
      | link target => exact absurd he (ht _ target)
      | _ => rfl

theorem walk_append (ht : t.IsLinkless) (h : t.Leads place ss q) (he : t.get? q = some e) :
    t.walk follow links place (ss ++ rest) = t.walk follow links q rest := by
  induction h with
  | nil place => rfl
  | idle hd hi _ ih =>
    rw [List.cons_append, walk_idle hd hi]
    exact ih he
  | up hd _ ih =>
    rw [List.cons_append, walk_up hd]
    exact ih he
  | @name place q segment ss hd hi hu hl h ih =>
    have hsome : (t.get? (place ++ [String.ofList segment])).isSome = true := by
      cases hn : t.get? (place ++ [String.ofList segment]) with
      | some e' => rfl
      | none =>
        obtain ⟨-, rfl⟩ := h.of_absent hn
        rw [hn] at he
        cases he
    rw [List.cons_append, walk_cons_name ht hd hi hu, if_neg (Nat.not_lt.mpr hl), if_pos hsome]
    exact ih he

theorem walk_of_leads (ht : t.IsLinkless) (h : t.Leads place ss q) (he : t.get? q = some e) :
    t.walk follow links place ss = .ok (.found q e) := by
  rw [← List.append_nil ss, walk_append ht h he, walk_nil, he]
  rfl

def Reaches (t : FileTree) (place : Place) (ss : List (List Char)) : Target → Prop
  | .found q e => t.Leads place ss q ∧ t.get? q = some e
  | .missing d n false => t.Leads place ss (d ++ [n]) ∧ t.get? (d ++ [n]) = none
  | .missing _ _ true => True

theorem Reaches.cons {target : Target} {next : Place} (h : t.Reaches next rest target)
    (hstep : ∀ q, t.Leads next rest q → t.Leads place (segment :: rest) q) :
    t.Reaches place (segment :: rest) target := by
  cases target with
  | found q e => exact h.imp_left (hstep q)
  | missing d n slashes =>
    cases slashes with
    | false => exact h.imp_left (hstep (d ++ [n]))
    | true => trivial

theorem reaches_of_walk {target : Target} (ht : t.IsLinkless)
    (h : t.walk follow links place ss = .ok target) : t.Reaches place ss target := by
  induction ss generalizing place with
  | nil =>
    rw [walk_nil] at h
    cases he : t.get? place with
    | none =>
      rw [he] at h
      cases h
    | some e =>
      rw [he] at h
      obtain rfl := Except.ok.inj h
      exact ⟨.nil place, he⟩
  | cons segment rest ih =>
    by_cases hd : t.get? place = some .directory
    · by_cases hi : isIdle segment = true
      · rw [walk_idle hd hi] at h
        exact (ih h).cons fun _ => .idle hd hi
      · rw [Bool.not_eq_true] at hi
        by_cases hu : segment = ['.', '.']
        · subst hu
          rw [walk_up hd] at h
          exact (ih h).cons fun _ => .up hd
        · rw [walk_cons_name ht hd hi hu] at h
          split at h
          · cases h
          next hl =>
            have hname : ∀ q, t.Leads (place ++ [String.ofList segment]) rest q →
                t.Leads place (segment :: rest) q := fun _ => .name hd hi hu (Nat.not_lt.mp hl)
            split at h
            · exact (ih h).cons hname
            next hn =>
              split at h
              · obtain rfl := Except.ok.inj h
                cases rest with
                | nil => exact ⟨hname _ (.nil _), by simpa using hn⟩
                | cons s rest => trivial
              · cases h
    · rw [walk_cons_of_ne hd] at h
      cases h

theorem walk_eq_found_iff (ht : t.IsLinkless) :
    t.walk follow links place ss = .ok (.found q e) ↔ t.Leads place ss q ∧ t.get? q = some e :=
  ⟨reaches_of_walk ht, fun h => walk_of_leads ht h.1 h.2⟩

theorem locate_eq_found_iff (ht : t.IsLinkless) : t.locate true p = .ok (.found q e) ↔
    refusal? p = none ∧ t.Leads (t.start p) (segments p.text) q ∧ t.get? q = some e := by
  unfold locate
  cases refusal? p with
  | some cause => simp
  | none => simp [walk_eq_found_iff ht]

theorem isDirectory_iff :
    t.isDirectory p = true ↔ ∃ q, t.locate true p = .ok (.found q .directory) := by
  unfold isDirectory
  split
  next q h => exact ⟨fun _ => ⟨q, h⟩, fun _ => rfl⟩
  next hn => simpa using hn

theorem get?_put (hq : q ≠ []) (e : Entry) (place : Place) :
    (t.put q e).get? place = if place = q then some e else t.get? place := by
  by_cases hp : place = q
  · subst hp
    simp [get?, put, hq]
  · -- what the filter leaves out is not at this place
    have hkept : (fun a : Place × Entry => decide ((a.1 != q) = true ∧ (a.1 == place) = true)) =
        fun a => a.1 == place := by
      funext a
      by_cases ha : a.1 = place
      · simp [ha, hp]
      · simp [ha]
    have hfind : (t.put q e).entries.find? (fun a => a.1 == place) =
        t.entries.find? fun a => a.1 == place := by
      rw [put, List.find?_cons, beq_eq_false_iff_ne.mpr (Ne.symm hp), List.find?_filter, hkept]
    rw [if_neg hp, get?, get?, hfind]

structure Keeps (written : List Place) (t t' : FileTree) : Prop where
  cwd : t'.cwd = t.cwd
  linkless : t'.IsLinkless
  directory : ∀ place, t.get? place = some .directory → t'.get? place = some .directory
  entry : ∀ place ∉ written, ∀ e, t.get? place = some e → t'.get? place = some e

namespace Keeps

variable {written written' : List Place}

theorem refl (ht : t.IsLinkless) : Keeps [] t t := ⟨rfl, ht, fun _ h => h, fun _ _ _ h => h⟩

theorem trans {t'' : FileTree} (h : Keeps written t t') (h' : Keeps written' t' t'') :
    Keeps (written ++ written') t t'' where
  cwd := h'.cwd.trans h.cwd
  linkless := h'.linkless
  directory := fun place hd => h'.directory place (h.directory place hd)
  entry := by
    intro place hp e he
    rw [List.mem_append, not_or] at hp
    exact h'.entry place hp.2 e (h.entry place hp.1 e he)

theorem put_directory (ht : t.IsLinkless) (hq : q ≠ []) (hn : t.get? q = none) :
    Keeps [] t (t.put q .directory) := by
  have hkeep : ∀ place e, t.get? place = some e → (t.put q .directory).get? place = some e := by
    intro place e he
    rw [get?_put hq, if_neg]
    · exact he
    · rintro rfl
      rw [hn] at he
      cases he
  refine ⟨rfl, ?_, fun place => hkeep place .directory, fun place _ => hkeep place⟩
  intro place target
  rw [get?_put hq]
  split
  · simp
  · exact ht place target

theorem put_file (ht : t.IsLinkless) (hq : t.get? q ≠ some .directory) (bytes : ByteArray) :
    Keeps [q] t (t.put q (.file bytes)) := by
  have hne : q ≠ [] := by
    rintro rfl
    exact hq t.get?_root
  have hkeep : ∀ place ≠ q, (t.put q (.file bytes)).get? place = t.get? place := by
    intro place hp
    rw [get?_put hne, if_neg hp]
  refine ⟨rfl, ?_, ?_, ?_⟩
  · intro place target
    rw [get?_put hne]
    split
    · simp
    · exact ht place target
  · intro place hd
    rw [hkeep]
    · exact hd
    · rintro rfl
      exact hq hd
  · intro place hp e he
    rw [hkeep place (mt List.mem_singleton.mpr hp)]
    exact he

theorem start (h : Keeps written t t') (p : Path) : t'.start p = t.start p := by
  rw [FileTree.start, FileTree.start, h.cwd]

theorem locate (h : Keeps written t t') (ht : t.IsLinkless)
    (hl : t.locate true p = .ok (.found q e)) (he : t'.get? q = some e) :
    t'.locate true p = .ok (.found q e) := by
  obtain ⟨hr, hleads, -⟩ := (locate_eq_found_iff ht).mp hl
  rw [locate_eq_found_iff h.linkless, h.start]
  exact ⟨hr, hleads.mono h.directory, he⟩

theorem isDirectory (h : Keeps written t t') (ht : t.IsLinkless) (hd : t.isDirectory p = true) :
    t'.isDirectory p = true := by
  obtain ⟨q, hq⟩ := isDirectory_iff.mp hd
  have he := h.directory q ((locate_eq_found_iff ht).mp hq).2.2
  exact isDirectory_iff.mpr ⟨q, h.locate ht hq he⟩

end Keeps

end FileTree

end ContractTypings
