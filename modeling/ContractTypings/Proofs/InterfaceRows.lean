import ContractTypings.Contract.Interface
import ContractTypings.Proofs.PrintedRows

namespace ContractTypings

open TypeScript

namespace TypeScript

section

variable {rows : List Row} {row : Row}

theorem squeeze_of_ne_nil (b : Bool) (h : ∀ row ∈ rows, row ≠ []) : squeeze b rows = rows := by
  induction rows generalizing b with
  | nil => rfl
  | cons row rows ih =>
    obtain ⟨hrow, hrows⟩ := List.forall_mem_cons.mp h
    have hkept : (b && row.isEmpty) = false := by simp [hrow]
    rw [squeeze, hkept, if_neg Bool.false_ne_true, ih _ hrows]

theorem endsEmpty_of_ne_nil (h : ∀ row ∈ rows, row ≠ []) : endsEmpty false rows = false := by
  induction rows with
  | nil => rfl
  | cons row rows ih =>
    obtain ⟨hrow, hrows⟩ := List.forall_mem_cons.mp h
    have hfirst : row.isEmpty = false := by simpa using hrow
    rw [endsEmpty, List.foldl_cons, hfirst]
    exact ih hrows

theorem squeeze_nestedRows {first last : String} (b : Bool) (hfirst : first ≠ "")
    (hlast : last ≠ "") : squeeze b (nestedRows first rows last) =
      nestedRows first (squeeze false rows) last := by
  have hfirst : first.toList ≠ [] := by simpa using hfirst
  have hlast : last.toList ≠ [] := by simpa using hlast
  have hopened : endsEmpty b [first.toList] = false := by simpa [endsEmpty] using hfirst
  calc squeeze b (nestedRows first rows last)
    _ = squeeze b ([first.toList] ++ rows.map (indented 1) ++ [last.toList]) := rfl
    _ = [first.toList] ++ (squeeze false rows).map (indented 1) ++ [last.toList] := by
      rw [squeeze_append, squeeze_append, squeeze_singleton b hfirst, squeeze_singleton _ hlast,
        hopened, squeeze_map_indented]

theorem nestedRows_ne_nil {first last : String} (hfirst : first ≠ "") (hlast : last ≠ "")
    (h : ∀ row ∈ rows, row ≠ []) : ∀ row ∈ nestedRows first rows last, row ≠ [] := by
  have hinner : ∀ row ∈ rows.map (indented 1), row ≠ [] := by
    intro row hr
    obtain ⟨inner, hi, rfl⟩ := List.mem_map.mp hr
    rw [indented_of_ne_nil 1 (h inner hi)]
    exact List.append_ne_nil_of_right_ne_nil _ (h inner hi)
  have hfirst : first.toList ≠ [] := by simpa using hfirst
  have hlast : last.toList ≠ [] := by simpa using hlast
  exact List.forall_mem_append.mpr
    ⟨List.forall_mem_cons.mpr ⟨hfirst, hinner⟩, List.forall_mem_singleton.mpr hlast⟩

end

theorem Method.rows_ne_nil (m : Method) : ∀ row ∈ m.rows, row ≠ [] := by
  have hcomment : ∀ row ∈ m.commentRows, row ≠ [] := by
    unfold Method.commentRows
    split
    next doc _ => exact doc.rows_ne_nil
    · simp
  have hsignature : m.signature.toList ≠ [] := by simp [Method.signature]
  exact List.forall_mem_append.mpr ⟨hcomment, List.forall_mem_singleton.mpr hsignature⟩

theorem flatMap_rows_ne_nil (ms : List Method) : ∀ row ∈ ms.flatMap Method.rows, row ≠ [] := by
  intro row hr
  obtain ⟨m, -, hr⟩ := List.mem_flatMap.mp hr
  exact m.rows_ne_nil row hr

theorem memberRows_append (ms ns : List Member) :
    memberRows (ms ++ ns) = memberRows ms ++ memberRows ns := by
  induction ms with
  | nil => rfl
  | cons m ms ih => rw [List.cons_append, memberRows, memberRows, ih, List.append_assoc]

theorem memberRows_methods (ms : List Method) :
    memberRows (ms.map .method) = ms.flatMap Method.rows := by
  induction ms with
  | nil => rfl
  | cons m ms ih => rw [List.map_cons, memberRows, ih, List.flatMap_cons, Member.rows]

theorem declarationRows_interface (previous : Option Declaration) (ds : List Declaration)
    (name : String) (base : Option String) (ms : List Member) :
    declarationRows previous (ds ++ [.interface name base ms]) =
      declarationRows previous ds ++ [[]] ++ (Declaration.interface name base ms).rows := by
  induction ds generalizing previous with
  | nil =>
    have hjoined : previous.any (·.continues (.interface name base ms)) = false := by
      cases previous with
      | none => rfl
      | some before => cases before <;> rfl
    simp [declarationRows, hjoined]
  | cons d ds ih =>
    rw [List.cons_append, declarationRows, declarationRows, ih]
    simp only [List.append_assoc]

end TypeScript

namespace Contract

section

variable (c : Contract)

def rowsBeforeListeners : List Row :=
  c.constructorMethod.rows ++ c.cloneMethod.rows ++
    nestedRows "methods: \x7b" (c.methods.flatMap Method.rows) "\x7d;" ++
    nestedRows "events: \x7b" (c.subscriptions.flatMap Method.rows) "\x7d;"

def interfaceRows : List Row :=
  nestedRows (interfaceHead c.name (some "BaseContract"))
    (c.rowsBeforeListeners ++
      if c.listeners.isEmpty then [] else [] :: c.listeners.flatMap Method.rows) "\x7d"

theorem rows_interface : c.interface.rows = c.interfaceRows := by
  have hlast : memberRows
        (if c.listeners.isEmpty then [] else .blank :: c.listeners.map .method) =
      if c.listeners.isEmpty then [] else [] :: c.listeners.flatMap Method.rows := by
    split
    · rfl
    · rw [memberRows, memberRows_methods]
      rfl
  have hmembers : memberRows c.members = c.rowsBeforeListeners ++
      if c.listeners.isEmpty then [] else [] :: c.listeners.flatMap Method.rows := by
    rw [members, memberRows_append, hlast, rowsBeforeListeners]
    simp only [memberRows, Member.rows, memberRows_methods, List.append_nil, List.append_assoc]
    rfl
  rw [interface, Declaration.rows, hmembers, interfaceRows]

theorem rowsBeforeListeners_ne_nil : ∀ row ∈ c.rowsBeforeListeners, row ≠ [] := by
  simp only [rowsBeforeListeners, List.forall_mem_append]
  exact ⟨⟨⟨c.constructorMethod.rows_ne_nil, c.cloneMethod.rows_ne_nil⟩,
    nestedRows_ne_nil (by simp) (by simp) (flatMap_rows_ne_nil _)⟩,
    nestedRows_ne_nil (by simp) (by simp) (flatMap_rows_ne_nil _)⟩

theorem squeeze_interfaceRows (b : Bool) : squeeze b c.interfaceRows = c.interfaceRows := by
  have hhead : interfaceHead c.name (some "BaseContract") ≠ "" := by
    rw [interfaceHead_some]
    simp
  rw [interfaceRows, squeeze_nestedRows b hhead (by simp), squeeze_append,
    squeeze_of_ne_nil false c.rowsBeforeListeners_ne_nil,
    endsEmpty_of_ne_nil c.rowsBeforeListeners_ne_nil]
  split
  · rfl
  · -- the one empty row comes after the closing line of the events
    rw [squeeze, if_neg (by simp), squeeze_of_ne_nil _ (flatMap_rows_ne_nil _)]

def rowsBeforeInterface : List Row :=
  headerRows ++
    squeeze false (declarationRows none (imports c.depth ++ c.eventTypes) ++ [[]])

theorem rows_module : c.module.rows = c.rowsBeforeInterface ++ c.interfaceRows := by
  have hdeclarations : declarationRows none c.module.declarations =
      declarationRows none (imports c.depth ++ c.eventTypes) ++ [[]] ++ c.interface.rows :=
    declarationRows_interface none _ _ _ _
  rw [Module.rows, hdeclarations, squeeze_append, rows_interface, squeeze_interfaceRows,
    rowsBeforeInterface, List.append_assoc]

end

end Contract

end ContractTypings
