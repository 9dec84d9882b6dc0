import ContractTypings.Proofs.ModuleText
import ContractTypings.Proofs.TextParts
import ContractTypings.TypeScript.Rows

/-!
Printing a module writes its rows one after the other, whatever stands in them. What has been
printed before matters for empty rows alone, and of it only whether it ends with one.
-/

namespace ContractTypings.TypeScript

open Text Printer

section Rows

theorem unlines_append (as bs : List Row) : unlines (as ++ bs) = unlines as ++ unlines bs :=
  List.flatMap_append

theorem isEmpty_indented (depth : ℕ) (row : Row) : (indented depth row).isEmpty = row.isEmpty := by
  cases row with
  | nil => rfl
  | cons c cs => simp [indented]

theorem indented_of_ne_nil {row : Row} (depth : ℕ) (h : row ≠ []) :
    indented depth row = indentation depth ++ row := if_neg h

theorem indented_indented (depth : ℕ) (row : Row) :
    indented depth (indented 1 row) = indented (depth + 1) row := by
  cases row with
  | nil => rfl
  | cons c cs =>
    simp only [indented, List.cons_ne_nil, ↓reduceIte, List.append_eq_nil_iff, and_false,
      ← List.append_assoc, List.replicate_append_replicate]
    rfl

theorem indented_zero (row : Row) : indented 0 row = row := by
  cases row with
  | nil => rfl
  | cons c cs => rfl

theorem squeeze_append (b : Bool) (as bs : List Row) :
    squeeze b (as ++ bs) = squeeze b as ++ squeeze (endsEmpty b as) bs := by
  induction as generalizing b with
  | nil => rfl
  | cons a as ih =>
    rw [List.cons_append, squeeze, squeeze]
    split
    next h =>
      have ha : a.isEmpty = true := (Bool.and_eq_true_iff.mp h).2
      rw [ih, endsEmpty, endsEmpty, List.foldl_cons, ha]
    · rw [ih]
      rfl

theorem squeeze_map_indented (b : Bool) (depth : ℕ) (rows : List Row) :
    squeeze b (rows.map (indented depth)) = (squeeze b rows).map (indented depth) := by
  induction rows generalizing b with
  | nil => rfl
  | cons row rows ih =>
    rw [List.map_cons, squeeze, squeeze, isEmpty_indented]
    split
    · exact ih true
    · rw [ih, List.map_cons]

theorem squeeze_singleton {row : Row} (b : Bool) (h : row ≠ []) : squeeze b [row] = [row] := by
  simp [squeeze, h]

end Rows

namespace Printer

inductive StandsAfter : Printer → Bool → Prop
  | start {depth : ℕ} : StandsAfter ⟨[], depth⟩ true
  | empty {cs : List Char} {depth : ℕ} : StandsAfter ⟨'\n' :: '\n' :: cs, depth⟩ true
  | line {c : Char} {cs : List Char} {depth : ℕ} (h : c ≠ '\n') :
    StandsAfter ⟨'\n' :: c :: cs, depth⟩ false

structure Prints (rows : List Row) (print : Printer → Printer) : Prop where
  depth : ∀ p, (print p).depth = p.depth
  text : ∀ {b p}, StandsAfter p b →
    (print p).text = p.text ++ unlines ((squeeze b rows).map (indented p.depth))
  after : ∀ {b p}, StandsAfter p b → StandsAfter (print p) (endsEmpty b rows)

theorem StandsAfter.indent {p : Printer} {b : Bool} (h : StandsAfter p b) :
    StandsAfter p.indent b := by
  cases h with
  | start => exact .start
  | empty => exact .empty
  | line h => exact .line h

theorem StandsAfter.outdent {p : Printer} {b : Bool} (h : StandsAfter p b) :
    StandsAfter p.outdent b := by
  cases h with
  | start => exact .start
  | empty => exact .empty
  | line h => exact .line h

def EndsPlain (row : Row) : Prop := ∃ c ∈ row.getLast?, c ≠ '\n'

theorem EndsPlain.ne_nil {row : Row} (h : EndsPlain row) : row ≠ [] := by
  rintro rfl
  obtain ⟨c, hc, -⟩ := h
  cases hc

theorem EndsPlain.append {last : Row} (h : EndsPlain last) (first : Row) :
    EndsPlain (first ++ last) := by
  obtain ⟨c, hc, hne⟩ := h
  exact ⟨c, List.mem_getLast?_append_of_mem_getLast? hc, hne⟩

theorem endsPlain_of_not_mem {row : Row} (hn : row ≠ []) (hf : '\n' ∉ row) : EndsPlain row := by
  refine ⟨row.getLast hn, List.getLast?_eq_some_getLast hn, ?_⟩
  intro hc
  exact hf (hc ▸ List.getLast_mem hn)

theorem endsPlain_ending (s : String) {last : String} (h : EndsPlain last.toList) :
    EndsPlain (s ++ last).toList := by
  rw [String.toList_append]
  exact h.append s.toList

theorem standsAfter_line {row : Row} (p : Printer) (h : EndsPlain row) :
    StandsAfter (p.line row) false := by
  obtain ⟨c, hc, hne⟩ := h
  obtain ⟨first, rfl⟩ := List.getLast?_eq_some_iff.mp hc
  have hreversed : p.line (first ++ [c]) =
      ⟨'\n' :: c :: (first.reverse ++ ((indentation p.depth).reverse ++ p.reversed)), p.depth⟩ := by
    simp [line, raw]
  rw [hreversed]
  exact .line hne

section

variable {f g : Printer → Printer} {as bs rows : List Row} {row : Row}

theorem Prints.nil : Prints [] id where
  depth _ := rfl
  text _ := (List.append_nil _).symm
  after h := h

theorem prints_line (h : EndsPlain row) : Prints [row] (line row) where
  depth _ := rfl
  text {b p} _ := by
    rw [text_line, squeeze_singleton b h.ne_nil, List.map_singleton, indented_of_ne_nil _ h.ne_nil]
    simp [unlines]
  after {b p} _ := by
    have hempty : endsEmpty b [row] = false := by simpa [endsEmpty] using h.ne_nil
    rw [hempty]
    exact standsAfter_line p h

theorem blank_of_ne {c : Char} {cs : List Char} {depth : ℕ} (h : c ≠ '\n') :
    blank ⟨'\n' :: c :: cs, depth⟩ = ⟨'\n' :: '\n' :: c :: cs, depth⟩ := by
  unfold blank
  split
  next he => cases he
  next he =>
    obtain ⟨rfl, -⟩ := List.cons.inj (List.cons.inj he).2
    exact absurd rfl h
  · rfl

theorem prints_blank : Prints [[]] blank where
  depth p := by
    unfold blank
    split <;> rfl
  text {b p} h := by
    cases h with
    | start => rfl
    | empty => simp [blank, squeeze, unlines]
    | line h => simp [blank_of_ne h, squeeze, unlines, text, indented]
  after {b p} h := by
    cases h with
    | start => exact .start
    | empty => exact .empty
    | line h =>
      rw [blank_of_ne h]
      exact .empty

theorem Prints.comp (hf : Prints as f) (hg : Prints bs g) :
    Prints (as ++ bs) fun p => g (f p) where
  depth p := (hg.depth (f p)).trans (hf.depth p)
  text {b p} h := by
    rw [hg.text (hf.after h), hf.text h, hf.depth, squeeze_append, List.map_append, unlines_append,
      List.append_assoc]
  after {b p} h := by
    rw [endsEmpty, List.foldl_append]
    exact hg.after (hf.after h)

theorem prints_lines (h : ∀ row ∈ rows, EndsPlain row) :
    Prints rows fun p => rows.foldl (fun p row => p.line row) p := by
  induction rows with
  | nil => exact Prints.nil
  | cons row rows ih =>
    obtain ⟨hrow, hrows⟩ := List.forall_mem_cons.mp h
    exact (prints_line hrow).comp (ih hrows)

theorem Prints.indented (hf : Prints rows f) :
    Prints (rows.map (indented 1)) fun p => (f p.indent).outdent where
  depth p := congrArg (· - 1) (hf.depth p.indent)
  text {b p} h := by
    have hinner : (f p.indent).outdent.text = (f p.indent).text := rfl
    have hdepth : (fun row => TypeScript.indented p.depth (TypeScript.indented 1 row)) =
        TypeScript.indented p.indent.depth := funext (indented_indented p.depth)
    rw [hinner, hf.text h.indent, squeeze_map_indented, List.map_map, Function.comp_def, hdepth]
    rfl
  after {b p} h := by
    have hempty : endsEmpty b (rows.map (TypeScript.indented 1)) = endsEmpty b rows := by
      simp only [endsEmpty, List.foldl_map, isEmpty_indented]
    rw [hempty]
    exact (hf.after h.indent).outdent

theorem Prints.nested {first last : String} (hf : Prints rows f) (hfirst : EndsPlain first.toList)
    (hlast : EndsPlain last.toList) : Prints (nestedRows first rows last)
      fun p => (f (p.line first.toList).indent).outdent.line last.toList :=
  ((prints_line hfirst).comp hf.indented).comp (prints_line hlast)

end

end Printer

theorem feed_not_mem_defuse {cs : List Char} (h : '\n' ∉ cs) : '\n' ∉ defuse cs := by
  fun_induction defuse cs with
  | case1 cs ih => simp_all
  | case2 c cs hne ih => simp_all
  | case3 => exact h

theorem feed_not_mem_commentLine {cs : List Char} (h : '\n' ∉ cs) : '\n' ∉ commentLine cs := by
  apply feed_not_mem_defuse
  intro hm
  have hkept : '\n' ∈ cs.reverse.dropWhile isBlank := List.mem_reverse.mp hm
  exact h (List.mem_reverse.mp ((List.dropWhile_suffix isBlank).subset hkept))

theorem feed_not_mem_commentRow {line : List Char} (h : '\n' ∉ line) : '\n' ∉ commentRow line := by
  have hline := feed_not_mem_commentLine h
  unfold commentRow
  split
  · simp
  · simpa using hline

theorem commentRow_ne_nil (line : List Char) : commentRow line ≠ [] := by
  unfold commentRow
  split <;> simp

theorem DocComment.forall_mem_rows {P : Row → Prop} (doc : DocComment) (hfirst : P "/**".toList)
    (hline : ∀ line, '\n' ∉ line → P (commentRow line)) (hlast : P " */".toList) :
    ∀ row ∈ doc.rows, P row := by
  intro row hr
  rcases List.mem_append.mp hr with hr | hr
  · rcases List.mem_cons.mp hr with rfl | hr
    · exact hfirst
    · obtain ⟨line, hl, rfl⟩ := List.mem_map.mp hr
      obtain ⟨text, -, hl⟩ := List.mem_flatMap.mp hl
      exact hline line (feed_not_mem_of_mem_lines hl)
  · rwa [List.mem_singleton.mp hr]

theorem DocComment.rows_ne_nil (doc : DocComment) : ∀ row ∈ doc.rows, row ≠ [] :=
  doc.forall_mem_rows (by simp) (fun line _ => commentRow_ne_nil line) (by simp)

theorem DocComment.feed_not_mem_rows (doc : DocComment) : ∀ row ∈ doc.rows, '\n' ∉ row :=
  doc.forall_mem_rows (by simp) (fun _ h => feed_not_mem_commentRow h) (by simp)

theorem line_commentRow (line : List Char) (p : Printer) :
    (if commentLine line = [] then p.line [' ', '*']
      else p.line (' ' :: '*' :: ' ' :: commentLine line)) = p.line (commentRow line) := by
  unfold commentRow
  split
  next h =>
    rw [h]
    rfl
  next h =>
    split
    next he => exact absurd he h
    · rfl

theorem DocComment.print_eq_foldl (doc : DocComment) (p : Printer) :
    doc.print p = doc.rows.foldl (fun p row => p.line row) p := by
  rw [DocComment.print, DocComment.content, DocComment.rows, List.foldl_append, List.foldl_cons,
    List.foldl_cons, List.foldl_nil, List.foldl_map, List.foldl_map]
  simp only [line_commentRow]

theorem DocComment.prints (doc : DocComment) : Prints doc.rows doc.print := by
  rw [funext doc.print_eq_foldl]
  exact prints_lines fun row hr =>
    endsPlain_of_not_mem (doc.rows_ne_nil row hr) (doc.feed_not_mem_rows row hr)

theorem Method.prints (m : Method) : Prints m.rows m.print := by
  have hsemicolon : EndsPlain ";".toList := ⟨';', rfl, by decide⟩
  have hend : EndsPlain m.signature.toList := endsPlain_ending _ hsemicolon
  have hline := prints_line hend
  unfold Method.rows Method.commentRows Method.print
  cases m.doc with
  | none => exact hline
  | some doc => exact doc.prints.comp hline

mutual

theorem Member.prints : (m : Member) → Prints m.rows m.print
  | .method m => m.prints
  | .group key members => by
    have hfirst : EndsPlain (key ++ ": \x7b").toList :=
      endsPlain_ending key ⟨'\x7b', rfl, by decide⟩
    have hlast : EndsPlain "\x7d;".toList := ⟨';', rfl, by decide⟩
    have hprint : (Member.group key members).print = fun p =>
        (printMembers members (p.line (key ++ ": \x7b").toList).indent).outdent.line
          "\x7d;".toList := by
      funext p
      rw [Member.print]
    rw [hprint]
    exact (prints_printMembers members).nested hfirst hlast
  | .blank => prints_blank

theorem prints_printMembers : (ms : List Member) → Prints (memberRows ms) (printMembers ms)
  | [] => Prints.nil
  | m :: ms => m.prints.comp (prints_printMembers ms)

end

theorem interfaceHead_none (name : String) :
    interfaceHead name none = "export interface " ++ name ++ " \x7b" := rfl

theorem interfaceHead_some (name base : String) :
    interfaceHead name (some base) =
      "export interface " ++ name ++ " extends " ++ base ++ " \x7b" := rfl

theorem Declaration.print_interface (name : String) (base : Option String) (ms : List Member) :
    (Declaration.interface name base ms).print = fun p =>
      (printMembers ms (p.line (interfaceHead name base).toList).indent).outdent.line
        "\x7d".toList := by
  cases base with
  | none =>
    have hhead : interfaceHead name none = "export interface " ++ name ++ "" ++ " \x7b" := by
      rw [String.append_empty, interfaceHead_none]
    rw [hhead]
    rfl
  | some base =>
    have hhead : interfaceHead name (some base) =
        "export interface " ++ name ++ (" extends " ++ base) ++ " \x7b" := by
      rw [← String.append_assoc, interfaceHead_some]
    rw [hhead]
    rfl

theorem exportLine_none (names : List String) :
    exportLine names none = "export type \x7b " ++ commaSeparated names ++ " \x7d;" := rfl

theorem exportLine_some (names : List String) (source : String) :
    exportLine names (some source) =
      "export type \x7b " ++ commaSeparated names ++ " \x7d from " ++ quote source ++ ";" := rfl

theorem Declaration.print_exportTypes (names : List String) (source : Option String) :
    (Declaration.exportTypes names source).print = line (exportLine names source).toList := by
  cases source with
  | none =>
    have hend : " \x7d" ++ ";" = " \x7d;" := rfl
    have hline : exportLine names none =
        "export type \x7b " ++ commaSeparated names ++ " \x7d" ++ "" ++ ";" := by
      rw [exportLine_none, ← hend]
      simp only [String.append_empty, String.append_assoc]
    rw [hline]
    rfl
  | some source =>
    have hfrom : " \x7d" ++ " from " = " \x7d from " := rfl
    have hline : exportLine names (some source) =
        "export type \x7b " ++ commaSeparated names ++ " \x7d" ++ (" from " ++ quote source) ++
          ";" := by
      rw [exportLine_some, ← hfrom]
      simp only [String.append_assoc]
    rw [hline]
    rfl

theorem Declaration.prints (d : Declaration) : Prints d.rows d.print := by
  have hsemicolon : EndsPlain ";".toList := ⟨';', rfl, by decide⟩
  have hbrace : EndsPlain " \x7b".toList := ⟨'\x7b', rfl, by decide⟩
  cases d with
  | importTypes clause source => exact prints_line (endsPlain_ending _ hsemicolon)
  | typeAlias name type => exact prints_line (endsPlain_ending _ hsemicolon)
  | interface name base members =>
    have hfirst : EndsPlain (interfaceHead name base).toList := by
      cases base with
      | none => exact endsPlain_ending _ hbrace
      | some base => exact endsPlain_ending _ hbrace
    have hlast : EndsPlain "\x7d".toList := ⟨'\x7d', rfl, by decide⟩
    rw [Declaration.print_interface]
    exact (prints_printMembers members).nested hfirst hlast
  | exportTypes names source =>
    have hline : EndsPlain (exportLine names source).toList := by
      cases source with
      | none => exact endsPlain_ending _ ⟨';', rfl, by decide⟩
      | some source => exact endsPlain_ending _ hsemicolon
    rw [Declaration.print_exportTypes]
    exact prints_line hline

theorem prints_printDeclarations (previous : Option Declaration) (ds : List Declaration) :
    Prints (declarationRows previous ds) (printDeclarations previous ds) := by
  induction ds generalizing previous with
  | nil => exact Prints.nil
  | cons d ds ih =>
    have hprint : printDeclarations previous (d :: ds) = fun p => printDeclarations (some d) ds
        (d.print (if previous.any (·.continues d) then p else p.blank)) := by
      cases previous <;> rfl
    rw [hprint, declarationRows]
    cases previous.any (·.continues d) with
    | true => exact d.prints.comp (ih (some d))
    | false => exact (prints_blank.comp d.prints).comp (ih (some d))

theorem header_eq : header.toList = unlines headerRows := by decide

theorem standsAfter_header : StandsAfter ((Printer.raw header.toList) {}) false := by
  have hlast : (Printer.raw header.toList) {} =
      ((Printer.raw (unlines headerRows.dropLast)) {}).line "/* eslint-disable */".toList := by
    rw [header_eq]
    rfl
  rw [hlast]
  exact standsAfter_line _ ⟨'/', rfl, by decide⟩

theorem Module.render_eq_unlines (m : Module) : m.render = String.ofList (unlines m.rows) := by
  have hprints := prints_printDeclarations none m.declarations
  have hzero : indented 0 = id := funext indented_zero
  have htext := hprints.text standsAfter_header
  rw [Module.render, htext, Module.rows, unlines_append, ← header_eq]
  simp [raw, text, hzero]

end ContractTypings.TypeScript
