import ContractTypings.Proofs.PrintedRows
import Mathlib.Data.List.Chain

namespace ContractTypings.TypeScript

open Text Printer

theorem splitOn_unlines {rows : List Row} (h : ∀ row ∈ rows, '\n' ∉ row) :
    (unlines rows).splitOn '\n' = rows ++ [[]] := by
  induction rows with
  | nil => rfl
  | cons row rows ih =>
    obtain ⟨hrow, hrows⟩ := List.forall_mem_cons.mp h
    have hsplit : unlines (row :: rows) = row ++ '\n' :: unlines rows := by
      simp [unlines, List.append_assoc]
    rw [hsplit, List.splitOn_append_cons_self, List.splitOn_eq_singleton hrow, ih hrows]
    rfl

theorem lines_unlines {rows : List Row} (h : ∀ row ∈ rows, '\n' ∉ row) :
    lines (unlines rows) = rows := by
  rw [lines, splitOn_unlines h]
  simp

theorem feed_not_mem_indented {row : Row} (depth : ℕ) (h : '\n' ∉ row) :
    '\n' ∉ indented depth row := by
  unfold indented
  split
  · simp
  · simp [h]

theorem squeeze_sublist (b : Bool) (rows : List Row) : (squeeze b rows).Sublist rows := by
  induction rows generalizing b with
  | nil => exact List.Sublist.refl []
  | cons row rows ih =>
    rw [squeeze]
    split
    · exact (ih true).cons row
    · exact (ih _).cons_cons row

theorem head?_squeeze_true (rows : List Row) : (squeeze true rows).head? ≠ some [] := by
  induction rows with
  | nil => simp [squeeze]
  | cons row rows ih =>
    rw [squeeze]
    split
    · exact ih
    next h =>
      rw [List.head?_cons, ne_eq, Option.some_inj]
      simpa using h

def Spaced (rows : List Row) : Prop := rows.IsChain fun row next => row ≠ [] ∨ next ≠ []

theorem spaced_squeeze (b : Bool) (rows : List Row) : Spaced (squeeze b rows) := by
  induction rows generalizing b with
  | nil => exact List.IsChain.nil
  | cons row rows ih =>
    rw [squeeze]
    split
    · exact ih true
    · apply List.isChain_cons.mpr
      refine ⟨?_, ih _⟩
      intro next hnext
      by_cases hrow : row = []
      · right
        rintro rfl
        rw [hrow] at hnext
        exact head?_squeeze_true rows hnext
      · exact Or.inl hrow

theorem oneLine_cons {s : String} {texts : List String} :
    OneLine (s :: texts) ↔ '\n' ∉ s.toList ∧ OneLine texts := List.forall_mem_cons

theorem oneLine_append {as bs : List String} : OneLine (as ++ bs) ↔ OneLine as ∧ OneLine bs := by
  simp only [OneLine, List.mem_append, or_imp, forall_and]

theorem oneLine_flatMap {α : Type} {as : List α} {f : α → List String} :
    OneLine (as.flatMap f) ↔ ∀ a ∈ as, OneLine (f a) := by
  simp only [OneLine, List.mem_flatMap, forall_exists_index, and_imp]
  exact ⟨fun h a ha s hs => h s a ha hs, fun h s a ha hs => h a ha s hs⟩

theorem feed_not_mem_commaSeparated {texts : List String} (h : OneLine texts) :
    '\n' ∉ (commaSeparated texts).toList := by
  induction texts with
  | nil => simp [commaSeparated]
  | cons s texts ih =>
    obtain ⟨hs, htexts⟩ := oneLine_cons.mp h
    cases texts with
    | nil =>
      rw [commaSeparated, String.intercalate_singleton]
      exact hs
    | cons t texts =>
      have hrest : '\n' ∉ (", ".intercalate (t :: texts)).toList := ih htexts
      rw [commaSeparated, String.intercalate_cons_cons, String.toList_append, String.toList_append,
        List.mem_append, List.mem_append, not_or, not_or]
      exact ⟨⟨hs, by decide⟩, hrest⟩

theorem Method.feed_not_mem_signature {m : Method} (h : OneLine m.texts) :
    '\n' ∉ m.signature.toList := by
  simp only [Method.texts, oneLine_cons, oneLine_flatMap] at h
  obtain ⟨hkey, hreturns, hparams⟩ := h
  have hlist : '\n' ∉ (commaSeparated (m.params.map Parameter.text)).toList := by
    apply feed_not_mem_commaSeparated
    intro s hs
    obtain ⟨p, hp, rfl⟩ := List.mem_map.mp hs
    have hp := hparams p hp
    simp only [Parameter.texts, oneLine_cons] at hp
    obtain ⟨hname, htype, -⟩ := hp
    cases ho : p.optional <;> simp [Parameter.text, hname, htype, ho]
  simp [Method.signature, hkey, hreturns, hlist]

theorem feed_not_mem_quote {s : String} (h : '\n' ∉ s.toList) : '\n' ∉ (quote s).toList := by
  have hescape : ∀ c ∈ s.toList, '\n' ∉ Quoted.escape c := by
    intro c hc
    have hne : '\n' ≠ c := fun he => h (he ▸ hc)
    unfold Quoted.escape
    split <;> simp [hne]
  simpa [quote, Quoted.encode] using hescape

theorem ImportClause.feed_not_mem_text {clause : ImportClause} (h : OneLine clause.names) :
    '\n' ∉ clause.text.toList := by
  cases clause with
  | default name => exact h name (List.mem_singleton_self name)
  | named names =>
    have hlist : '\n' ∉ (commaSeparated names).toList := feed_not_mem_commaSeparated h
    simp [ImportClause.text, hlist]
  | all name =>
    have hname : '\n' ∉ name.toList := h name (List.mem_singleton_self name)
    simp [ImportClause.text, hname]

theorem Method.feed_not_mem_rows {m : Method} (h : OneLine m.texts) :
    ∀ row ∈ m.rows, '\n' ∉ row := by
  have hcomment : ∀ row ∈ m.commentRows, '\n' ∉ row := by
    unfold Method.commentRows
    split
    next doc _ => exact doc.feed_not_mem_rows
    · simp
  intro row hr
  rcases List.mem_append.mp hr with hr | hr
  · exact hcomment row hr
  · rw [List.mem_singleton.mp hr]
    exact m.feed_not_mem_signature h

theorem feed_not_mem_nestedRows {first last : String} {rows : List Row}
    (hfirst : '\n' ∉ first.toList) (hrows : ∀ row ∈ rows, '\n' ∉ row) (hlast : '\n' ∉ last.toList) :
    ∀ row ∈ nestedRows first rows last, '\n' ∉ row := by
  intro row hr
  rcases List.mem_append.mp hr with hr | hr
  · rcases List.mem_cons.mp hr with rfl | hr
    · exact hfirst
    · obtain ⟨inner, hi, rfl⟩ := List.mem_map.mp hr
      exact feed_not_mem_indented 1 (hrows inner hi)
  · rwa [List.mem_singleton.mp hr]

mutual

theorem Member.feed_not_mem_rows : (m : Member) → OneLine m.texts → ∀ row ∈ m.rows, '\n' ∉ row
  | .method m, h => m.feed_not_mem_rows h
  | .group key members, h => by
    obtain ⟨hkey, hmembers⟩ := oneLine_cons.mp h
    exact feed_not_mem_nestedRows (by simp [hkey]) (feed_not_mem_memberRows members hmembers)
      (by simp)
  | .blank, _ => by simp [Member.rows]

theorem feed_not_mem_memberRows :
    (ms : List Member) → OneLine (memberTexts ms) → ∀ row ∈ memberRows ms, '\n' ∉ row
  | [], _ => by simp [memberRows]
  | m :: ms, h => by
    obtain ⟨hm, hms⟩ := oneLine_append.mp h
    exact List.forall_mem_append.mpr
      ⟨m.feed_not_mem_rows hm, feed_not_mem_memberRows ms hms⟩

end

theorem Declaration.feed_not_mem_rows {d : Declaration} (h : OneLine d.texts) :
    ∀ row ∈ d.rows, '\n' ∉ row := by
  cases d with
  | importTypes clause source =>
    obtain ⟨hsource, hnames⟩ := oneLine_cons.mp h
    have hclause := clause.feed_not_mem_text hnames
    have hquote := feed_not_mem_quote hsource
    have hline :
        '\n' ∉ ("import type " ++ clause.text ++ " from " ++ quote source ++ ";").toList := by
      simp [hclause, hquote]
    exact List.forall_mem_singleton.mpr hline
  | typeAlias name type =>
    obtain ⟨hname, htype⟩ := oneLine_cons.mp h
    have htype : '\n' ∉ type.text.toList := htype _ (List.mem_singleton_self _)
    have hline : '\n' ∉ ("export type " ++ name ++ " = " ++ type.text ++ ";").toList := by
      simp [hname, htype]
    exact List.forall_mem_singleton.mpr hline
  | interface name base members =>
    obtain ⟨hname, hrest⟩ := oneLine_cons.mp h
    obtain ⟨hbase, hmembers⟩ := oneLine_append.mp hrest
    have hfirst : '\n' ∉ (interfaceHead name base).toList := by
      cases base with
      | none => simp [interfaceHead_none, hname]
      | some base =>
        have hbase : '\n' ∉ base.toList := hbase base (List.mem_singleton_self base)
        simp [interfaceHead_some, hname, hbase]
    exact feed_not_mem_nestedRows hfirst (feed_not_mem_memberRows members hmembers) (by simp)
  | exportTypes names source =>
    obtain ⟨hsource, hnames⟩ := oneLine_append.mp h
    have hlist : '\n' ∉ (commaSeparated names).toList := feed_not_mem_commaSeparated hnames
    have hline : '\n' ∉ (exportLine names source).toList := by
      cases source with
      | none => simp [exportLine_none, hlist]
      | some source =>
        have hquote := feed_not_mem_quote (hsource source (List.mem_singleton_self source))
        simp [exportLine_some, hlist, hquote]
    exact List.forall_mem_singleton.mpr hline

theorem feed_not_mem_declarationRows {ds : List Declaration} (h : ∀ d ∈ ds, OneLine d.texts)
    (previous : Option Declaration) : ∀ row ∈ declarationRows previous ds, '\n' ∉ row := by
  induction ds generalizing previous with
  | nil => simp [declarationRows]
  | cons d ds ih =>
    obtain ⟨hd, hds⟩ := List.forall_mem_cons.mp h
    have hbetween : ∀ row ∈ if previous.any (·.continues d) then [] else [[]], '\n' ∉ row := by
      split <;> simp
    have hfirst := List.forall_mem_append.mpr ⟨hbetween, Declaration.feed_not_mem_rows hd⟩
    exact List.forall_mem_append.mpr ⟨hfirst, ih hds (some d)⟩

theorem Module.rows_eq_squeeze (m : Module) :
    m.rows = squeeze true (headerRows ++ declarationRows none m.declarations) := by
  -- the lines at the top are all kept, and the last of them is not empty
  rw [squeeze_append]
  rfl

theorem Module.feed_not_mem_rows {m : Module} (h : OneLine m.texts) :
    ∀ row ∈ m.rows, '\n' ∉ row := by
  have hheader : ∀ row ∈ headerRows, '\n' ∉ row := by decide
  have hrest := feed_not_mem_declarationRows (oneLine_flatMap.mp h) none
  exact List.forall_mem_append.mpr
    ⟨hheader, fun row hr => hrest row ((squeeze_sublist _ _).subset hr)⟩

/-- A module without line feeds in its names, keys, types and specifiers is its rows, line by line,
and no two lines in a row are empty. Each of its members, at whatever depth, is printed as its own
rows at that depth, and the depth is the same afterwards. -/
theorem Module.render_eq_rows {m : Module} (h : OneLine m.texts) :
    m.render = String.ofList (unlines m.rows) ∧ lines m.render.toList = m.rows ∧ Spaced m.rows ∧
      ∀ (member : Member) (p : Printer), (member.print p).depth = p.depth ∧
        ∀ afterEmpty, StandsAfter p afterEmpty → (member.print p).text =
          p.text ++ unlines ((squeeze afterEmpty member.rows).map (indented p.depth)) := by
  refine ⟨m.render_eq_unlines, ?_, ?_, ?_⟩
  · rw [m.render_eq_unlines, String.toList_ofList]
    exact lines_unlines (Module.feed_not_mem_rows h)
  · rw [m.rows_eq_squeeze]
    exact spaced_squeeze true _
  · intro member p
    exact ⟨member.prints.depth p, fun _ => member.prints.text⟩

def groupedModule : Module where
  declarations := [
    .importTypes (.named ["Address"]) "../types",
    .importTypes (.default "BN") "bn.js",
    .interface "Token" (some "Contract") [
      .blank,
      .group "methods" [
        .group "inner" [
          .method {
            doc := some ⟨["Owner\n", "@returns who"]⟩, key := .ident "owner", params := [],
            returns := .named "Address" },
          .blank],
        .blank,
        .blank]],
    .exportTypes ["Token"] none]

theorem Module.render_eq_rows_grouped : OneLine groupedModule.texts ∧
    lines groupedModule.render.toList = headerRows ++ [
      "",
      "import type \x7b Address \x7d from \"../types\";",
      "import type BN from \"bn.js\";",
      "",
      "export interface Token extends Contract \x7b",
      "",
      "  methods: \x7b",
      "    inner: \x7b",
      "      /**",
      "       * Owner",
      "       * @returns who",
      "       */",
      "      owner(): Address;",
      "",
      "    \x7d;",
      "",
      "  \x7d;",
      "\x7d",
      "",
      "export type \x7b Token \x7d;"].map String.toList := by
  have h : OneLine groupedModule.texts := by decide
  have hrows := (Module.render_eq_rows h).2.1
  exact ⟨h, hrows.trans (by decide)⟩

end ContractTypings.TypeScript
