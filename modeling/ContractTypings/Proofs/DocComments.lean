import ContractTypings.Proofs.InterfaceRows
import ContractTypings.Proofs.ModuleScope
import ContractTypings.Proofs.ModuleText
import ContractTypings.Proofs.Refusal

namespace ContractTypings.TypeScript

def Method.withoutDoc (m : Method) : Method := { m with doc := none }

mutual

def Member.withoutDocs : Member → Member
  | .method m => .method m.withoutDoc
  | .group key members => .group key (membersWithoutDocs members)
  | .blank => .blank

def membersWithoutDocs : List Member → List Member
  | [] => []
  | m :: ms => m.withoutDocs :: membersWithoutDocs ms

end

def Declaration.withoutDocs : Declaration → Declaration
  | .interface name base members => .interface name base (membersWithoutDocs members)
  | .importTypes clause source => .importTypes clause source
  | .typeAlias name type => .typeAlias name type
  | .exportTypes names source => .exportTypes names source

def Module.withoutDocs (m : Module) : Module := ⟨m.declarations.map Declaration.withoutDocs⟩

def Method.row (depth : Nat) (m : Method) : List Char :=
  Printer.indentation depth ++ m.signature.toList ++ ['\n']

theorem membersWithoutDocs_eq_map (ms : List Member) :
    membersWithoutDocs ms = ms.map Member.withoutDocs := by
  induction ms with
  | nil => rfl
  | cons m ms ih => rw [membersWithoutDocs, ih, List.map_cons]

theorem Method.withoutDoc_of_none {m : Method} (h : m.doc = none) : m.withoutDoc = m := by
  rw [withoutDoc, ← h]

theorem membersWithoutDocs_methods {ms : List Method} (h : ∀ m ∈ ms, m.doc = none) :
    membersWithoutDocs (ms.map .method) = ms.map .method := by
  rw [membersWithoutDocs_eq_map, List.map_map]
  apply List.map_congr_left
  intro m hm
  exact congrArg Member.method (Method.withoutDoc_of_none (h m hm))

end ContractTypings.TypeScript

namespace ContractTypings

open Abi Natspec TypeScript Printer

namespace TypeScript

inductive Commented (depth : Nat) : List Method → List Char → Prop
  | nil : Commented depth [] []
  | plain {m : Method} {ms : List Method} {text : List Char} (hm : m.doc = none)
      (h : Commented depth ms text) : Commented depth (m :: ms) (m.row depth ++ text)
  | documented {m : Method} {ms : List Method} {doc : DocComment} {comment text : List Char}
      (hm : m.doc = some doc) (hc : IsComment depth comment) (h : Commented depth ms text) :
      Commented depth (m :: ms) (comment ++ m.row depth ++ text)

theorem Commented.eq_flatMap {depth : Nat} {ms : List Method} {text : List Char}
    (h : Commented depth ms text) (hd : ∀ m ∈ ms, m.doc = none) :
    text = ms.flatMap (Method.row depth) := by
  induction h with
  | nil => rfl
  | plain _ _ ih => rw [List.flatMap_cons, ih (List.forall_mem_cons.mp hd).2]
  | documented hm _ _ _ =>
    rw [(List.forall_mem_cons.mp hd).1] at hm
    cases hm

theorem DocComment.isComment_rows (doc : DocComment) (depth : Nat) :
    IsComment depth (unlines (doc.rows.map (indented depth))) := by
  obtain ⟨-, comment, hadded, hcomment⟩ := doc.adds_comment { depth }
  have hstart : StandsAfter { depth } true := .start
  have htext := doc.prints.text hstart
  rw [squeeze_of_ne_nil true doc.rows_ne_nil, hadded] at htext
  have he : comment = unlines (doc.rows.map (indented depth)) := List.append_cancel_left htext
  rwa [← he]

theorem Method.unlines_signature (m : Method) (depth : Nat) :
    unlines [indented depth m.signature.toList] = m.row depth := by
  have hne : m.signature.toList ≠ [] := by simp [Method.signature]
  rw [indented_of_ne_nil depth hne]
  simp [unlines, Method.row]

theorem commented_rows (depth : Nat) (ms : List Method) :
    Commented depth ms (unlines ((ms.flatMap Method.rows).map (indented depth))) := by
  induction ms with
  | nil => exact Commented.nil
  | cons m ms ih =>
    rw [List.flatMap_cons, Method.rows, List.map_append, List.map_append, unlines_append,
      unlines_append, List.map_singleton, m.unlines_signature]
    cases hdoc : m.doc with
    | none =>
      have hnone : m.commentRows = [] := by rw [Method.commentRows, hdoc]
      rw [hnone]
      exact ih.plain hdoc
    | some doc =>
      have hrows : m.commentRows = doc.rows := by rw [Method.commentRows, hdoc]
      rw [hrows]
      exact ih.documented hdoc (doc.isComment_rows depth)

theorem nestedRows_nestedRows (first last key close : String) (before rows after : List Row) :
    nestedRows first (before ++ nestedRows key rows close ++ after) last =
      (first.toList :: before.map (indented 1)) ++ [indented 1 key.toList] ++
        rows.map (indented 2) ++
        ([indented 1 close.toList] ++ (after.map (indented 1) ++ [last.toList])) := by
  have htwice : indented 1 ∘ indented 1 = indented 2 := funext (indented_indented 1)
  simp [nestedRows, htwice]

end TypeScript

namespace Contract

theorem exists_around_methods (c : Contract) : ∃ head tail : List Char,
    "  methods: \x7b\n".toList <:+ head ∧ "  \x7d;\n".toList <+: tail ∧
    ∀ functions : Overloads Function, ∃ text,
      Commented 2 { c with functions }.methods text ∧
      { c with functions }.module.render = String.ofList (head ++ text ++ tail) := by
  let opened := c.rowsBeforeInterface ++
    (interfaceHead c.name (some "BaseContract")).toList ::
      (c.constructorMethod.rows ++ c.cloneMethod.rows).map (indented 1)
  let after := nestedRows "events: \x7b" (c.subscriptions.flatMap Method.rows) "\x7d;" ++
    if c.listeners.isEmpty then [] else [] :: c.listeners.flatMap Method.rows
  refine ⟨unlines (opened ++ [indented 1 "methods: \x7b".toList]),
    unlines ([indented 1 "\x7d;".toList] ++ (after.map (indented 1) ++ ["\x7d".toList])),
    ?_, ?_, ?_⟩
  · rw [unlines_append]
    exact List.suffix_append _ _
  · rw [unlines_append]
    exact List.prefix_append _ _
  · intro functions
    refine ⟨_, commented_rows 2 _, ?_⟩
    have hinterface : { c with functions }.interfaceRows =
        nestedRows (interfaceHead c.name (some "BaseContract"))
          (c.constructorMethod.rows ++ c.cloneMethod.rows ++
            nestedRows "methods: \x7b" ({ c with functions }.methods.flatMap Method.rows) "\x7d;" ++
            after) "\x7d" := by
      rw [interfaceRows, rowsBeforeListeners, List.append_assoc _ (nestedRows "events: \x7b" _ _)]
      rfl
    rw [Module.render_eq_unlines, rows_module, hinterface, nestedRows_nestedRows]
    simp only [← unlines_append, ← List.append_assoc]
    rfl

section

variable (name : String) (path : Path) (docs : Option Documentation) (abi : Items)

theorem map_withoutDoc_methods : (described name path docs abi).methods.map Method.withoutDoc =
    (described name path none abi).methods := by
  have hdocs : (described name path docs abi).functions = functionsOf docs abi := rfl
  have hnone : (described name path none abi).functions = functionsOf none abi := rfl
  rw [methods_functionsOf hdocs, methods_functionsOf hnone, List.map_map]
  rfl

theorem signatureFamilies_described : (described name path docs abi).signatureFamilies =
    (described name path none abi).signatureFamilies := by
  have hfunctions : (functionsOf docs abi).items.map Function.signature =
      (functionsOf none abi).items.map Function.signature := by
    rw [items_functionsOf, items_functionsOf, List.map_map, List.map_map]
    rfl
  simp only [signatureFamilies, described, hfunctions]

theorem clash?_described :
    (described name path docs abi).clash? = (described name path none abi).clash? :=
  clash?_congr rfl (signatureFamilies_described name path docs abi) rfl

end

theorem doc_subscriptions {c : Contract} {m : Method} (h : m ∈ c.subscriptions) :
    m.doc = none := by
  rcases mem_subscriptions h with rfl | ⟨e, overloaded, -, hm⟩
  · rfl
  · simp only [Event.subscriptions, List.mem_cons, List.not_mem_nil, or_false] at hm
    rcases hm with rfl | rfl <;> rfl

theorem doc_listeners {c : Contract} {m : Method} (h : m ∈ c.listeners) : m.doc = none := by
  obtain ⟨e, -, hm⟩ := mem_listeners h
  simp only [Event.listeners, List.mem_cons, List.not_mem_nil, or_false] at hm
  rcases hm with rfl | rfl <;> rfl

theorem withoutDocs_members (c : Contract) : membersWithoutDocs c.members =
    [.method c.constructorMethod, .method c.cloneMethod,
      .group "methods" ((c.methods.map Method.withoutDoc).map .method),
      .group "events" (c.subscriptions.map .method)] ++
      if c.listeners.isEmpty then [] else .blank :: c.listeners.map .method := by
  have hmethods : membersWithoutDocs (c.methods.map .method) =
      (c.methods.map Method.withoutDoc).map .method := by
    rw [membersWithoutDocs_eq_map, List.map_map, List.map_map]
    rfl
  have hsubscriptions := membersWithoutDocs_methods fun m => doc_subscriptions (c := c) (m := m)
  have hlisteners := membersWithoutDocs_methods fun m => doc_listeners (c := c) (m := m)
  have hlast : membersWithoutDocs
        (if c.listeners.isEmpty then [] else .blank :: c.listeners.map .method) =
      if c.listeners.isEmpty then [] else .blank :: c.listeners.map .method := by
    split
    · rfl
    · rw [membersWithoutDocs, hlisteners, Member.withoutDocs]
  simp only [members, List.cons_append, List.nil_append, membersWithoutDocs, Member.withoutDocs,
    hmethods, hsubscriptions, hlast]
  rfl

theorem withoutDocs_module (c : Contract) : c.module.withoutDocs =
    ⟨imports c.depth ++ c.eventTypes ++
      [.interface c.name (some "BaseContract") (membersWithoutDocs c.members)]⟩ := by
  have heventTypes : c.eventTypes.map Declaration.withoutDocs = c.eventTypes := by
    rw [eventTypes, List.map_map]
    rfl
  rw [Module.withoutDocs, module, List.map_append, List.map_append, heventTypes]
  rfl

theorem withoutDocs_described (name : String) (path : Path) (docs : Option Documentation)
    (abi : Items) : (described name path docs abi).module.withoutDocs =
      (described name path none abi).module := by
  rw [withoutDocs_module, withoutDocs_members, map_withoutDoc_methods]
  rfl

theorem doc_methods_of_undocumented {name : String} {path : Path} {abi : Items} {m : Method}
    (h : m ∈ (described name path none abi).methods) : m.doc = none := by
  rw [← map_withoutDoc_methods name path none] at h
  obtain ⟨m', -, rfl⟩ := List.mem_map.mp h
  rfl

/-- What an ABI is documented with decides nothing but the comments above the methods. Any two
documentations are both refused, with one failure, or both accepted; then the modules are those of
the undocumented contract, with comments right above the lines of documented methods. -/
theorem docs_only_comment (abi : Items) (path : Path) (docs docs' : Option Documentation) :
    (∃ e, ofAbi abi path docs = .error e ∧ ofAbi abi path docs' = .error e) ∨
      ∃ c c' bare, ofAbi abi path docs = .ok c ∧ ofAbi abi path docs' = .ok c' ∧
        ofAbi abi path none = .ok bare ∧
        c.module.withoutDocs = c'.module.withoutDocs ∧
        c.module.withoutDocs.render = bare.module.render ∧
        c.methods.map Method.withoutDoc = bare.methods ∧
        c'.methods.map Method.withoutDoc = bare.methods ∧
        ∃ head tail text text' : List Char, "  methods: \x7b\n".toList <:+ head ∧
          "  \x7d;\n".toList <+: tail ∧
          bare.module.render =
            String.ofList (head ++ bare.methods.flatMap (Method.row 2) ++ tail) ∧
          Commented 2 c.methods text ∧ c.module.render = String.ofList (head ++ text ++ tail) ∧
          Commented 2 c'.methods text' ∧
          c'.module.render = String.ofList (head ++ text' ++ tail) := by
  rcases ofAbi_of_path path with ⟨e, he⟩ | ⟨name, hname⟩
  · exact Or.inl ⟨e, he abi docs, he abi docs'⟩
  cases hclash : (described name path none abi).clash? with
  | some e =>
    have he : ∀ docs, ofAbi abi path docs = .error e := by
      intro docs
      rw [hname, clash?_described, hclash]
    exact Or.inl ⟨e, he docs, he docs'⟩
  | none =>
    have hok : ∀ docs, ofAbi abi path docs = .ok (described name path docs abi) := by
      intro docs
      rw [hname, clash?_described, hclash]
    obtain ⟨head, tail, hhead, htail, htext⟩ :=
      exists_around_methods (described name path none abi)
    obtain ⟨text, hrows, hrender⟩ := htext (functionsOf docs abi)
    obtain ⟨text', hrows', hrender'⟩ := htext (functionsOf docs' abi)
    obtain ⟨bare, hbare, hundocumented⟩ := htext (functionsOf none abi)
    obtain rfl := hbare.eq_flatMap fun m hm => doc_methods_of_undocumented hm
    refine Or.inr ⟨_, _, _, hok docs, hok docs', hok none, ?_, ?_, map_withoutDoc_methods _ _ _ _,
      map_withoutDoc_methods _ _ _ _, head, tail, text, text', hhead, htail, hundocumented, hrows,
      hrender, hrows', hrender'⟩
    · rw [withoutDocs_described, withoutDocs_described]
    · rw [withoutDocs_described]

end Contract

end ContractTypings
