import ContractTypings.Proofs.ComposedText
import ContractTypings.Proofs.TextParts
import ContractTypings.TypeScript.Printer

/-!
The text of a module whose names are plain is composed of code, quoted texts and comments, whatever
these say. So it is inert, and reading its literals gives back the sources, quoted keys and literal
types that it was printed from.
-/

namespace ContractTypings.TypeScript

open Text

theorem isPlainName_toString (n : Nat) : isPlainName (toString n) = true := by
  rw [isPlainName, List.all_eq_true]
  intro c hc
  simp [Char.isAlphanum, isDigit_of_mem_toString hc]

theorem PropertyKey.composed_text {key : PropertyKey} (h : PlainNames key.identifiers) :
    Composed key.text.toList key.quotedTexts := by
  cases key with
  | ident name => exact Composed.name (h name (List.mem_singleton_self name))
  | index position => exact Composed.name (isPlainName_toString position)
  | quoted text => exact Composed.quote text

mutual

theorem TypeExpr.composed_text : (t : TypeExpr) → PlainNames t.identifiers →
    Composed t.text.toList t.quotedTexts
  | .named name, h => Composed.name (h name (List.mem_singleton_self name))
  | .generic name args, h => by
    obtain ⟨hn, ha⟩ := plainNames_cons.mp h
    have hname : Composed name.toList [] := Composed.name hn
    have hargs := composed_typeTexts (Composed.code ", ") args ha
    have hbrackets : Composed ("<" ++ commaSeparated (typeTexts args) ++ ">").toList
        (typesQuotedTexts args) :=
      Composed.between (l := '<') [] [] rfl rfl rfl rfl rfl hargs
    have happend := hname.string_append hbrackets
    simpa only [TypeExpr.text, TypeExpr.quotedTexts, String.append_assoc, List.nil_append]
      using happend
  | .union members, h => composed_typeTexts (Composed.code " | ") members h
  | .array item, h => by
    have hitem : Composed item.text.toList item.quotedTexts := item.composed_text h
    have hpair : Composed "[]".toList [] := Composed.enclosed (l := '[') rfl Composed.nil
    rw [TypeExpr.text]
    split
    · have hbrackets : Composed ("(" ++ item.text ++ ")").toList item.quotedTexts :=
        Composed.between (l := '(') [] [] rfl rfl rfl rfl rfl hitem
      have happend := hbrackets.string_append_nil hpair
      have he : "(" ++ item.text ++ ")" ++ "[]" = "(" ++ item.text ++ ")[]" := by
        rw [String.append_assoc]
        rfl
      exact he ▸ happend
    · exact hitem.string_append_nil hpair
  | .tuple items, h => by
    have hitems := composed_typeTexts (Composed.code ", ") items h
    exact Composed.between (l := '[') [] [] rfl rfl rfl rfl rfl hitems
  | .object [], _ => Composed.enclosed (l := '\x7b') rfl Composed.nil
  | .object (field :: fields), h => by
    have hfields := composed_fieldTexts (Composed.code "; ") (field :: fields) h
    exact Composed.between (l := '\x7b') [' '] [' '] rfl rfl rfl (by decide) (by decide) hfields
  | .literal text, _ => Composed.quote text

theorem Field.composed_text : (f : Field) → PlainNames f.identifiers →
    Composed f.text.toList f.quotedTexts
  | ⟨key, type⟩, h => by
    obtain ⟨hk, ht⟩ := plainNames_append.mp h
    have hkey := key.composed_text hk
    have htype := type.composed_text ht
    exact (hkey.string_append_nil (Composed.code ": ")).string_append htype

theorem composed_typeTexts {separator : String} (hs : Composed separator.toList []) :
    (ts : List TypeExpr) → PlainNames (typeIdentifiers ts) →
      Composed (separator.intercalate (typeTexts ts)).toList (typesQuotedTexts ts)
  | [], _ => Composed.nil
  | t :: ts, h => by
    obtain ⟨ht, hts⟩ := plainNames_append.mp h
    exact Composed.intercalate_cons hs (t.composed_text ht) (composed_typeTexts hs ts hts)

theorem composed_fieldTexts {separator : String} (hs : Composed separator.toList []) :
    (fs : List Field) → PlainNames (fieldIdentifiers fs) →
      Composed (separator.intercalate (fieldTexts fs)).toList (fieldsQuotedTexts fs)
  | [], _ => Composed.nil
  | f :: fs, h => by
    obtain ⟨hf, hfs⟩ := plainNames_append.mp h
    exact Composed.intercalate_cons hs (f.composed_text hf) (composed_fieldTexts hs fs hfs)

end

theorem Parameter.composed_text {p : Parameter} (h : PlainNames p.identifiers) :
    Composed p.text.toList p.type.quotedTexts := by
  obtain ⟨hn, ht⟩ := plainNames_cons.mp h
  have hname : Composed p.name.toList [] := Composed.name hn
  have hmark : Composed (if p.optional then "?" else "").toList [] := by
    split
    · exact Composed.code "?"
    · exact Composed.nil
  have htype := p.type.composed_text ht
  exact ((hname.string_append hmark).string_append (Composed.code ": ")).string_append htype

theorem composed_parameterTexts {ps : List Parameter} (h : ∀ p ∈ ps, PlainNames p.identifiers) :
    Composed (commaSeparated (ps.map Parameter.text)).toList
      (ps.flatMap (·.type.quotedTexts)) := by
  induction ps with
  | nil => exact Composed.nil
  | cons p ps ih =>
    obtain ⟨hp, hps⟩ := List.forall_mem_cons.mp h
    exact Composed.intercalate_cons (Composed.code ", ") (p.composed_text hp) (ih hps)

theorem Method.composed_signature {m : Method} (h : PlainNames m.identifiers) :
    Composed m.signature.toList m.quotedTexts := by
  simp only [Method.identifiers, plainNames_append, plainNames_flatMap] at h
  obtain ⟨⟨hkey, hparams⟩, hreturns⟩ := h
  have hbrackets : Composed ("(" ++ commaSeparated (m.params.map Parameter.text) ++ ")").toList
      (m.params.flatMap (·.type.quotedTexts)) :=
    Composed.between (l := '(') [] [] rfl rfl rfl rfl rfl (composed_parameterTexts hparams)
  have hend : Composed (": " ++ m.returns.text ++ ";").toList m.returns.quotedTexts :=
    ((Composed.code ": ").string_append (m.returns.composed_text hreturns)).string_append_nil
      (Composed.code ";")
  have happend := ((m.key.composed_text hkey).string_append hbrackets).string_append hend
  have hcolon : ")" ++ ": " = "): " := rfl
  rw [Method.signature, Method.quotedTexts, ← hcolon]
  simpa only [String.append_assoc] using happend

theorem composed_header : Composed header.toList [] := by
  have hn : Composed ['\n'] [] := Composed.char (by decide)
  have hline : ∀ {cs : List Char}, '*' ∉ cs →
      Composed ('/' :: '*' :: (cs ++ ['*', '/', '\n'])) [] := by
    intro cs h
    have happend := (Composed.comment (Unmarked.of_not_star h)).append_nil hn
    simpa only [List.cons_append, List.append_assoc, List.nil_append] using happend
  have hlines : header.toList =
      '/' :: '*' :: (" Autogenerated file. Do not edit manually. ".toList ++ ['*', '/', '\n']) ++
        '/' :: '*' :: (" tslint:disable ".toList ++ ['*', '/', '\n']) ++
        '/' :: '*' :: (" eslint-disable ".toList ++ ['*', '/', '\n']) := by
    simp [header]
  rw [hlines]
  exact ((hline (by simp)).append (hline (by simp))).append (hline (by simp))

namespace Printer

def Adds (kind : List Char → Prop) (p q : Printer) : Prop :=
  q.depth = p.depth ∧ ∃ cs, q.text = p.text ++ cs ∧ kind cs

theorem text_raw (cs : List Char) (p : Printer) : (p.raw cs).text = p.text ++ cs := by
  simp [raw, text]

theorem text_line (cs : List Char) (p : Printer) :
    (p.line cs).text = p.text ++ (indentation p.depth ++ cs ++ ['\n']) :=
  text_raw _ p

variable {kind first second : List Char → Prop} {p q r : Printer} {ts us : List String}

theorem Adds.trans (happend : ∀ {cs ds}, first cs → second ds → kind (cs ++ ds))
    (h : Adds first p q) (h' : Adds second q r) : Adds kind p r := by
  obtain ⟨hd, cs, ht, hk⟩ := h
  obtain ⟨hd', cs', ht', hk'⟩ := h'
  refine ⟨hd'.trans hd, cs ++ cs', ?_, happend hk hk'⟩
  rw [ht', ht, List.append_assoc]

theorem adds_line {cs : List Char} (h : kind (indentation p.depth ++ cs ++ ['\n'])) :
    Adds kind p (p.line cs) :=
  ⟨rfl, _, text_line cs p, h⟩

theorem composed_indentation (depth : Nat) : Composed (indentation depth) [] := by
  apply Composed.chars
  apply List.all_eq_true.mpr
  intro c hc
  rw [List.eq_of_mem_replicate hc]
  decide

theorem star_not_mem_indentation (depth : Nat) : '*' ∉ indentation depth := by
  intro h
  exact absurd (List.eq_of_mem_replicate h) (by decide)

theorem composed_line {cs : List Char} (h : Composed cs ts) (depth : Nat) :
    Composed (indentation depth ++ cs ++ ['\n']) ts :=
  ((composed_indentation depth).append h).append_nil (Composed.char (by decide))

theorem adds_blank : Adds (Composed · []) p p.blank := by
  unfold blank
  split
  · exact ⟨rfl, [], by simp, Composed.nil⟩
  · exact ⟨rfl, [], by simp, Composed.nil⟩
  · exact ⟨rfl, ['\n'], by simp [text], Composed.char (by decide)⟩

theorem adds_nested {cs ds : List Char} (hc : Composed cs []) (hd : Composed ds [])
    (h : Adds (Composed · ts) (p.line (cs ++ ['\x7b'])).indent q) :
    Adds (Composed · ts) p (q.outdent.line ('\x7d' :: ds)) := by
  obtain ⟨hdepth, inner, htext, hinner⟩ := h
  have hq : q.outdent.depth = p.depth := congrArg (· - 1) hdepth
  have hfirst : (p.line (cs ++ ['\x7b'])).indent.text =
      p.text ++ (indentation p.depth ++ (cs ++ ['\x7b']) ++ ['\n']) := text_line _ p
  have hlast : (q.outdent.line ('\x7d' :: ds)).text =
      q.text ++ (indentation q.outdent.depth ++ '\x7d' :: ds ++ ['\n']) := text_line _ q.outdent
  refine ⟨hq, indentation p.depth ++ (cs ++ ['\x7b']) ++ ['\n'] ++ inner ++
    (indentation p.depth ++ '\x7d' :: ds ++ ['\n']), ?_, ?_⟩
  · rw [hlast, htext, hfirst, hq]
    simp only [List.append_assoc]
  · -- the braces enclose the line feed after the first line and the indentation of the last one
    have hn : Composed ['\n'] [] := Composed.char (by decide)
    have hbraces : Composed ('\x7b' :: (['\n'] ++ inner ++ indentation p.depth) ++ ['\x7d']) ts :=
      Composed.enclosed rfl ((hn.append hinner).append_nil (composed_indentation p.depth))
    have hadded := (((composed_indentation p.depth).append hc).append hbraces).append_nil
      (hd.append hn)
    simpa only [List.append_assoc, List.cons_append, List.nil_append] using hadded

end Printer

open Printer

def Hidden (cs : List Char) : Prop := ∀ rest, afterComment? (cs ++ rest) = afterComment? rest

theorem Unmarked.hidden {cs : List Char} (h : Unmarked cs) : Hidden cs := by
  intro rest
  rw [afterComment?_eq, afterComment?_eq, h]

theorem unmarked_indentation (depth : Nat) : Unmarked (indentation depth) :=
  Unmarked.of_not_star (star_not_mem_indentation depth)

theorem adds_contentLine {cs : List Char} (h : Unmarked (cs ++ ['\n'])) (p : Printer) :
    Adds Unmarked p
      (if cs = [] then p.line [' ', '*'] else p.line (' ' :: '*' :: ' ' :: cs)) := by
  have hspace : Unmarked [' '] := Unmarked.of_not_star (by decide)
  split
  · apply adds_line
    have hstar : Unmarked ['*', '\n'] :=
      Unmarked.star (by decide) (Unmarked.of_not_star (by decide))
    have hline := (unmarked_indentation p.depth).append (hspace.append hstar)
    simpa only [List.append_assoc, List.cons_append, List.nil_append] using hline
  · apply adds_line
    have hstar : Unmarked ('*' :: ' ' :: (cs ++ ['\n'])) :=
      Unmarked.star (by decide) (hspace.append h)
    have hline := (unmarked_indentation p.depth).append (hspace.append hstar)
    simpa only [List.append_assoc, List.cons_append, List.nil_append] using hline

theorem adds_content {content : List (List Char)} (h : ∀ cs ∈ content, Unmarked (cs ++ ['\n']))
    (p : Printer) :
    Adds Unmarked p (content.foldl
      (fun p cs => if cs = [] then p.line [' ', '*'] else p.line (' ' :: '*' :: ' ' :: cs)) p) := by
  induction content generalizing p with
  | nil => exact ⟨rfl, [], by simp, fun _ => rfl⟩
  | cons cs content ih =>
    have hfirst := adds_contentLine (h cs List.mem_cons_self) p
    exact hfirst.trans Unmarked.append (ih (fun ds hd => h ds (List.mem_cons_of_mem cs hd)) _)

def commentBlock (depth : Nat) (inner : List Char) : List Char :=
  indentation depth ++ "/**".toList ++ ['\n'] ++ inner ++
    (indentation depth ++ " */".toList ++ ['\n'])

theorem composed_commentBlock {inner : List Char} (depth : Nat) (h : Unmarked inner) :
    Composed (commentBlock depth inner) [] := by
  have hopen : Unmarked ['*', '\n'] := Unmarked.star (by decide) (Unmarked.of_not_star (by decide))
  have hclose : Unmarked [' '] := Unmarked.of_not_star (by decide)
  have hcomment := Composed.comment
    (hopen.append (h.append ((unmarked_indentation depth).append hclose)))
  have hlines := composed_line hcomment depth
  have hfirst : "/**".toList = ['/', '*', '*'] := rfl
  have hlast : " */".toList = [' ', '*', '/'] := rfl
  rw [commentBlock, hfirst, hlast]
  simpa only [List.append_assoc, List.cons_append, List.nil_append] using hlines

def IsComment (depth : Nat) (cs : List Char) : Prop :=
  ∃ inner, Hidden inner ∧ cs = indentation depth ++ "/**".toList ++ ['\n'] ++ inner ++
    (indentation depth ++ " */".toList ++ ['\n'])

theorem DocComment.exists_inner (doc : DocComment) (p : Printer) :
    (doc.print p).depth = p.depth ∧ ∃ inner, Unmarked inner ∧
      (doc.print p).text = p.text ++ commentBlock p.depth inner := by
  have hcontent : ∀ cs ∈ doc.content, Unmarked (cs ++ ['\n']) := by
    intro cs hcs
    obtain ⟨line, -, rfl⟩ := List.mem_map.mp hcs
    exact Unmarked.defuse_line _
  obtain ⟨hdepth, inner, htext, hinner⟩ := adds_content hcontent (p.line "/**".toList)
  refine ⟨hdepth, inner, hinner, ?_⟩
  rw [text_line] at htext
  rw [DocComment.print, text_line, htext, hdepth, commentBlock]
  simp only [List.append_assoc]
  rfl

theorem DocComment.adds_comment (doc : DocComment) (p : Printer) :
    Adds (IsComment p.depth) p (doc.print p) := by
  obtain ⟨hdepth, inner, hinner, htext⟩ := doc.exists_inner p
  exact ⟨hdepth, _, htext, inner, hinner.hidden, rfl⟩

theorem DocComment.adds_print (doc : DocComment) (p : Printer) :
    Adds (Composed · []) p (doc.print p) := by
  obtain ⟨hdepth, inner, hinner, htext⟩ := doc.exists_inner p
  exact ⟨hdepth, _, htext, composed_commentBlock p.depth hinner⟩

theorem Method.adds_print {m : Method} (h : PlainNames m.identifiers)
    (p : Printer) : Adds (Composed · m.quotedTexts) p (m.print p) := by
  have hline : ∀ q : Printer, Adds (Composed · m.quotedTexts) q (q.line m.signature.toList) := by
    intro q
    exact adds_line (composed_line (m.composed_signature h) q.depth)
  unfold Method.print
  split
  next doc _ => exact (doc.adds_print p).trans Composed.nil_append (hline _)
  · exact hline p

mutual

theorem Member.adds_print : (m : Member) → PlainNames m.identifiers →
    (p : Printer) → Adds (Composed · m.quotedTexts) p (m.print p)
  | .method m, h, p => m.adds_print h p
  | .group key members, h, p => by
    obtain ⟨hk, hm⟩ := plainNames_cons.mp h
    have hkey : Composed (key.toList ++ [':', ' ']) [] :=
      (Composed.name hk).append (Composed.chars (by decide))
    have hend : Composed [';'] [] := Composed.char (by decide)
    have hfirst : (key ++ ": \x7b").toList = key.toList ++ [':', ' '] ++ ['\x7b'] := by
      rw [String.toList_append, List.append_assoc]
      rfl
    rw [Member.print, hfirst]
    exact adds_nested hkey hend (adds_printMembers members hm _)
  | .blank, _, p => adds_blank

theorem adds_printMembers : (ms : List Member) →
    PlainNames (memberIdentifiers ms) → (p : Printer) →
    Adds (Composed · (membersQuotedTexts ms)) p (printMembers ms p)
  | [], _, p => ⟨rfl, [], by simp [printMembers], Composed.nil⟩
  | m :: ms, h, p => by
    obtain ⟨hm, hms⟩ := plainNames_append.mp h
    exact (m.adds_print hm p).trans Composed.append (adds_printMembers ms hms _)

end

theorem composed_names {names : List String} (h : PlainNames names) :
    Composed ("\x7b " ++ commaSeparated names ++ " \x7d").toList [] := by
  have hlist : Composed (commaSeparated names).toList [] := by
    induction names with
    | nil => exact Composed.nil
    | cons name names ih =>
      obtain ⟨hname, hnames⟩ := plainNames_cons.mp h
      exact Composed.intercalate_cons (Composed.code ", ") (Composed.name hname) (ih hnames)
  exact Composed.between (l := '\x7b') [' '] [' '] rfl rfl rfl (by decide) (by decide) hlist

theorem ImportClause.composed_text {clause : ImportClause}
    (h : PlainNames clause.names) : Composed clause.text.toList [] := by
  cases clause with
  | default name => exact Composed.name (h name (List.mem_singleton_self name))
  | named names => exact composed_names h
  | all name =>
    exact (Composed.code "* as ").string_append
      (Composed.name (h name (List.mem_singleton_self name)))

theorem composed_base (base : Option String) : PlainNames base.toList →
    Composed (match base with
      | some base => " extends " ++ base
      | none => "").toList [] := by
  intro h
  cases base with
  | none => exact Composed.nil
  | some base =>
    have hbase : Composed base.toList [] := Composed.name (h base (List.mem_singleton_self base))
    exact (Composed.code " extends ").string_append hbase

theorem composed_source (source : Option String) :
    Composed (match source with
      | some source => " from " ++ quote source
      | none => "").toList source.toList := by
  cases source with
  | none => exact Composed.nil
  | some source => exact (Composed.code " from ").string_append (Composed.quote source)

theorem Declaration.adds_print {d : Declaration} (h : PlainNames d.identifiers)
    (p : Printer) : Adds (Composed · d.quotedTexts) p (d.print p) := by
  have hend := Composed.code ";"
  cases d with
  | importTypes clause source =>
    apply adds_line
    apply composed_line
    have hclause : Composed clause.text.toList [] := clause.composed_text h
    exact ((((Composed.code "import type ").string_append hclause).string_append
      (Composed.code " from ")).string_append (Composed.quote source)).string_append_nil hend
  | typeAlias name type =>
    apply adds_line
    apply composed_line
    obtain ⟨hn, ht⟩ := plainNames_cons.mp h
    have hname : Composed name.toList [] := Composed.name hn
    have htype := type.composed_text ht
    exact ((((Composed.code "export type ").string_append hname).string_append
      (Composed.code " = ")).string_append htype).string_append_nil hend
  | interface name base members =>
    obtain ⟨hn, hrest⟩ := plainNames_cons.mp h
    obtain ⟨hb, hmembers⟩ := plainNames_append.mp hrest
    have hname : Composed name.toList [] := Composed.name hn
    have hbase := composed_base base hb
    have hword := Composed.code "export interface "
    have hspace : Composed [' '] [] := Composed.char (by decide)
    have hfirst := ((hword.string_append hname).string_append hbase).append hspace
    have hbrace : " \x7b".toList = [' '] ++ ['\x7b'] := rfl
    unfold Declaration.print
    dsimp only
    rw [String.toList_append, hbrace, ← List.append_assoc]
    exact adds_nested hfirst Composed.nil (adds_printMembers members hmembers _)
  | exportTypes names source =>
    have hword := Composed.code "export type "
    have hline := ((hword.string_append (composed_names h)).string_append
      (composed_source source)).string_append_nil hend
    apply adds_line
    apply composed_line
    have he : "export type " ++ "\x7b " = "export type \x7b " := rfl
    simp only [← he, String.append_assoc] at hline ⊢
    exact hline

theorem adds_printDeclarations {ds : List Declaration}
    (h : ∀ d ∈ ds, PlainNames d.identifiers) (previous : Option Declaration)
    (p : Printer) : Adds (Composed · (ds.flatMap Declaration.quotedTexts)) p
      (printDeclarations previous ds p) := by
  induction ds generalizing previous p with
  | nil => exact ⟨rfl, [], by simp [printDeclarations], Composed.nil⟩
  | cons d ds ih =>
    have hd := h d List.mem_cons_self
    have hds := ih fun e he => h e (List.mem_cons_of_mem d he)
    have hfirst : ∀ joined : Bool,
        Adds (Composed · d.quotedTexts) p (d.print (if joined then p else p.blank)) := by
      intro joined
      cases joined with
      | true => exact d.adds_print hd p
      | false => exact adds_blank.trans Composed.nil_append (d.adds_print hd _)
    unfold printDeclarations
    exact (hfirst _).trans Composed.append (hds _ _)

theorem Module.composed_render {m : Module} (h : PlainNames m.identifiers) :
    Composed m.render.toList m.quotedTexts := by
  obtain ⟨-, cs, htext, hcs⟩ :=
    adds_printDeclarations (plainNames_flatMap.mp h) none ((Printer.raw header.toList) {})
  rw [Module.render, String.toList_ofList, htext, text_raw]
  exact composed_header.append hcs

theorem Module.isEnclosed_render {m : Module} (h : PlainNames m.identifiers) :
    isEnclosed m.render = true :=
  isEnclosed_of_inert (m.composed_render h).inert

theorem Module.literals?_render {m : Module} (h : PlainNames m.identifiers) :
    literals? m.render.toList = some m.quotedTexts :=
  (m.composed_render h).hasLiterals.literals?_eq

/-- A quoted text is read as what was quoted, up to its own last quote, whatever comes after it; so
no two texts are quoted alike, and none as the start of another. Literal types and quoted keys are
written in this way. In the text of a module with plain names, the literals are the sources, quoted
keys and literal types of the module, in order, and nothing else. -/
theorem quoted_read_back :
    (∀ s rest : String, unquote? (quote s ++ rest) = some (s, rest)) ∧
      Function.Injective quote ∧
      (∀ s t rest rest' : String, quote s ++ rest = quote t ++ rest' → s = t ∧ rest = rest') ∧
      (∀ s : String, (TypeExpr.literal s).text = quote s ∧ (PropertyKey.quoted s).text = quote s) ∧
      ∀ m : Module, PlainNames m.identifiers → literals? m.render.toList = some m.quotedTexts := by
  refine ⟨unquote?_quote_append, ?_, ?_, ?_, ?_⟩
  · intro s t h
    exact (quote_append_inj (congrArg (· ++ "") h)).1
  · intro s t rest rest' h
    exact quote_append_inj h
  · intro s
    exact ⟨by rw [TypeExpr.text], rfl⟩
  · intro m h
    exact m.literals?_render h

theorem quoted_read_back_slashes :
    let m : Module := ⟨[
      .importTypes (.named ["A"]) "./a\\",
      .typeAlias "B" (.object [⟨.quoted "\"", .literal "\\\"\\\\"⟩]),
      .interface "C" none [.method {
        doc := some ⟨["\" */ /*"]⟩, key := .quoted "f(\"/*)", params := [⟨"x", .literal "", true⟩],
        returns := .void }],
      .exportTypes ["A"] (some "*/")]⟩
    quote "\\\"\\\\" = "\"\\\\\\\"\\\\\\\\\"" ∧
      unquote? (quote "\\\"\\\\" ++ "\"\\") = some ("\\\"\\\\", "\"\\") ∧
      PlainNames m.identifiers ∧
      literals? m.render.toList = some ["./a\\", "\"", "\\\"\\\\", "f(\"/*)", "", "*/"] := by
  intro m
  have hplain : PlainNames m.identifiers := by decide
  obtain ⟨hread, -, -, -, hliterals⟩ := quoted_read_back
  exact ⟨by decide, hread _ _, hplain, hliterals m hplain⟩

end ContractTypings.TypeScript
