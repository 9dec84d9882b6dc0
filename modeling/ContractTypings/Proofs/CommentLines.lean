import ContractTypings.Proofs.DocComments
import ContractTypings.Proofs.DocTexts
import ContractTypings.Proofs.InterfaceRows

namespace ContractTypings

open Abi Natspec Text TypeScript

namespace Natspec

/-- Details and a notice without a line, at least one of them given, and nothing else that is
documented of a function. -/
structure IsLineless (dev : MethodDevDoc) (notice : Option String) : Prop where
  given : dev.details ≠ none ∨ notice ≠ none
  details : ∀ text ∈ dev.details, text = ""
  notice : ∀ text ∈ notice, text = ""
  params : dev.params.entries = []
  legacyReturn : dev.legacyReturn = none
  returns : dev.returns.entries = []

end Natspec

def Abi.Item.shownLines (i : Item) (dev : MethodDevDoc) (notice : Option String) :
    List (List Char) :=
  (i.saidTexts dev notice).flatMap fun text => lines text.toList

section

variable {i : Item} {dev : MethodDevDoc} {notice : Option String}

theorem mem_saidTexts {text : String} : text ∈ i.saidTexts dev notice ↔
    text ∈ dev.details ∨ text ∈ notice ∨
      (∃ e ∈ i.documentedParams dev.params, "@param " ++ e.1 ++ " " ++ e.2 = text) ∨
      ∃ r, (r ∈ dev.legacyReturn ∨ r ∈ dev.returns.values) ∧ "@returns " ++ r = text := by
  simp only [Item.saidTexts, commentTexts, List.mem_append, Option.mem_toList, Option.mem_def,
    List.mem_map, or_assoc]

theorem documentedParams_eq_nil_iff {params : Dictionary String} :
    i.documentedParams params = [] ↔ params.entries = [] := by
  constructor
  · intro h
    apply List.eq_nil_iff_forall_not_mem.mpr
    intro e he
    have hkey : e.1 ∈ params.keys := List.mem_map_of_mem he
    have hdocumented : e ∈ i.documentedParams params := by
      apply Dictionary.mem_entriesUnder.mpr
      refine ⟨he, ?_⟩
      by_cases hinput : e.1 ∈ i.inputNames <;> simp [hinput, hkey]
    rw [h] at hdocumented
    cases hdocumented
  · intro h
    apply List.eq_nil_iff_forall_not_mem.mpr
    intro e he
    have hentry := (Dictionary.mem_entriesUnder.mp he).1
    rw [h] at hentry
    cases hentry

theorem shownLines_eq_nil_iff :
    i.shownLines dev notice = [] ↔ ∀ text ∈ i.saidTexts dev notice, text = "" := by
  rw [Item.shownLines, List.flatMap_eq_nil_iff]
  simp only [lines_eq_nil_iff, String.toList_eq_nil_iff]

theorem isLineless_iff : IsLineless dev notice ↔
    i.saidTexts dev notice ≠ [] ∧ ∀ text ∈ i.saidTexts dev notice, text = "" := by
  constructor
  · intro h
    constructor
    · obtain ⟨text, ht⟩ : ∃ text, text ∈ i.saidTexts dev notice := by
        rcases h.given with hd | hn
        · obtain ⟨text, ht⟩ := Option.ne_none_iff_exists'.mp hd
          exact ⟨text, mem_saidTexts.mpr (Or.inl ht)⟩
        · obtain ⟨text, ht⟩ := Option.ne_none_iff_exists'.mp hn
          exact ⟨text, mem_saidTexts.mpr (Or.inr (Or.inl ht))⟩
      exact List.ne_nil_of_mem ht
    · intro text ht
      rcases mem_saidTexts.mp ht with hd | hn | ⟨e, he, -⟩ | ⟨r, hr, -⟩
      · exact h.details text hd
      · exact h.notice text hn
      · rw [documentedParams_eq_nil_iff.mpr h.params] at he
        cases he
      · simp [h.legacyReturn, h.returns, Dictionary.values] at hr
  · rintro ⟨hsaid, hempty⟩
    have hparams : dev.params.entries = [] := by
      apply (documentedParams_eq_nil_iff (i := i)).mp
      apply List.eq_nil_iff_forall_not_mem.mpr
      intro e he
      have htext := hempty _ (mem_saidTexts.mpr (Or.inr (Or.inr (Or.inl ⟨e, he, rfl⟩))))
      simp at htext
    have hreturns : ∀ r, ¬ (r ∈ dev.legacyReturn ∨ r ∈ dev.returns.values) := by
      intro r hr
      have htext := hempty _ (mem_saidTexts.mpr (Or.inr (Or.inr (Or.inr ⟨r, hr, rfl⟩))))
      simp at htext
    refine ⟨?_, ?_, ?_, hparams, ?_, ?_⟩
    · obtain ⟨text, ht⟩ := List.exists_mem_of_ne_nil _ hsaid
      rcases mem_saidTexts.mp ht with hd | hn | ⟨e, he, -⟩ | ⟨r, hr, -⟩
      · exact Or.inl (Option.ne_none_iff_exists'.mpr ⟨text, hd⟩)
      · exact Or.inr (Option.ne_none_iff_exists'.mpr ⟨text, hn⟩)
      · rw [documentedParams_eq_nil_iff.mpr hparams] at he
        cases he
      · exact absurd hr (hreturns r)
    · exact fun text ht => hempty text (mem_saidTexts.mpr (Or.inl ht))
    · exact fun text ht => hempty text (mem_saidTexts.mpr (Or.inr (Or.inl ht)))
    · apply Option.eq_none_iff_forall_not_mem.mpr
      exact fun r hr => hreturns r (Or.inl hr)
    · have hvalues : dev.returns.values = [] :=
        List.eq_nil_iff_forall_not_mem.mpr fun r hr => hreturns r (Or.inr hr)
      exact List.map_eq_nil_iff.mp hvalues

end

namespace Contract

theorem commentRows_methodOf (dev : Option DevDoc) (user : Option UserDoc) (functions : Items)
    (i : Item) :
    let said := (devEntry dev i.signature).getD {}
    let notice := (userEntry user i.signature).bind MethodUserDoc.text?
    (methodOf (Documentation.merge? dev user) functions i).commentRows =
      if i.saidTexts said notice = [] then []
      else "/**".toList :: (i.shownLines said notice).map commentRow ++ [" */".toList] := by
  intro said notice
  rw [Method.commentRows, doc_methodOf, DocComment.of?_eq]
  by_cases hsaid : i.saidTexts said notice = []
  · rw [if_pos hsaid, if_pos hsaid]
  · rw [if_neg hsaid, if_neg hsaid]
    rfl

theorem commentRows_subscriptions {c : Contract} {m : Method} (h : m ∈ c.subscriptions) :
    m.commentRows = [] := by
  rw [Method.commentRows, doc_subscriptions h]

theorem commentRows_listeners {c : Contract} {m : Method} (h : m ∈ c.listeners) :
    m.commentRows = [] := by
  rw [Method.commentRows, doc_listeners h]

/-- The comment above a function has a line to show, and a function with a line to show has one,
unless all that is said of it is an empty text: then the two ends of the comment stand there alone.
No other method of the module has a comment. -/
theorem comment_shows_lines {text : String} {a : Artifact} {abi : Items} {path : Path}
    {c : Contract} (hr : Artifact.read text = .ok a)
    (h : Contract.ofAbi abi path a.documentation = .ok c) :
    let functions := itemsOfType "function" abi
    c.module.render = String.ofList (unlines (c.rowsBeforeInterface ++ c.interfaceRows)) ∧
      (∀ m ∈ c.constructorMethod :: c.cloneMethod :: (c.subscriptions ++ c.listeners),
        m.commentRows = []) ∧
      c.methods = (functionsInOrder abi).map (methodOf a.documentation functions) ∧
      ∃ dev user, Artifact.HasSections text dev user ∧ ∀ i ∈ functions,
        let said := (devEntry dev i.signature).getD {}
        let notice := (userEntry user i.signature).bind MethodUserDoc.text?
        let shown := i.shownLines said notice
        let comment := (methodOf a.documentation functions i).commentRows
        (comment ≠ [] → comment = "/**".toList :: shown.map commentRow ++ [" */".toList]) ∧
          ((comment ≠ [] ↔ shown ≠ []) ↔ ¬ IsLineless said notice) := by
  intro functions
  refine ⟨?_, ?_, (methods_one_each h).1, ?_⟩
  · rw [Module.render_eq_unlines, rows_module]
  · intro m hm
    rcases List.mem_cons.mp hm with rfl | hm
    · rfl
    rcases List.mem_cons.mp hm with rfl | hm
    · rfl
    rcases List.mem_append.mp hm with hm | hm
    · exact commentRows_subscriptions hm
    · exact commentRows_listeners hm
  · obtain ⟨dev, user, hsections, hdocs⟩ := Artifact.hasSections_of_read hr
    refine ⟨dev, user, hsections, ?_⟩
    intro i _ said notice shown comment
    have hcomment : comment = if i.saidTexts said notice = [] then []
        else "/**".toList :: shown.map commentRow ++ [" */".toList] := by
      have hrows := commentRows_methodOf dev user functions i
      rwa [← hdocs] at hrows
    have hlineless : IsLineless said notice ↔ i.saidTexts said notice ≠ [] ∧ shown = [] := by
      rw [isLineless_iff (i := i), shownLines_eq_nil_iff]
    by_cases hsaid : i.saidTexts said notice = []
    · have hshown : shown = [] := by
        rw [shownLines_eq_nil_iff, hsaid]
        simp
      rw [hcomment, hlineless, if_pos hsaid]
      simp [hsaid, hshown]
    · rw [hcomment, hlineless, if_neg hsaid]
      simp [hsaid]

theorem comment_shows_lines_token :
    let text := "\x7b\"abi\":[\x7b\"type\":\"function\",\"name\":\"f\",\"inputs\":[" ++
      "\x7b\"name\":\"x\",\"type\":\"bool\"\x7d]\x7d," ++
      "\x7b\"type\":\"function\",\"name\":\"g\"\x7d]," ++
      "\"devdoc\":\x7b\"methods\":\x7b\"f(bool)\":" ++
      "\x7b\"details\":\"\",\"params\":\x7b\"x\":\"A\\nB\"\x7d\x7d\x7d\x7d\x7d"
    let f : Item :=
      { type := "function", name := some "f", inputs := [{ name := "x", type := "bool" }] }
    let g : Item := { type := "function", name := some "g" }
    let above := ["/**".toList, " * @param x A".toList, " * B".toList, " */".toList]
    ∃ a, Artifact.read text = .ok a ∧ a.nonEmptyAbi? = some [f, g] ∧ ∃ c,
      ofAbi [f, g] ⟨"Token.json"⟩ a.documentation = .ok c ∧
      c.methods.map Method.commentRows = [above, []] ∧
      ∃ dev user, Artifact.HasSections text dev user ∧
        ¬ IsLineless ((devEntry dev f.signature).getD {})
          ((userEntry user f.signature).bind MethodUserDoc.text?) := by
  intro text f g above
  let abi : Items := [f, g]
  apply exists_ok_of_map (fun a => (a.nonEmptyAbi?,
    (ofAbi abi ⟨"Token.json"⟩ a.documentation).toOption.map
      fun c => c.methods.map Method.commentRows)) (some abi, some [above, []]) (by decide +kernel)
  intro a ha hdecoded
  obtain ⟨habi, hdocs⟩ := Prod.ext_iff.mp hdecoded
  refine ⟨habi, ?_⟩
  apply exists_ok_of_map (fun c => c.methods.map Method.commentRows) [above, []] hdocs
  intro c hc hlist
  obtain ⟨-, -, hmethods, dev, user, hsections, hall⟩ := comment_shows_lines ha hc
  refine ⟨hlist, dev, user, hsections, ?_⟩
  have horder : functionsInOrder abi = abi := by decide +kernel
  have hcomment :
      (methodOf a.documentation (itemsOfType "function" abi) f).commentRows = above := by
    rw [hmethods, horder] at hlist
    exact (List.cons.inj hlist).1
  obtain ⟨hshown, hiff⟩ := hall f (by decide)
  have hne : above ≠ [] := by simp [above]
  rw [hcomment] at hshown hiff
  apply hiff.mp
  refine ⟨?_, fun _ => hne⟩
  intro _ hnone
  have hrows := hshown hne
  rw [hnone] at hrows
  exact absurd hrows (by decide)

/-- Details that are there but empty leave a comment of nothing but its two ends. -/
theorem comment_shows_lines_empty :
    let text := "\x7b\"abi\":[\x7b\"type\":\"function\",\"name\":\"f\"\x7d]," ++
      "\"devdoc\":\x7b\"methods\":\x7b\"f()\":\x7b\"details\":\"\"\x7d\x7d\x7d\x7d"
    let f : Item := { type := "function", name := some "f" }
    let ends := ["/**".toList, " */".toList]
    ∃ a, Artifact.read text = .ok a ∧ a.nonEmptyAbi? = some [f] ∧ ∃ c,
      ofAbi [f] ⟨"Token.json"⟩ a.documentation = .ok c ∧
      c.methods.map Method.commentRows = [ends] ∧
      ∃ dev user, Artifact.HasSections text dev user ∧
        f.shownLines ((devEntry dev f.signature).getD {})
          ((userEntry user f.signature).bind MethodUserDoc.text?) = [] := by
  intro text f ends
  let abi : Items := [f]
  apply exists_ok_of_map (fun a => (a.nonEmptyAbi?,
    (ofAbi abi ⟨"Token.json"⟩ a.documentation).toOption.map
      fun c => c.methods.map Method.commentRows)) (some abi, some [ends]) (by decide +kernel)
  intro a ha hdecoded
  obtain ⟨habi, hdocs⟩ := Prod.ext_iff.mp hdecoded
  refine ⟨habi, ?_⟩
  apply exists_ok_of_map (fun c => c.methods.map Method.commentRows) [ends] hdocs
  intro c hc hlist
  obtain ⟨dev, user, hsections, hmerged⟩ := Artifact.hasSections_of_read ha
  refine ⟨hlist, dev, user, hsections, ?_⟩
  have horder : functionsInOrder abi = abi := by decide +kernel
  rw [(methods_one_each hc).1, horder, hmerged] at hlist
  have hends := (List.cons.inj hlist).1
  rw [commentRows_methodOf] at hends
  split at hends
  · simp [ends] at hends
  · simpa [ends] using hends

end Contract

end ContractTypings
