import ContractTypings.Proofs.DecisiveValues
import ContractTypings.Proofs.DictionaryEntries
import ContractTypings.Proofs.MethodKeys

namespace ContractTypings

open Abi Json Decoder Natspec TypeScript

namespace Natspec

def devEntry (dev : Option DevDoc) (signature : String) : Option MethodDevDoc :=
  dev.bind fun d => d.methods.get? signature

def userEntry (user : Option UserDoc) (signature : String) : Option MethodUserDoc :=
  user.bind fun u => u.methods.get? signature

theorem get?_ofDev (d : DevDoc) (signature : String) :
    (Dictionary.ofList (d.methods.entries.map fun e => (e.1, FunctionDoc.ofDevDoc e.2))).get?
        signature = (d.methods.get? signature).map FunctionDoc.ofDevDoc := by
  have hstep (m : Dictionary FunctionDoc) (e : String × MethodDevDoc) (k : String) :
      (m.insert e.1 (FunctionDoc.ofDevDoc e.2)).get? k =
        if e.1 = k then some (FunctionDoc.ofDevDoc e.2) else m.get? k :=
    Dictionary.get?_insert m _ _ _
  rw [Dictionary.ofList, List.foldl_map,
    Dictionary.get?_foldl (fun _ m => FunctionDoc.ofDevDoc m) hstep]
  cases d.methods.get? signature with
  | none => rfl
  | some m => rfl

theorem get?_foldl_addNotice (u : UserDoc) (methods : Dictionary FunctionDoc) (signature : String) :
    (u.methods.entries.foldl addNotice methods).get? signature =
      (u.methods.get? signature).elim (methods.get? signature) fun m =>
        some { (methods.get? signature).getD {} with notice := m.text? } := by
  have hstep (m : Dictionary FunctionDoc) (e : String × MethodUserDoc) (k : String) :
      (addNotice m e).get? k =
        if e.1 = k then some { (m.get? k).getD {} with notice := e.2.text? } else m.get? k := by
    rw [addNotice, Dictionary.get?_insert]
    by_cases hk : e.1 = k
    · rw [if_pos hk, if_pos hk, hk]
    · rw [if_neg hk, if_neg hk]
  exact Dictionary.get?_foldl (fun (before : Option FunctionDoc) (m : MethodUserDoc) =>
    { before.getD {} with notice := m.text? }) hstep _ _ _

theorem function?_merge? (dev : Option DevDoc) (user : Option UserDoc) (signature : String) :
    ((Documentation.merge? dev user).bind fun docs => docs.function? signature).getD {} =
      { FunctionDoc.ofDevDoc ((devEntry dev signature).getD {}) with
        notice := (userEntry user signature).bind MethodUserDoc.text? } := by
  have hmerged (d : DevDoc) (u : UserDoc) :
      ((u.methods.entries.foldl addNotice (.ofList (d.methods.entries.map fun e =>
        (e.1, FunctionDoc.ofDevDoc e.2)))).get? signature).getD {} =
      { FunctionDoc.ofDevDoc ((d.methods.get? signature).getD {}) with
        notice := (u.methods.get? signature).bind MethodUserDoc.text? } := by
    rw [get?_foldl_addNotice, get?_ofDev]
    cases d.methods.get? signature <;> cases u.methods.get? signature <;> rfl
  cases dev with
  | none =>
    cases user with
    | none => rfl
    | some u => exact hmerged {} u
  | some d =>
    cases user with
    | none => exact hmerged d {}
    | some u => exact hmerged d u

end Natspec

def commentTexts (dev : MethodDevDoc) (notice : Option String) (params : List (String × String)) :
    List String :=
  dev.details.toList ++ notice.toList ++
    params.map (fun e => "@param " ++ e.1 ++ " " ++ e.2) ++
    (dev.legacyReturn.toList ++ dev.returns.values).map fun text => "@returns " ++ text

theorem docTexts_eq (dev : MethodDevDoc) (notice : Option String) (inputs : List Param) :
    docTexts { FunctionDoc.ofDevDoc dev with notice } inputs =
      commentTexts dev notice (dev.params.entriesUnder (inputs.filterMap Param.name ++
        dev.params.keys.filter fun n => !(inputs.filterMap Param.name).contains n)) := by
  rw [docTexts, documentedNames, commentTexts, Dictionary.entriesUnder, List.map_filterMap]
  simp only [Option.map_map]
  rfl

theorem docTexts_of_isEmpty {doc : FunctionDoc} (h : doc.isEmpty = true) (inputs : List Param) :
    docTexts doc inputs = [] := by
  obtain ⟨details, notice, params, returns⟩ := doc
  obtain ⟨entries, hs⟩ := params
  simp only [FunctionDoc.isEmpty, Dictionary.isEmpty, Bool.and_eq_true, Option.isNone_iff_eq_none,
    List.isEmpty_iff] at h
  obtain ⟨⟨⟨rfl, rfl⟩, rfl⟩, rfl⟩ := h
  simp [docTexts, Dictionary.get?]

theorem doc_method (docs : Option Documentation) (i : Item) (overloaded : Bool) :
    ((Function.ofItem docs i).method overloaded).doc =
      DocComment.of? (docTexts ((docs.bind fun d => d.function? i.signature).getD {})
        (Param.ofComponents i.inputs)) := by
  change ((docs.bind fun d => d.function? i.signature).filter (!·.isEmpty)).bind
    (fun doc => DocComment.of? (docTexts doc (Param.ofComponents i.inputs))) = _
  cases docs.bind fun d => d.function? i.signature with
  | none =>
    rw [Option.getD_none, docTexts_of_isEmpty rfl]
    rfl
  | some doc =>
    -- a documentation without texts makes no comment, whether it is kept or not
    rw [Option.filter_some, Option.getD_some]
    by_cases he : doc.isEmpty = true
    · rw [docTexts_of_isEmpty he, he]
      rfl
    · rw [Bool.eq_false_iff.mpr he]
      rfl

theorem TypeScript.DocComment.of?_eq (texts : List String) :
    DocComment.of? texts = if texts = [] then none else some ⟨texts⟩ := by
  cases texts with
  | nil => rfl
  | cons t ts => rfl

def Abi.Item.inputNames (i : Item) : List String := (i.inputs.map Component.name).filter (· ≠ "")

theorem names_ofComponents (cs : List Component) :
    (Param.ofComponents cs).filterMap Param.name =
      (cs.map Component.name).filter (· ≠ "") := by
  induction cs with
  | nil => simp [Param.ofComponents]
  | cons c cs ih =>
    obtain ⟨internalType, name, type, components, indexed⟩ := c
    rw [Param.ofComponents, Param.ofComponent, List.filterMap_cons, ih, List.map_cons,
      List.filter_cons]
    by_cases hn : name = "" <;> simp [hn]

def Abi.Item.documentedParams (i : Item) (params : Dictionary String) : List (String × String) :=
  params.entriesUnder (i.inputNames ++ params.keys.filter fun name => !i.inputNames.contains name)

def Abi.Item.saidTexts (i : Item) (dev : MethodDevDoc) (notice : Option String) : List String :=
  commentTexts dev notice (i.documentedParams dev.params)

namespace Artifact

def HasSections (text : String) (dev : Option DevDoc) (user : Option UserDoc) : Prop :=
  match (Document.ofText text).tree.members? with
  | some ms =>
    LastRead (optional DevDoc.decoder .text (maxNesting - 1)) none (ms.last? "devdoc") dev ∧
      LastRead (optional UserDoc.decoder .text (maxNesting - 1)) none (ms.last? "userdoc") user
  | none => dev = none ∧ user = none

theorem documentation_of_not_object {t : Tree} (ht : t.members? = none) {room : Nat} {a : Artifact}
    (h : decoder .text room t = .ok a) : a.documentation = none := by
  unfold decoder at h
  split at h
  · obtain ⟨items, -, rfl⟩ := map_eq_ok_iff.mp h
    rfl
  · cases ht
  · cases ht
  · obtain ⟨v, -, rfl⟩ := map_eq_ok_iff.mp h
    rfl

theorem hasSections_of_read {text : String} {a : Artifact} (h : read text = .ok a) :
    ∃ dev user, HasSections text dev user ∧ a.documentation = Documentation.merge? dev user := by
  unfold HasSections
  cases ht : (Document.ofText text).tree.members? with
  | some ms =>
    obtain ⟨s, hs, rfl⟩ := readFrom_of_read (Tree.eq_object_of_members? ht) h
    exact ⟨s.devDoc, s.userDoc, ⟨hs.devDoc, hs.userDoc⟩, rfl⟩
  | none =>
    obtain ⟨a', ha', h⟩ := bind_eq_ok_iff.mp h
    split at h
    · obtain rfl := Except.ok.inj h
      exact ⟨none, none, ⟨rfl, rfl⟩, documentation_of_not_object ht ha'⟩
    · cases h

end Artifact

namespace Contract

theorem doc_methodOf (dev : Option DevDoc) (user : Option UserDoc) (functions : Items) (i : Item) :
    (methodOf (Documentation.merge? dev user) functions i).doc = DocComment.of?
      (i.saidTexts ((devEntry dev i.signature).getD {})
        ((userEntry user i.signature).bind MethodUserDoc.text?)) := by
  rw [methodOf, doc_method, function?_merge?, docTexts_eq, names_ofComponents]
  rfl

section

variable {dev dev' : Option DevDoc} {user user' : Option UserDoc} {i : Item} {functions : Items}

theorem exists_commentTexts (hn : i.inputNames.Nodup) :
    ∃ params, Dictionary.IsArranged i.inputNames
        ((devEntry dev i.signature).getD {}).params params ∧
      (methodOf (Documentation.merge? dev user) functions i).doc =
        DocComment.of? (commentTexts ((devEntry dev i.signature).getD {})
          ((userEntry user i.signature).bind MethodUserDoc.text?) params) := by
  exact ⟨_, Dictionary.isArranged_entriesUnder hn _, doc_methodOf dev user functions i⟩

theorem methodOf_congr (hd : devEntry dev' i.signature = devEntry dev i.signature)
    (hu : userEntry user' i.signature = userEntry user i.signature) :
    methodOf (Documentation.merge? dev' user') functions i =
      methodOf (Documentation.merge? dev user) functions i := by
  have hdoc : (methodOf (Documentation.merge? dev' user') functions i).doc =
      (methodOf (Documentation.merge? dev user) functions i).doc := by
    rw [doc_methodOf, doc_methodOf, hd, hu]
  calc methodOf (Documentation.merge? dev' user') functions i
    _ = { methodOf none functions i with
          doc := (methodOf (Documentation.merge? dev' user') functions i).doc } := rfl
    _ = methodOf (Documentation.merge? dev user) functions i := by
      rw [hdoc]
      rfl

end

/-- The functions of an accepted contract are commented with what the documentation of the artifact
says under their signatures, first the details, then the notice, then all parameters, those that the
function has in the order of its inputs, and then what it returns. A function of which nothing is
said has no comment, and none depends on what is said under another signature. -/
theorem doc_texts {text : String} {a : Artifact} {abi : Items} {path : Path} {c : Contract}
    (hr : Artifact.read text = .ok a) (h : Contract.ofAbi abi path a.documentation = .ok c) :
    let functions := itemsOfType "function" abi
    ∃ dev user, Artifact.HasSections text dev user ∧
      c.methods = (functionsInOrder abi).map (methodOf a.documentation functions) ∧
      ∀ i ∈ functions,
        (i.inputNames.Nodup → ∃ params,
          Dictionary.IsArranged i.inputNames ((devEntry dev i.signature).getD {}).params params ∧
          let texts := commentTexts ((devEntry dev i.signature).getD {})
            ((userEntry user i.signature).bind MethodUserDoc.text?) params
          (methodOf a.documentation functions i).doc =
            if texts = [] then none else some ⟨texts⟩) ∧
        ∀ dev' user', devEntry dev' i.signature = devEntry dev i.signature →
          userEntry user' i.signature = userEntry user i.signature →
          methodOf (Documentation.merge? dev' user') functions i =
            methodOf a.documentation functions i := by
  intro functions
  obtain ⟨dev, user, hsections, hdocs⟩ := Artifact.hasSections_of_read hr
  refine ⟨dev, user, hsections, (methods_one_each h).1, ?_⟩
  rw [hdocs]
  intro i _
  refine ⟨?_, fun dev' user' => methodOf_congr⟩
  intro hn
  obtain ⟨params, harranged, hdoc⟩ := exists_commentTexts hn
  exact ⟨params, harranged, hdoc.trans (DocComment.of?_eq _)⟩

theorem doc_texts_token :
    let text := "\x7b\"devdoc\":\x7b\"methods\":\x7b\"f(bool,bool,bool)\":\x7b\"params\":" ++
      "\x7b\"a\":\"A\",\"old\":\"O\",\"b\":\"B\"\x7d,\"return\":\"R\"\x7d,\"g()\":" ++
      "\x7b\"details\":\"G\"\x7d\x7d\x7d," ++
      "\"userdoc\":\x7b\"methods\":\x7b\"f(bool,bool,bool)\":\"N\"\x7d\x7d\x7d"
    let f : Item := { type := "function", name := some "f", inputs := [
      { name := "b", type := "bool" }, { type := "bool" }, { name := "a", type := "bool" }] }
    let said := ["N", "@param b B", "@param a A", "@param old O", "@returns R"]
    ∃ a, Artifact.read text = .ok a ∧ ∃ c,
      ofAbi [f, { type := "function", name := some "h" }] ⟨"Token.json"⟩ a.documentation = .ok c ∧
      c.methods.map (·.doc) = [some ⟨said⟩, none] ∧
      ∃ dev user params, Artifact.HasSections text dev user ∧
        Dictionary.IsArranged ["b", "a"] ((devEntry dev f.signature).getD {}).params params ∧
        commentTexts ((devEntry dev f.signature).getD {})
          ((userEntry user f.signature).bind MethodUserDoc.text?) params = said := by
  intro text f said
  let abi : Items := [f, { type := "function", name := some "h" }]
  apply exists_ok_of_map (fun a => (ofAbi abi ⟨"Token.json"⟩ a.documentation).toOption.map
    fun c => c.methods.map (·.doc)) (some [some ⟨said⟩, none]) (by decide +kernel)
  intro a ha hdocs
  apply exists_ok_of_map (fun c => c.methods.map (·.doc)) [some ⟨said⟩, none] hdocs
  intro c hc hlist
  obtain ⟨dev, user, hsections, hmethods, hall⟩ := doc_texts ha hc
  obtain ⟨params, harranged, hdoc⟩ := (hall f (by decide)).1 (by decide)
  refine ⟨hlist, dev, user, params, hsections, harranged, ?_⟩
  have horder : functionsInOrder abi = abi := by decide +kernel
  have hf : (methodOf a.documentation (itemsOfType "function" abi) f).doc = some ⟨said⟩ := by
    rw [hmethods, horder] at hlist
    exact (List.cons.inj hlist).1
  rw [hdoc] at hf
  split at hf
  · cases hf
  · exact congrArg DocComment.texts (Option.some.inj hf)

end Contract

end ContractTypings
