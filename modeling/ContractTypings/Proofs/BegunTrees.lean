import ContractTypings.Proofs.NestedText

/-!
The trees of texts and of their beginnings: reading on only adds to a tree where it is cut off, and
what can be read on at all can be read on to the end of a whole text.
-/

namespace ContractTypings.Json

mutual

/-- A tree that goes on where another is cut off, and is the same before. -/
inductive Tree.Begins : Tree → Tree → Prop
  | broken (t : Tree) : Tree.Begins .broken t
  | null : Tree.Begins .null .null
  | bool (b : Bool) : Tree.Begins (.bool b) (.bool b)
  | number (n : Option Number) : Tree.Begins (.number n) (.number n)
  | string (s : Option String) : Tree.Begins (.string s) (.string s)
  | array {es es' : Elements} (h : Elements.Begins es es') : Tree.Begins (.array es) (.array es')
  | object {ms ms' : Members} (h : Members.Begins ms ms') : Tree.Begins (.object ms) (.object ms')

inductive Elements.Begins : Elements → Elements → Prop
  | cut (es : Elements) : Elements.Begins .cut es
  | closed : Elements.Begins .closed .closed
  | cons {t t' : Tree} {es es' : Elements} (ht : Tree.Begins t t') (h : Elements.Begins es es') :
    Elements.Begins (.cons t es) (.cons t' es')

inductive Members.Begins : Members → Members → Prop
  | cut (ms : Members) : Members.Begins .cut ms
  | closed : Members.Begins .closed .closed
  | cons {t t' : Tree} {ms ms' : Members} (key : Option String) (ht : Tree.Begins t t')
    (h : Members.Begins ms ms') : Members.Begins (.cons key t ms) (.cons key t' ms')

end

mutual

theorem Tree.Begins.refl : (t : Tree) → t.Begins t
  | .null => .null
  | .bool b => .bool b
  | .number n => .number n
  | .string s => .string s
  | .array es => .array (Elements.Begins.refl es)
  | .object ms => .object (Members.Begins.refl ms)
  | .broken => .broken _

theorem Elements.Begins.refl : (es : Elements) → es.Begins es
  | .closed => .closed
  | .cut => .cut _
  | .cons t es => .cons (Tree.Begins.refl t) (Elements.Begins.refl es)

theorem Members.Begins.refl : (ms : Members) → ms.Begins ms
  | .closed => .closed
  | .cut => .cut _
  | .cons key t ms => .cons key (Tree.Begins.refl t) (Members.Begins.refl ms)

end

mutual

theorem Tree.Begins.eq_of_isWhole : (t : Tree) → {t' : Tree} → t.Begins t' → t.isWhole = true →
    t' = t
  | .null, _, .null, _ => rfl
  | .bool _, _, .bool _, _ => rfl
  | .number _, _, .number _, _ => rfl
  | .string _, _, .string _, _ => rfl
  | .array es, _, .array h, hw => congrArg Tree.array (Elements.Begins.eq_of_isWhole es h hw)
  | .object ms, _, .object h, hw => congrArg Tree.object (Members.Begins.eq_of_isWhole ms h hw)
  | .broken, _, _, hw => by cases hw

theorem Elements.Begins.eq_of_isWhole : (es : Elements) → {es' : Elements} → es.Begins es' →
    es.isWhole = true → es' = es
  | .closed, _, .closed, _ => rfl
  | .cut, _, _, hw => by cases hw
  | .cons t es, _, .cons ht h, hw => by
    obtain ⟨hwt, hwes⟩ := (Bool.and_eq_true _ _).mp hw
    rw [Tree.Begins.eq_of_isWhole t ht hwt, Elements.Begins.eq_of_isWhole es h hwes]

theorem Members.Begins.eq_of_isWhole : (ms : Members) → {ms' : Members} → ms.Begins ms' →
    ms.isWhole = true → ms' = ms
  | .closed, _, .closed, _ => rfl
  | .cut, _, _, hw => by cases hw
  | .cons _ t ms, _, .cons _ ht h, hw => by
    obtain ⟨hwt, hwms⟩ := (Bool.and_eq_true _ _).mp hw
    rw [Tree.Begins.eq_of_isWhole t ht hwt, Members.Begins.eq_of_isWhole ms h hwms]

end

theorem Elements.Begins.prepend {es es' : Elements} (ts : List Tree) (h : es.Begins es') :
    (Elements.prepend ts es).Begins (Elements.prepend ts es') := by
  induction ts generalizing es es' with
  | nil => exact h
  | cons t ts ih => exact ih (.cons (Tree.Begins.refl t) h)

theorem Members.Begins.prepend {ms ms' : Members} (ns : List (Option String × Tree))
    (h : ms.Begins ms') : (Members.prepend ns ms).Begins (Members.prepend ns ms') := by
  induction ns generalizing ms ms' with
  | nil => exact h
  | cons n ns ih =>
    obtain ⟨key, t⟩ := n
    exact ih (.cons key (Tree.Begins.refl t) h)

namespace Frame

theorem begins_cutAll {t t' : Tree} (frames : List Frame) (h : t.Begins t') :
    (cutAll frames t).Begins (cutAll frames t') := by
  induction frames generalizing t t' with
  | nil => exact h
  | cons frame frames ih =>
    cases frame with
    | array es => exact ih (.array (.prepend es (.cons h (.cut _))))
    | object ms key => exact ih (.object (.prepend ms (.cons key h (.cut _))))

def isSound : Frame → Bool
  | .array elements => elements.all Tree.isWhole
  | .object members _ => members.all fun m => m.2.isWhole

end Frame

namespace Reading

open ContractTypings.Json.Frame

theorem begins_atValue (frames : List Frame) (first : Bool) (t : Tree) :
    (atValue frames first).cut.Begins (cutAll frames t) := by
  rcases frames with _ | ⟨_ | _, frames⟩
  · exact .broken t
  · exact begins_cutAll frames (.array (.prepend _ (.cut _)))
  · exact begins_cutAll _ (.broken t)

theorem begins_step (r : Reading) (token : Token) : r.cut.Begins (r.step token).cut := by
  fun_cases step r token
  -- tokens that leave the tree as it is, then those that begin a value
  all_goals try exact Tree.Begins.refl _
  all_goals try exact begins_atValue _ _ _
  case case7 elements frames =>
    exact begins_cutAll frames (.array (.prepend elements (.cut _)))
  case case8 frames members _ key =>
    exact begins_cutAll frames (.object (.prepend members (.cut _)))
  case case9 frames members =>
    exact begins_cutAll frames (.object (.prepend members (.cut _)))
  case case12 elements frames t =>
    exact begins_cutAll frames (.array (.prepend elements (.cons (Tree.Begins.refl t) (.cut _))))
  case case14 members key frames t =>
    exact begins_cutAll frames
      (.object (.prepend members (.cons key (Tree.Begins.refl t) (.cut _))))

def isOpen : Reading → Bool
  | .atValue frames _ => frames.all isSound
  | .atKey frames members _ | .atColon frames members _ =>
    frames.all isSound && members.all fun m => m.2.isWhole
  | .afterValue frames value => frames.all isSound && value.isWhole
  | .fault _ | .trailing _ => false

theorem foldl_of_isStopped {r : Reading} (h : r.isStopped = true) (ts : List Token) :
    ts.foldl step r = r := by
  induction ts with
  | nil => rfl
  | cons token ts ih =>
    cases r with
    | fault t => exact ih
    | trailing t => exact ih
    | _ => cases h

theorem isOpen_step {r : Reading} (h : r.isOpen = true) (token : Token) :
    (r.step token).isOpen = true ∨
      (r.step token).isStopped = true ∧ (r.step token).cut = r.cut := by
  fun_cases step r token
  -- the reading stops after the last value, and where there is no place for the token
  case case15 => exact .inr ⟨rfl, rfl⟩
  case case16 => cases h
  case case17 => exact .inr ⟨rfl, rfl⟩
  all_goals
    left
    simp_all only [isOpen, isSound, List.all_cons, List.all_nil, Tree.isWhole,
      Elements.isWhole_prepend, Members.isWhole_prepend, Elements.isWhole, Members.isWhole,
      Bool.and_eq_true, and_self]

theorem exists_open_beginning {r : Reading} (h : r.isOpen = true) (ts : List Token) :
    ∃ beginning rest, ts = beginning ++ rest ∧ (beginning.foldl step r).isOpen = true ∧
      (beginning.foldl step r).cut = (ts.foldl step r).cut := by
  induction ts generalizing r with
  | nil => exact ⟨[], [], rfl, h, rfl⟩
  | cons token ts ih =>
    rcases isOpen_step h token with hopen | ⟨hstop, hcut⟩
    · obtain ⟨beginning, rest, rfl, ho, hc⟩ := ih hopen
      exact ⟨token :: beginning, rest, rfl, ho, hc⟩
    · refine ⟨[], token :: ts, rfl, h, ?_⟩
      rw [List.foldl_cons, foldl_of_isStopped hstop, hcut]
      rfl

def CanEnd (r : Reading) : Prop :=
  ∃ (rest : List Token) (w : Tree), rest.foldl step r = .afterValue [] w ∧ w.isWhole = true

theorem CanEnd.of_step {r : Reading} (token : Token) : (r.step token).CanEnd → r.CanEnd
  | ⟨rest, w, h, hw⟩ => ⟨token :: rest, w, h, hw⟩

theorem canEnd_afterValue {t : Tree} {frames : List Frame} (ht : t.isWhole = true)
    (hf : frames.all isSound = true) : (afterValue frames t).CanEnd := by
  induction frames generalizing t with
  | nil => exact ⟨[], t, rfl, ht⟩
  | cons frame frames ih =>
    obtain ⟨hframe, hfs⟩ := Bool.and_eq_true_iff.mp hf
    cases frame with
    | array es =>
      apply CanEnd.of_step .closeArray
      refine ih ?_ hfs
      rw [Tree.isWhole, Elements.isWhole_prepend, Elements.isWhole, ht]
      exact Bool.and_eq_true_iff.mpr ⟨hframe, rfl⟩
    | object ms key =>
      apply CanEnd.of_step .closeObject
      refine ih ?_ hfs
      rw [Tree.isWhole, Members.isWhole_prepend, Members.isWhole, ht]
      exact Bool.and_eq_true_iff.mpr ⟨hframe, rfl⟩

theorem canEnd_atValue {frames : List Frame} (first : Bool) (hf : frames.all isSound = true) :
    (atValue frames first).CanEnd :=
  .of_step .null (canEnd_afterValue rfl hf)

theorem canEnd_atColon {frames : List Frame} {members : List (Option String × Tree)}
    (key : Option String) (h : (atColon frames members key).isOpen = true) :
    (atColon frames members key).CanEnd := by
  obtain ⟨hf, hm⟩ := Bool.and_eq_true_iff.mp h
  exact .of_step .colon (canEnd_atValue false (Bool.and_eq_true_iff.mpr ⟨hm, hf⟩))

theorem canEnd_of_isOpen {r : Reading} (h : r.isOpen = true) : r.CanEnd := by
  cases r with
  | atValue frames first => exact canEnd_atValue first h
  | atKey frames members first => exact .of_step (.string (some "")) (canEnd_atColon (some "") h)
  | atColon frames members key => exact canEnd_atColon key h
  | afterValue frames t =>
    obtain ⟨hf, ht⟩ := Bool.and_eq_true_iff.mp h
    exact canEnd_afterValue ht hf
  | fault t => cases h
  | trailing t => cases h

end Reading

namespace Document

open Reading

theorem tree_ofReading (r : Reading) : (ofReading r).tree = r.cut := by cases r <;> rfl

theorem tree_ofTokens (ts : List Token) :
    (ofTokens ts).tree = (ts.foldl step (.atValue [] false)).cut := tree_ofReading _

theorem exists_beginning (ts : List Token) : ∃ beginning, beginning <+: ts ∧
    (ofTokens beginning).tree = (ofTokens ts).tree ∧
    ∃ rest, (ofTokens (beginning ++ rest)).isWhole = true := by
  have hstart : (atValue [] false).isOpen = true := rfl
  obtain ⟨beginning, rest, rfl, hopen, hcut⟩ := exists_open_beginning hstart ts
  obtain ⟨ending, w, he, hw⟩ := canEnd_of_isOpen hopen
  refine ⟨beginning, List.prefix_append _ _, ?_, ending, ?_⟩
  · rw [tree_ofTokens, tree_ofTokens, hcut]
  · rw [ofTokens, List.foldl_append, he]
    exact (Bool.and_eq_true _ _).mpr ⟨hw, rfl⟩

end Document

end ContractTypings.Json
