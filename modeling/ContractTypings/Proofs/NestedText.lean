import ContractTypings.Json.Tree
import ContractTypings.Proofs.TokenText

namespace ContractTypings.Json

theorem Elements.isWhole_prepend (ts : List Tree) (rest : Elements) :
    (Elements.prepend ts rest).isWhole = (ts.all Tree.isWhole && rest.isWhole) := by
  induction ts generalizing rest with
  | nil => rfl
  | cons t ts ih =>
    rw [Elements.prepend, ih, Elements.isWhole, List.all_cons]
    cases t.isWhole <;> simp

theorem Members.isWhole_prepend (ms : List (Option String × Tree)) (rest : Members) :
    (Members.prepend ms rest).isWhole = (ms.all (fun m => m.2.isWhole) && rest.isWhole) := by
  induction ms generalizing rest with
  | nil => rfl
  | cons m ms ih =>
    obtain ⟨key, value⟩ := m
    rw [Members.prepend, ih, Members.isWhole, List.all_cons]
    cases value.isWhole <;> simp

theorem Frame.isWhole_cutAll {frames : List Frame} {t : Tree}
    (h : (Frame.cutAll frames t).isWhole = true) : frames = [] ∧ t.isWhole = true := by
  have hcons : ∀ (f : Frame) (frames : List Frame) (t : Tree),
      (Frame.cutAll (f :: frames) t).isWhole = false := by
    intro f frames
    induction frames generalizing f with
    | nil =>
      intro t
      cases f with
      | array es => simp [Frame.cutAll, Tree.isWhole, Elements.isWhole_prepend, Elements.isWhole]
      | object ms key =>
        simp [Frame.cutAll, Tree.isWhole, Members.isWhole_prepend, Members.isWhole]
    | cons g frames ih =>
      intro t
      cases f with
      | array es => exact ih g _
      | object ms key => exact ih g _
  cases frames with
  | nil => exact ⟨rfl, h⟩
  | cons f frames =>
    rw [hcons] at h
    cases h

namespace Reading

def isStopped : Reading → Bool
  | .fault _ | .trailing _ => true
  | _ => false

def under (outer : List Frame) : Reading → Reading
  | .atValue frames first => .atValue (frames ++ outer) first
  | .atKey frames members first => .atKey (frames ++ outer) members first
  | .atColon frames members key => .atColon (frames ++ outer) members key
  | .afterValue frames value => .afterValue (frames ++ outer) value
  | .fault tree => .fault tree
  | .trailing tree => .trailing tree

variable {r : Reading} {t : Token} {ts : List Token} {v : Tree}

theorem isStopped_step (h : r.isStopped = true) : (r.step t).isStopped = true := by
  cases r
  case fault tree => rfl
  case trailing tree => rfl
  all_goals cases h

theorem isStopped_foldl (h : r.isStopped = true) : (ts.foldl step r).isStopped = true := by
  induction ts generalizing r with
  | nil => exact h
  | cons t ts ih => exact ih (isStopped_step h)

theorem isStopped_step_eq_false (h : (t :: ts).foldl step r = .afterValue [] v) :
    (r.step t).isStopped = false := by
  cases hs : (r.step t).isStopped with
  | false => rfl
  | true =>
    have hfold : (ts.foldl step (r.step t)).isStopped = true := isStopped_foldl hs
    rw [← List.foldl_cons, h] at hfold
    cases hfold

theorem step_under (outer : List Frame) (h : (r.step t).isStopped = false) :
    (r.under outer).step t = (r.step t).under outer := by
  revert h
  fun_cases step r t
  case case15 =>
    intro h
    cases h
  case case17 =>
    intro h
    cases h
  all_goals exact fun _ => rfl

theorem foldl_under (outer : List Frame) (h : ts.foldl step r = .afterValue [] v) :
    ts.foldl step (r.under outer) = .afterValue outer v := by
  induction ts generalizing r with
  | nil =>
    obtain rfl : r = .afterValue [] v := h
    rfl
  | cons t ts ih =>
    rw [List.foldl_cons, step_under outer (isStopped_step_eq_false h)]
    exact ih h

theorem isStopped_broken (r : Reading) : (r.step .broken).isStopped = true := by
  generalize ht : Token.broken = t
  revert ht
  fun_cases step r t
  case case15 => exact fun _ => rfl
  case case16 => exact fun _ => rfl
  case case17 => exact fun _ => rfl
  all_goals
    intro ht
    cases ht

theorem broken_not_mem (h : ts.foldl step r = .afterValue [] v) : .broken ∉ ts := by
  induction ts generalizing r with
  | nil => exact List.not_mem_nil
  | cons t ts ih =>
    have hstep := isStopped_step_eq_false h
    rw [List.mem_cons, not_or]
    refine ⟨?_, ih h⟩
    rintro rfl
    rw [isStopped_broken] at hstep
    cases hstep

theorem value_of_step_number {n : Option Number} (h : r.step (.number n) = .afterValue [] v) :
    v = .number n := by
  generalize ht : Token.number n = t at h
  revert ht h
  fun_cases step r t
  case case3 =>
    intro ht h
    cases ht
    cases h
    rfl
  case case15 => exact fun _ h => nomatch h
  case case16 => exact fun _ h => nomatch h
  case case17 => exact fun _ h => nomatch h
  all_goals
    intro ht
    cases ht

theorem getLast?_ne_number (h : ts.foldl step r = .afterValue [] v) (hv : ∀ n, v ≠ .number n)
    (n : Option Number) : ts.getLast? ≠ some (.number n) := by
  intro hlast
  obtain ⟨before, rfl⟩ := List.getLast?_eq_some_iff.mp hlast
  rw [List.foldl_append] at h
  exact hv n (value_of_step_number h)

theorem eq_afterValue_of_isWhole_cut (hr : r.isStopped = false) (h : r.cut.isWhole = true) :
    r = .afterValue [] r.cut := by
  have harray : ∀ ts rest, rest.isWhole = false →
      (Tree.array (Elements.prepend ts rest)).isWhole = false := by
    intro ts rest hrest
    rw [Tree.isWhole, Elements.isWhole_prepend, hrest, Bool.and_false]
  have hobject : ∀ ms rest, rest.isWhole = false →
      (Tree.object (Members.prepend ms rest)).isWhole = false := by
    intro ms rest hrest
    rw [Tree.isWhole, Members.isWhole_prepend, hrest, Bool.and_false]
  have hcut : ∀ {frames : List Frame} {t : Tree}, t.isWhole = false →
      (Frame.cutAll frames t).isWhole ≠ true := by
    intro frames t ht hw
    rw [(Frame.isWhole_cutAll hw).2] at ht
    cases ht
  revert h
  fun_cases cut r
  case case1 => exact fun h => absurd h (hcut (harray _ _ rfl))
  case case2 => exact fun h => absurd h (hcut rfl)
  case case3 => exact fun h => absurd h (hcut (hobject _ _ rfl))
  case case4 => exact fun h => absurd h (hcut (hobject _ _ rfl))
  case case5 =>
    intro h
    rw [(Frame.isWhole_cutAll h).1]
    rfl
  case case6 => cases hr
  case case7 => cases hr

def ShowsFault : Reading → Prop
  | .fault tree => tree.isWhole = false
  | _ => True

theorem showsFault_step (h : r.ShowsFault) : (r.step t).ShowsFault := by
  fun_cases step r t
  case case17 hv ht _ _ _ _ _ _ _ _ _ _ _ _ _ _ =>
    cases r with
    | fault tree => exact h
    | trailing tree => exact absurd rfl (ht tree)
    | _ =>
      rw [ShowsFault, Bool.eq_false_iff]
      intro hw
      exact hv _ (eq_afterValue_of_isWhole_cut rfl hw)
  all_goals trivial

theorem showsFault_foldl (h : r.ShowsFault) : (ts.foldl step r).ShowsFault := by
  induction ts generalizing r with
  | nil => exact h
  | cons t ts ih => exact ih (showsFault_step h)

end Reading

namespace Document

theorem foldl_of_isWhole {ts : List Token} (h : (ofTokens ts).isWhole = true) :
    ts.foldl Reading.step (.atValue [] false) = .afterValue [] (ofTokens ts).tree := by
  have hfault : (ts.foldl Reading.step (.atValue [] false)).ShowsFault :=
    Reading.showsFault_foldl trivial
  unfold ofTokens at h ⊢
  generalize ts.foldl Reading.step (.atValue [] false) = r at hfault h ⊢
  obtain ⟨hw, hended⟩ := Bool.and_eq_true_iff.mp h
  cases r with
  | fault tree =>
    have htree : tree.isWhole = true := hw
    rw [show tree.isWhole = false from hfault] at htree
    cases htree
  | trailing tree => cases hended
  | _ => exact Reading.eq_afterValue_of_isWhole_cut rfl hw

end Document

def memberText (key value : String) : String := "\x7b\"" ++ key ++ "\":" ++ value ++ "\x7d"

def isBare (c : Char) : Bool := c != '"' && c != '\\' && decide (32 ≤ c.toNat)

theorem pieces?_key {found : List Piece} {key rest : List Char} (h : key.all isBare = true) :
    pieces? found (key ++ '"' :: rest) = some (found.reverse ++ key.map .char, rest) := by
  induction key generalizing found with
  | nil => simp [pieces?]
  | cons c key ih =>
    rw [List.all_cons, Bool.and_eq_true] at h
    obtain ⟨hc, hkey⟩ := h
    simp only [isBare, Bool.and_eq_true, bne_iff_ne, decide_eq_true_eq] at hc
    obtain ⟨⟨hq, hb⟩, hcode⟩ := hc
    rw [List.cons_append, pieces?_bare hq hb (Nat.not_lt.mpr hcode), ih hkey]
    simp

theorem join?_char (found cs : List Char) :
    join? found (cs.map .char) = some (found.reverse ++ cs) := by
  induction cs generalizing found with
  | nil => simp [join?]
  | cons c cs ih => simp [join?, ih]

theorem first_key {key rest : List Char} (h : key.all isBare = true) :
    Token.first ('"' :: (key ++ '"' :: rest)) = (.string (some (String.ofList key)), rest) := by
  rw [Token.first, pieces?_key h, List.reverse_nil, List.nil_append]
  simp [Token.ofParts?, join?_char]

theorem tokens_memberText {key text : String} (hk : key.toList.all isBare = true)
    (hb : .broken ∉ tokens text.toList)
    (hn : ∀ n, (tokens text.toList).getLast? ≠ some (.number n)) :
    tokens (memberText key text).toList =
      .openObject :: .string (some key) :: .colon :: (tokens text.toList ++ [.closeObject]) := by
  have hchars : (memberText key text).toList =
      '\x7b' :: '"' :: (key.toList ++ '"' :: ':' :: (text.toList ++ ['\x7d'])) := by
    simp [memberText]
  have hclose : tokens ['\x7d'] = [.closeObject] := by
    rw [tokens_closeObject, tokens_of_space rfl]
  have hstring : Token.first ('"' :: (key.toList ++ '"' :: ':' :: (text.toList ++ ['\x7d']))) =
      (.string (some (String.ofList key.toList)), ':' :: (text.toList ++ ['\x7d'])) :=
    first_key hk
  rw [String.ofList_toList] at hstring
  rw [hchars, tokens_openObject, tokens_cons rfl hstring, tokens_colon,
    tokens_append hb (.inl hn), hclose]

theorem Document.ofText_memberText {key text : String} (hk : key.toList.all isBare = true)
    (hw : (Document.ofText text).isWhole = true)
    (hn : ∀ n, (Document.ofText text).tree ≠ .number n) :
    Document.ofText (memberText key text) =
      ⟨.object (.cons (some key) (Document.ofText text).tree .closed), true⟩ := by
  have hfold := foldl_of_isWhole hw
  have htokens := tokens_memberText hk (Reading.broken_not_mem hfold)
    (Reading.getLast?_ne_number hfold hn)
  have hinner := Reading.foldl_under [.object [] (some key)] hfold
  have hreading : (tokens (memberText key text).toList).foldl Reading.step (.atValue [] false) =
      .afterValue [] (.object (.cons (some key) (Document.ofText text).tree .closed)) := by
    rw [htokens]
    change ((tokens text.toList ++ [Token.closeObject]).foldl Reading.step
      (.atValue [.object [] (some key)] false)) = _
    rw [List.foldl_append]
    exact congrArg (Reading.step · .closeObject) hinner
  rw [ofText, ofTokens, hreading]
  rfl

end ContractTypings.Json
