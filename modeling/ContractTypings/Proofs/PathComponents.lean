import ContractTypings.Path
import ContractTypings.Proofs.TextParts
import Mathlib.Data.List.Basic
import Mathlib.Tactic.Common

namespace ContractTypings.Path

abbrev parts (segments : List (List Char)) : List Component := segments.filterMap component?

theorem parts_append (ss ts : List (List Char)) : parts (ss ++ ts) = parts ss ++ parts ts :=
  List.filterMap_append

def leadOf : List (List Char) → List Component
  | [] :: _ :: _ => [.root]
  | ['.'] :: _ => [.here]
  | _ => []

theorem mem_segments {s : String} {segment : List Char} (h : segment ∈ segments s) :
    '/' ∉ segment :=
  not_mem_of_mem_splitOn h

theorem segments_ne_nil (s : String) : segments s ≠ [] := List.splitOn_ne_nil _ _

theorem segments_eq_singleton {s : String} (h : '/' ∉ s.toList) : segments s = [s.toList] :=
  List.splitOn_eq_singleton h

theorem segments_append (s t : String) : segments (s ++ "/" ++ t) = segments s ++ segments t := by
  simp only [segments, String.toList_append]
  exact (congrArg _ (by simp)).trans (List.splitOn_append_cons_self s.toList t.toList)

theorem segments_slash (s : String) : segments (s ++ "/") = segments s ++ [[]] := by
  have h := segments_append s ""
  rwa [String.append_empty, segments_eq_singleton (s := "") (by simp)] at h

theorem segments_ofSegments {ss : List (List Char)} (hs : ∀ s ∈ ss, '/' ∉ s) (hn : ss ≠ []) :
    segments (ofSegments ss) = ss := by
  simp only [segments, ofSegments, String.toList_ofList]
  exact List.splitOn_intercalate '/' hs hn

theorem lead_eq (p : Path) : p.lead = leadOf (segments p.text) := by
  have ha : p.isAbsolute = true ↔ ∃ s ss, segments p.text = [] :: s :: ss := by
    unfold isAbsolute segments
    generalize p.text.toList = cs
    cases cs with
    | nil => simp
    | cons c cs =>
      rw [List.splitOn_cons_eq_if_modifyHead]
      obtain ⟨first, rest, he⟩ := List.exists_cons_of_ne_nil (List.splitOn_ne_nil '/' cs)
      by_cases hc : c = '/' <;> simp [he, hc]
  unfold lead startsHere
  by_cases h : p.isAbsolute = true
  · obtain ⟨s, ss, hs⟩ := ha.mp h
    simp [h, hs, leadOf]
  · rw [ha] at h
    split
    · exact absurd (ha.mp ‹_›) h
    · split
      next hh =>
        obtain ⟨ss, hs⟩ := List.head?_eq_some_iff.mp (by simpa using hh)
        rw [hs, leadOf]
      next hh =>
        unfold leadOf
        split
        next hs => exact absurd ⟨_, _, hs⟩ h
        next hs => exact absurd (by simp [hs]) hh
        · rfl

theorem components_eq (p : Path) :
    p.components = leadOf (segments p.text) ++ parts (segments p.text) := by
  rw [components, lead_eq]

theorem components_ofSegments {ss : List (List Char)} (hs : ∀ s ∈ ss, '/' ∉ s) :
    components ⟨ofSegments ss⟩ = leadOf ss ++ parts ss := by
  by_cases hn : ss = []
  · subst hn
    rfl
  · rw [components_eq, segments_ofSegments hs hn]

theorem component?_eq_none_iff {segment : List Char} :
    component? segment = none ↔ isIdle segment = true := by
  unfold component?
  split_ifs <;> simp_all

theorem component?_ne_root {segment : List Char} : component? segment ≠ some .root := by
  unfold component?
  split_ifs <;> simp

theorem component?_text {segment : List Char} {c : Component} (h : component? segment = some c) :
    c.text.toList = segment := by
  unfold component? at h
  split_ifs at h with _ hu
  · cases h
    exact hu.symm
  · cases h
    exact String.toList_ofList

def IsName (s : String) : Prop := s ≠ "" ∧ s ≠ "." ∧ s ≠ ".." ∧ '/' ∉ s.toList

instance (s : String) : Decidable (IsName s) := inferInstanceAs (Decidable (_ ∧ _))

theorem IsName.not_idle {s : String} (h : IsName s) : isIdle s.toList = false := by
  obtain ⟨he, hh, -, -⟩ := h
  simp only [isIdle, Bool.or_eq_false_iff, beq_eq_false_iff_ne]
  exact ⟨fun h => he (String.toList_inj.mp (by simpa using h)),
    fun h => hh (String.toList_inj.mp (by simpa using h))⟩

theorem IsName.ne_up {s : String} (h : IsName s) : s.toList ≠ ['.', '.'] :=
  fun he => h.2.2.1 (String.toList_inj.mp (by simpa using he))

theorem IsName.component? {s : String} (h : IsName s) :
    Path.component? s.toList = some (.name s) := by
  simp [Path.component?, h.not_idle, h.ne_up]

theorem isName_of_mem_components {p : Path} {s : String} (h : .name s ∈ p.components) :
    IsName s := by
  rw [components_eq, List.mem_append, List.mem_filterMap] at h
  rcases h with h | ⟨segment, hs, hc⟩
  · unfold leadOf at h
    split at h <;> simp at h
  · obtain rfl : s.toList = segment := component?_text hc
    refine ⟨?_, ?_, ?_, mem_segments hs⟩
    all_goals
      rintro rfl
      revert hc
      decide

theorem ofSegments_cons_cons (s t : List Char) (ss : List (List Char)) :
    ofSegments (s :: t :: ss) = String.ofList s ++ "/" ++ ofSegments (t :: ss) := by
  apply String.toList_inj.mp
  simp [ofSegments]

theorem leadOf_isPrefix {ss ts : List (List Char)} (h : ss <+: ts) (hl : leadOf ts = []) :
    leadOf ss = [] := by
  obtain ⟨rest, rfl⟩ := h
  match ss with
  | [] => rfl
  | [[]] => rfl
  | [] :: _ :: _ => simp [leadOf] at hl
  | ['.'] :: _ => simp [leadOf] at hl
  | (c :: d :: cs) :: _ => simp [leadOf]
  | [c] :: _ =>
    unfold leadOf at hl ⊢
    split at hl <;> simp_all

theorem components_slash {ss : List (List Char)} (hs : ∀ s ∈ ss, '/' ∉ s) :
    components ⟨"/" ++ ofSegments ss⟩ = .root :: parts ss := by
  cases ss with
  | nil => decide
  | cons s ss =>
    have he : "/" ++ ofSegments (s :: ss) = ofSegments ([] :: s :: ss) := by
      rw [ofSegments_cons_cons]
      rfl
    rw [he, components_ofSegments (List.forall_mem_cons.mpr ⟨by simp, hs⟩)]
    rfl

theorem components_dot {ss : List (List Char)} (hs : ∀ s ∈ ss, '/' ∉ s) :
    components ⟨"." ++ ofSegments ([] :: ss)⟩ = .here :: parts ss := by
  have he : "." ++ ofSegments ([] :: ss) = ofSegments (['.'] :: ss) := by
    cases ss with
    | nil => rfl
    | cons s ss =>
      rw [ofSegments_cons_cons, ofSegments_cons_cons, ← String.append_assoc, ← String.append_assoc]
      rfl
  rw [he, components_ofSegments (List.forall_mem_cons.mpr ⟨by decide, hs⟩)]
  rfl

theorem components_body (p : Path) {ss : List (List Char)} (h : ss <+: p.body.2) :
    components ⟨p.body.1 ++ ofSegments ss⟩ = p.lead ++ parts ss := by
  have hs : ∀ s ∈ segments p.text, '/' ∉ s := fun _ => mem_segments
  by_cases ha : p.isAbsolute = true
  · simp only [body, lead, if_pos ha] at h ⊢
    exact components_slash fun s hm => hs s (List.mem_of_mem_drop (h.subset hm))
  by_cases hh : p.startsHere = true
  · simp only [body, lead, if_neg ha, if_pos hh] at h ⊢
    have hd : ∀ s ∈ (segments p.text).drop 1, '/' ∉ s := fun s hm => hs s (List.mem_of_mem_drop hm)
    generalize (segments p.text).drop 1 = ds at h hd
    match ds, ss with
    | [], ss =>
      obtain rfl := List.prefix_nil.mp h
      decide
    | _ :: _, [] => exact (by decide : components ⟨"." ++ ofSegments []⟩ = [.here])
    | d :: ds, s :: ss =>
      obtain ⟨rfl, hp⟩ : s = [] ∧ ss <+: d :: ds := List.cons_prefix_cons.mp h
      exact components_dot fun s hm => hd s (hp.subset hm)
  · have hl : leadOf (segments p.text) = [] := by rw [← lead_eq, lead, if_neg ha, if_neg hh]
    simp only [body, lead, if_neg ha, if_neg hh] at h ⊢
    rw [String.empty_append, components_ofSegments fun t ht => hs t (h.subset ht),
      leadOf_isPrefix h hl]

theorem parts_body (p : Path) : parts p.body.2 = parts (segments p.text) := by
  unfold body
  split
  next ha =>
    have hl := lead_eq p
    rw [lead, if_pos ha] at hl
    unfold leadOf at hl
    split at hl
    next hs =>
      rw [hs]
      rfl
    next hs => cases hl
    next hs => cases hl
  · split
    next ha hh =>
      have hl := lead_eq p
      rw [lead, if_neg ha, if_pos hh] at hl
      unfold leadOf at hl
      split at hl
      next hs => cases hl
      next ss hs =>
        rw [hs]
        cases ss <;> rfl
      next hs => cases hl
    · rfl

theorem trimIdle_isPrefix (ss : List (List Char)) : trimIdle ss <+: ss := by
  rw [trimIdle, ← List.reverse_suffix, List.reverse_reverse]
  exact List.dropWhile_suffix _

theorem parts_dropWhile (ss : List (List Char)) : parts (ss.dropWhile isIdle) = parts ss := by
  induction ss with
  | nil => rfl
  | cons s ss ih =>
    by_cases hs : isIdle s = true
    · rw [List.dropWhile_cons_of_pos hs, ih, parts, parts,
        List.filterMap_cons_none (component?_eq_none_iff.mpr hs)]
    · rw [List.dropWhile_cons_of_neg hs]

theorem isIdle_of_dropWhile {ss ts : List (List Char)} {s : List Char}
    (h : ss.dropWhile isIdle = s :: ts) : isIdle s = false := by
  have hn : ss.dropWhile isIdle ≠ [] := by simp [h]
  simpa only [h, List.head_cons] using List.head_dropWhile_not isIdle hn

theorem parts_reverse (ss : List (List Char)) : parts ss.reverse = (parts ss).reverse :=
  List.filterMap_reverse

theorem parts_trimIdle (ss : List (List Char)) : parts (trimIdle ss) = parts ss := by
  rw [trimIdle, parts_reverse, parts_dropWhile, parts_reverse, List.reverse_reverse]

theorem parts_dropLast {ss : List (List Char)} (h : trimIdle ss ≠ []) :
    parts (trimIdle ss).dropLast = (parts ss).dropLast ∧ parts ss ≠ [] := by
  have hl : isIdle ((trimIdle ss).getLast h) = false := by
    have hn : ss.reverse.dropWhile isIdle ≠ [] := by
      intro he
      simp [trimIdle, he] at h
    simp only [trimIdle, List.getLast_reverse]
    exact List.head_dropWhile_not isIdle hn
  obtain ⟨c, hc⟩ : ∃ c, component? ((trimIdle ss).getLast h) = some c := by
    rw [← Option.ne_none_iff_exists', ne_eq, component?_eq_none_iff, hl]
    simp
  have he : parts ss = parts (trimIdle ss).dropLast ++ [c] := by
    conv_lhs => rw [← parts_trimIdle, ← List.dropLast_append_getLast h]
    simp [parts, hc]
  simp [he]

theorem body_lead (p : Path) :
    (p.body.1 = "/" ∧ p.lead = [.root]) ∨ (p.body.1 = "." ∧ p.lead = [.here]) ∨
      (p.body.1 = "" ∧ p.lead = []) := by
  unfold body lead
  split_ifs
  · exact Or.inl ⟨rfl, rfl⟩
  · cases (segments p.text).drop 1
    · exact Or.inr (Or.inl ⟨rfl, rfl⟩)
    · exact Or.inr (Or.inl ⟨rfl, rfl⟩)
  · exact Or.inr (Or.inr ⟨rfl, rfl⟩)

theorem components_eq_body (p : Path) : p.components = p.lead ++ parts p.body.2 := by
  rw [components, parts_body]

theorem parent?_eq (p : Path) :
    (p.parent? = none ∧ (p.components = [] ∨ p.components = [.root])) ∨
      ∃ q, p.parent? = some q ∧ q.components = p.components.dropLast := by
  rw [components_eq_body]
  by_cases h : trimIdle p.body.2 = []
  · have hp : parts p.body.2 = [] := by
      rw [← parts_trimIdle, h]
      rfl
    rw [hp, List.append_nil, parent?]
    simp only [h]
    rcases p.body_lead with ⟨hb, hl⟩ | ⟨hb, hl⟩ | ⟨hb, hl⟩
    · exact Or.inl ⟨by simp [hb], Or.inr hl⟩
    · exact Or.inr ⟨⟨""⟩, by simp [hb], by rw [hl]; decide⟩
    · exact Or.inl ⟨by simp [hb], Or.inl hl⟩
  · obtain ⟨hd, hn⟩ := parts_dropLast h
    refine Or.inr ⟨⟨p.body.1 ++ ofSegments (trimIdle (trimIdle p.body.2).dropLast)⟩, ?_, ?_⟩
    · simp only [parent?]
    · have hp : trimIdle (trimIdle p.body.2).dropLast <+: p.body.2 :=
        (trimIdle_isPrefix _).trans (.trans ( List.dropLast_prefix _) (trimIdle_isPrefix _))
      rw [components_body p hp, parts_trimIdle, hd, List.dropLast_append_of_ne_nil hn]

theorem exists_parent? {p : Path} {s : String} (h : p.fileName? = some s) :
    ∃ q, p.parent? = some q ∧ p.components = q.components ++ [.name s] := by
  have hl : p.components.getLast? = some (.name s) := by
    unfold fileName? at h
    split at h
    · cases h
      assumption
    · cases h
  obtain ⟨cs, hs⟩ := List.getLast?_eq_some_iff.mp hl
  rcases p.parent?_eq with ⟨-, hc | hc⟩ | ⟨q, hq, hc⟩
  · rw [hc] at hl
    cases hl
  · rw [hc] at hl
    cases hl
  · refine ⟨q, hq, ?_⟩
    rw [hc, hs, List.dropLast_concat]

theorem fileName?_eq_some_iff {p : Path} {s : String} :
    p.fileName? = some s ↔ p.components.getLast? = some (.name s) := by
  unfold fileName?
  split
  next t ht => simp [ht]
  next hn =>
    constructor
    · intro h
      cases h
    · intro h
      exact absurd h (hn s)

def Component.name? : Component → Option String
  | .name s => some s
  | _ => none

theorem directoryNames_eq (p : Path) :
    p.directoryNames = p.components.dropLast.filterMap Component.name? := by
  rcases p.parent?_eq with ⟨hn, hc | hc⟩ | ⟨q, hq, hc⟩
  · rw [directoryNames, hn, hc]
    rfl
  · rw [directoryNames, hn, hc]
    rfl
  · rw [directoryNames, hq, ← hc]
    rfl

theorem isName_of_mem_directoryNames {p : Path} {s : String} (h : s ∈ p.directoryNames) :
    IsName s := by
  rw [directoryNames_eq] at h
  obtain ⟨c, hc, hs⟩ := List.mem_filterMap.mp h
  cases c with
  | name u =>
    cases hs
    exact isName_of_mem_components ((List.dropLast_subset _) hc)
  | root => cases hs
  | here => cases hs
  | up => cases hs

theorem joinName_of_not_slash (p : Path) {s : String} (hs : '/' ∉ s.toList) :
    p.joinName s = ⟨p.text ++ s⟩ ∧ (p.text = "" ∨ ∃ t, p.text = t ++ "/") ∨
      p.joinName s = ⟨p.text ++ "/" ++ s⟩ ∧ p.text ≠ "" := by
  have ha : isAbsolute ⟨s⟩ = false := by
    simp only [isAbsolute, beq_eq_false_iff_ne, ne_eq]
    intro h
    exact hs (List.mem_of_mem_head? h)
  unfold joinName join
  simp only [ha, Bool.false_eq_true, ↓reduceIte]
  split_ifs with h
  · refine Or.inl ⟨rfl, h.imp_right fun hl => ?_⟩
    obtain ⟨cs, hc⟩ := List.getLast?_eq_some_iff.mp hl
    exact ⟨String.ofList cs, String.toList_inj.mp (by simpa using hc)⟩
  · exact Or.inr ⟨rfl, fun he => h (Or.inl he)⟩

theorem leadOf_cons_cons (s t u : List Char) (ss ts : List (List Char)) :
    leadOf (s :: t :: ss) = leadOf (s :: u :: ts) := by
  match s with
  | [] => rfl
  | c :: d :: cs => simp [leadOf]
  | [c] => by_cases h : c = '.' <;> simp [leadOf, h]

theorem leadOf_concat {ss : List (List Char)} (s : List Char) (hn : ss ≠ []) (he : ss ≠ [[]]) :
    leadOf (ss ++ [s]) = leadOf ss := by
  match ss with
  | [[]] => exact absurd rfl he
  | [c :: cs] => by_cases h : c :: cs = ['.'] <;> simp [leadOf, h]
  | t :: u :: ss => exact leadOf_cons_cons _ _ _ _ _

theorem leadOf_concat_congr {ss : List (List Char)} (s t : List Char) (hn : ss ≠ []) :
    leadOf (ss ++ [s]) = leadOf (ss ++ [t]) := by
  match ss with
  | [u] => exact leadOf_cons_cons _ _ _ _ _
  | u :: v :: ss => exact leadOf_cons_cons _ _ _ _ _

theorem components_joinName (p : Path) {s : String} {c : Component} (hs : '/' ∉ s.toList)
    (hc : component? s.toList = some c) : (p.joinName s).components = p.components ++ [c] := by
  have hp : parts [s.toList] = [c] := by simp [parts, hc]
  rcases p.joinName_of_not_slash hs with ⟨hj, ht | ⟨t, ht⟩⟩ | ⟨hj, ht⟩
  · have hl : leadOf [s.toList] = [] := by
      unfold leadOf
      split
      next h => simp at h
      next h =>
        obtain ⟨h, -⟩ := List.cons.inj h
        rw [h] at hc
        cases hc
      · rfl
    rw [hj, ht, String.empty_append, components_eq, segments_eq_singleton hs, hl, hp,
      components_eq, ht]
    rfl
  · have hi : parts [[]] = [] := rfl
    rw [hj, components_eq, components_eq, ht, segments_append, segments_eq_singleton hs,
      segments_slash, parts_append, hp, parts_append, hi,
      leadOf_concat_congr _ [] (segments_ne_nil t)]
    simp
  · have he : segments p.text ≠ [[]] := by
      intro h
      have hi : ['/'].intercalate (p.text.toList.splitOn '/') = p.text.toList :=
        List.intercalate_splitOn '/'
      rw [show p.text.toList.splitOn '/' = [[]] from h] at hi
      exact ht (String.toList_inj.mp (by simpa using hi.symm))
    rw [hj, components_eq, components_eq, segments_append, segments_eq_singleton hs, parts_append,
      hp, leadOf_concat _ (segments_ne_nil _) he, List.append_assoc]

theorem isAbsolute_iff (p : Path) : p.isAbsolute = true ↔ p.components.head? = some .root := by
  rw [components]
  unfold lead
  split_ifs with ha hh
  · simp [ha]
  · simp [ha]
  · rw [List.nil_append]
    constructor
    · intro h
      exact absurd h ha
    · intro h
      obtain ⟨segment, -, hc⟩ := List.mem_filterMap.mp (List.mem_of_mem_head? h)
      exact absurd hc component?_ne_root

theorem parts_dropComponents (n : ℕ) (ss : List (List Char)) :
    parts (dropComponents n ss) = (parts ss).drop n := by
  induction n generalizing ss with
  | zero => exact parts_dropWhile ss
  | succ n ih =>
    rw [dropComponents, ih, ← parts_dropWhile ss]
    cases h : ss.dropWhile isIdle with
    | nil => simp
    | cons s rest =>
      have hs : isIdle s = false := isIdle_of_dropWhile h
      obtain ⟨c, hc⟩ : ∃ c, component? s = some c := by
        rw [← Option.ne_none_iff_exists', ne_eq, component?_eq_none_iff, hs]
        simp
      rw [List.drop_one, List.tail_cons, parts, parts, List.filterMap_cons_some hc,
        List.drop_succ_cons]

theorem dropComponents_head {n : ℕ} {ss ts : List (List Char)} {s : List Char}
    (h : dropComponents n ss = s :: ts) : isIdle s = false := by
  induction n generalizing ss with
  | zero => exact isIdle_of_dropWhile h
  | succ n ih => exact ih h

theorem dropComponents_suffix (n : ℕ) (ss : List (List Char)) : dropComponents n ss <:+ ss := by
  induction n generalizing ss with
  | zero => exact List.dropWhile_suffix _
  | succ n ih => exact (ih _).trans ((List.drop_suffix _ _).trans (List.dropWhile_suffix _))

theorem leadOf_eq_nil {ss : List (List Char)} (h : ∀ s ∈ ss.head?, isIdle s = false) :
    leadOf ss = [] := by
  unfold leadOf
  split
  next => simp [isIdle] at h
  next => simp [isIdle] at h
  · rfl

theorem components_relativeTo {p base : Path} (h : base.components <+: p.components) :
    (p.relativeTo base).components = p.components.drop base.components.length := by
  rw [relativeTo, if_pos (List.isPrefixOf_iff_prefix.mpr h)]
  by_cases hb : base.components = []
  · rw [if_pos hb, hb, trimmed]
    dsimp only
    rw [components_body p (trimIdle_isPrefix _), parts_trimIdle, parts_body]
    rfl
  · rw [if_neg hb]
    have hl : p.lead.length ≤ base.components.length := by
      have h1 : p.lead.length ≤ 1 := by
        unfold lead
        split_ifs <;> simp
      have h2 : base.components.length ≠ 0 := by simpa using hb
      omega
    dsimp only
    generalize hd : dropComponents (base.components.length - p.lead.length) (segments p.text) = ss
    have hi : ∀ s ∈ (trimIdle ss).head?, isIdle s = false := by
      intro s hs
      cases ss with
      | nil => cases hs
      | cons t ts =>
        obtain ⟨us, hu⟩ := List.head?_eq_some_iff.mp hs
        obtain ⟨rfl, -⟩ := List.cons_prefix_cons.mp (hu ▸ trimIdle_isPrefix (t :: ts))
        exact dropComponents_head hd
    have hm : ∀ s ∈ trimIdle ss, '/' ∉ s := fun s hs =>
      mem_segments ((dropComponents_suffix _ _).subset (hd ▸ (trimIdle_isPrefix ss).subset hs))
    have hp : p.components = p.lead ++ parts (segments p.text) := rfl
    rw [components_ofSegments hm, leadOf_eq_nil hi, List.nil_append, parts_trimIdle, ← hd,
      parts_dropComponents, hp, List.drop_append, List.drop_eq_nil_of_le hl, List.nil_append]

theorem relativeTo_of_not_isPrefix {p base : Path} (h : ¬ base.components <+: p.components) :
    p.relativeTo base = p := by
  rw [relativeTo, if_neg (mt List.isPrefixOf_iff_prefix.mp h)]

theorem components_foldl_join (p : Path) {cs : List Component}
    (h : ∀ c ∈ cs, '/' ∉ c.text.toList ∧ component? c.text.toList = some c) :
    (cs.foldl (fun p c => p.joinName c.text) p).components = p.components ++ cs := by
  induction cs generalizing p with
  | nil => simp
  | cons c cs ih =>
    obtain ⟨⟨hs, hc⟩, ht⟩ := List.forall_mem_cons.mp h
    rw [List.foldl_cons, ih _ ht, components_joinName p hs hc, List.append_assoc,
      List.singleton_append]

theorem components_foldl_joinName (p : Path) {names : List String} (h : ∀ s ∈ names, IsName s) :
    (names.foldl joinName p).components = p.components ++ names.map .name := by
  rw [← components_foldl_join p, List.foldl_map]
  · rfl
  · intro c hc
    obtain ⟨s, hs, rfl⟩ := List.mem_map.mp hc
    exact ⟨(h s hs).2.2.2, (h s hs).component?⟩

theorem components_ofComponents {p : Path} {cs : List Component} (h : cs <+: p.components) :
    (ofComponents cs).components = cs := by
  have hp : ∀ c ∈ parts (segments p.text),
      '/' ∉ c.text.toList ∧ component? c.text.toList = some c := by
    intro c hc
    obtain ⟨segment, hs, hc⟩ := List.mem_filterMap.mp hc
    rw [component?_text hc]
    exact ⟨mem_segments hs, hc⟩
  have hc : p.components = p.lead ++ parts (segments p.text) := rfl
  rw [hc] at h
  have hlead {l : Component} (hl : (joinName ⟨""⟩ l.text).components = [l])
      (h : cs <+: [l] ++ parts (segments p.text)) : (ofComponents cs).components = cs := by
    cases cs with
    | nil => decide
    | cons c cs =>
      obtain ⟨rfl, ht⟩ := List.cons_prefix_cons.mp h
      rw [ofComponents, List.foldl_cons, components_foldl_join _ fun c hc => hp c (ht.subset hc),
        hl, List.singleton_append]
  rcases p.body_lead with ⟨-, hl⟩ | ⟨-, hl⟩ | ⟨-, hl⟩
  · exact hlead (by decide) (hl ▸ h)
  · exact hlead (by decide) (hl ▸ h)
  · rw [hl, List.nil_append] at h
    exact components_foldl_join ⟨""⟩ fun c hc => hp c (h.subset hc)

theorem same_refl (p : Path) : p.same p = true := by simp [same]

theorem same_eq_false_symm {p q : Path} (h : p.same q = false) : q.same p = false := by
  rw [same, beq_eq_false_iff_ne] at h ⊢
  exact h.symm

theorem find?_same {α : Type} {key : α → Path} {as : List α} {a : α}
    (h : as.Pairwise fun b c => (key b).same (key c) = false) (ha : a ∈ as) :
    as.find? (fun b => (key b).same (key a)) = some a := by
  induction as with
  | nil => cases ha
  | cons b bs ih =>
    obtain ⟨hb, hbs⟩ := List.pairwise_cons.mp h
    rcases List.mem_cons.mp ha with rfl | ha
    · exact List.find?_cons_of_pos (same_refl _)
    · have hn : (key b).same (key a) = false := hb a ha
      rw [List.find?_cons_of_neg (by simp [hn])]
      exact ih hbs ha

end ContractTypings.Path
