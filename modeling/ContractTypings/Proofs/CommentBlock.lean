import ContractTypings.Proofs.InertText
import ContractTypings.Proofs.LineBreaks

namespace ContractTypings

open Text TypeScript Printer

def KeepsOpen (cs : List Char) : Prop := ¬ ['*', '/'] <:+: cs

instance (cs : List Char) : Decidable (KeepsOpen cs) := inferInstanceAs (Decidable (¬ _))

/-- One text is the other with a backslash inside each mark that closes a comment. -/
def IsDefused (cs ds : List Char) : Prop :=
  ∃ parts ≠ [], (∀ part ∈ parts, KeepsOpen part) ∧ ['*', '/'].intercalate parts = cs ∧
    ['*', '\\', '/'].intercalate parts = ds

/-- How a comment shows a line of text: without the white space at its end, and with a star alone if
nothing else is in it. -/
inductive ShownAs : List Char → Row → Prop
  | blank {line : List Char} (h : ∀ c ∈ line, isBlank c = true) : ShownAs line " *".toList
  | text {kept blanks shown : List Char} (hkept : ∃ c ∈ kept.getLast?, isBlank c = false)
    (hblanks : ∀ c ∈ blanks, isBlank c = true) (h : IsDefused kept shown) :
    ShownAs (kept ++ blanks) (" * ".toList ++ shown)

section KeepsOpen

variable {as bs : List Char}

theorem keepsOpen_iff_isChain :
    KeepsOpen as ↔ as.IsChain fun c next => ¬ (c = '*' ∧ next = '/') := by
  rw [KeepsOpen, List.isChain_iff_forall_rel_of_append_cons_cons]
  constructor
  · rintro h _ _ before after rfl ⟨rfl, rfl⟩
    exact h ⟨before, after, by simp⟩
  · rintro h ⟨before, after, rfl⟩
    have hmark : before ++ ['*', '/'] ++ after = before ++ '*' :: '/' :: after := by simp
    exact h hmark ⟨rfl, rfl⟩

theorem KeepsOpen.append (ha : KeepsOpen as) (hb : KeepsOpen bs)
    (h : '*' ∉ as.getLast? ∨ '/' ∉ bs.head?) : KeepsOpen (as ++ bs) := by
  rw [keepsOpen_iff_isChain] at ha hb ⊢
  apply ha.append hb
  rintro c hc next hnext ⟨rfl, rfl⟩
  rcases h with h | h
  · exact h hc
  · exact h hnext

theorem keepsOpen_of_not_mem (h : '*' ∉ as) : KeepsOpen as := by
  intro hin
  exact h (hin.subset List.mem_cons_self)

theorem KeepsOpen.indentation (depth : ℕ) (h : KeepsOpen as) :
    KeepsOpen (indentation depth ++ as) := by
  have hstar : '*' ∉ Printer.indentation depth := by
    intro hm
    exact absurd (List.eq_of_mem_replicate hm) (by decide)
  apply (keepsOpen_of_not_mem hstar).append h
  exact Or.inl fun hlast => hstar (List.mem_of_getLast? hlast)

theorem keepsOpen_unlines {rows : List Row} (h : ∀ row ∈ rows, KeepsOpen row) :
    KeepsOpen (unlines rows) := by
  induction rows with
  | nil => exact keepsOpen_of_not_mem (by simp [unlines])
  | cons row rows ih =>
    obtain ⟨hrow, hrows⟩ := List.forall_mem_cons.mp h
    have hfeed : KeepsOpen (row ++ ['\n']) :=
      hrow.append (keepsOpen_of_not_mem (by simp)) (Or.inr (by simp))
    exact hfeed.append (ih hrows) (Or.inl (by simp))

theorem append_mark_append_eq_iff (h : KeepsOpen (as ++ ['*'])) (front back : List Char) :
    front ++ ['*', '/'] ++ back = as ++ ['*', '/'] ++ ['\n'] ↔ front = as ∧ back = ['\n'] := by
  constructor
  · intro he
    rcases List.eq_nil_or_concat back with rfl | ⟨most, last, rfl⟩
    · have hlast := congrArg List.getLast? he
      simp at hlast
    rw [List.concat_eq_append, ← List.append_assoc] at he
    obtain ⟨hmost, hlast⟩ := List.append_inj' he rfl
    rcases List.eq_nil_or_concat most with rfl | ⟨early, c, rfl⟩
    · rw [List.append_nil] at hmost
      exact ⟨List.append_cancel_right hmost, hlast⟩
    · -- a mark before the last one is all in what keeps the comment open
      have hsplit : front ++ ['*', '/'] ++ early ++ [c] = as ++ ['*'] ++ ['/'] := by
        simpa using hmost
      exact absurd ⟨front, early, (List.append_inj' hsplit rfl).1⟩ h
  · rintro ⟨rfl, rfl⟩
    rfl

end KeepsOpen

theorem keepsOpen_defuse (cs : List Char) : KeepsOpen (defuse cs) := by
  rw [keepsOpen_iff_isChain]
  fun_induction defuse cs with
  | case1 cs ih =>
    rw [List.isChain_cons_cons, List.isChain_cons_cons, List.isChain_cons]
    exact ⟨by simp, by simp, by simp, ih⟩
  | case2 c cs hne ih =>
    apply List.isChain_cons.mpr
    refine ⟨?_, ih⟩
    rintro next hnext ⟨rfl, rfl⟩
    rw [head?_defuse] at hnext
    obtain ⟨rest, hrest⟩ := List.head?_eq_some_iff.mp hnext
    exact hne rest rfl hrest
  | case3 => exact List.IsChain.nil

theorem intercalate_cons_head (mark : List Char) (c : Char) (part : List Char)
    (parts : List (List Char)) :
    mark.intercalate ((c :: part) :: parts) = c :: mark.intercalate (part :: parts) := by
  cases parts with
  | nil => rw [List.intercalate_singleton, List.intercalate_singleton]
  | cons next parts =>
    rw [List.intercalate_cons_cons, List.intercalate_cons_cons, List.cons_append, List.cons_append]

theorem isDefused_defuse (cs : List Char) : IsDefused cs (defuse cs) := by
  fun_induction defuse cs with
  | case1 cs ih =>
    obtain ⟨parts, hne, hopen, rfl, hds⟩ := ih
    refine ⟨[] :: parts, by simp, ?_, ?_, ?_⟩
    · rintro part (_ | ⟨_, hpart⟩)
      · exact keepsOpen_of_not_mem (by simp)
      · exact hopen part hpart
    · rw [List.intercalate_cons_of_ne_nil hne]
      rfl
    · rw [List.intercalate_cons_of_ne_nil hne, hds]
      rfl
  | case2 c cs hmark ih =>
    obtain ⟨parts, hne, hopen, rfl, hds⟩ := ih
    obtain ⟨part, rest, rfl⟩ := List.exists_cons_of_ne_nil hne
    refine ⟨(c :: part) :: rest, by simp, ?_, ?_, ?_⟩
    · rintro _ (_ | ⟨_, hpart⟩)
      · intro hin
        rcases List.infix_cons_iff.mp hin with ⟨after, hafter⟩ | hin
        · obtain ⟨hc, rfl⟩ := List.cons.inj hafter
          exact hmark _ hc.symm (intercalate_cons_head _ '/' after rest)
        · exact hopen part List.mem_cons_self hin
      · exact hopen _ (List.mem_cons_of_mem part hpart)
    · exact intercalate_cons_head _ c part rest
    · rw [intercalate_cons_head, hds]
  | case3 =>
    refine ⟨[[]], by simp, ?_, rfl, rfl⟩
    rintro part (_ | ⟨_, hpart⟩)
    · exact keepsOpen_of_not_mem (by simp)
    · cases hpart

theorem defuse_append {as bs : List Char} (h : KeepsOpen (as ++ bs.head?.toList)) :
    defuse (as ++ bs) = as ++ defuse bs := by
  induction as with
  | nil => rfl
  | cons c as ih =>
    obtain ⟨hnext, hrest⟩ := List.isChain_cons.mp (keepsOpen_iff_isChain.mp h)
    have hhead : (as ++ bs).head? = (as ++ bs.head?.toList).head? := by
      rw [List.head?_append, List.head?_append]
      cases bs <;> simp
    have hmark : ∀ cs, c = '*' → as ++ bs = '/' :: cs → False := by
      intro cs hc hcs
      refine hnext '/' ?_ ⟨hc, rfl⟩
      change (as ++ bs.head?.toList).head? = some '/'
      rw [← hhead, hcs, List.head?_cons]
    rw [List.cons_append, defuse, ih (keepsOpen_iff_isChain.mpr hrest), List.cons_append]
    exact hmark

theorem isDefused_iff {cs ds : List Char} : IsDefused cs ds ↔ defuse cs = ds := by
  constructor
  · rintro ⟨parts, hne, hopen, rfl, rfl⟩
    induction parts with
    | nil => exact absurd rfl hne
    | cons part parts ih =>
      have hpart : KeepsOpen part := hopen part List.mem_cons_self
      cases parts with
      | nil =>
        have hdefuse : defuse (part ++ []) = part ++ defuse [] :=
          defuse_append (by simpa using hpart)
        simpa [defuse] using hdefuse
      | cons next parts =>
        have hrest := ih (by simp) fun p hp => hopen p (List.mem_cons_of_mem part hp)
        have hstar : KeepsOpen (part ++ ['*']) := hpart.append (by decide) (Or.inr (by simp))
        rw [List.intercalate_cons_cons, List.intercalate_cons_cons, List.append_assoc,
          defuse_append hstar, List.append_assoc, List.cons_append, List.cons_append, defuse,
          List.nil_append, hrest]
        rfl
  · rintro rfl
    exact isDefused_defuse cs

theorem getLast?_defuse (cs : List Char) : (defuse cs).getLast? = cs.getLast? := by
  fun_induction defuse cs with
  | case1 cs ih => simp [List.getLast?_cons, ih]
  | case2 c cs hne ih => simp [List.getLast?_cons, ih]
  | case3 => rfl

section

variable {line other : List Char}

theorem commentRow_of_trimmed (h : trimEndChars line = trimEndChars other) :
    commentRow line = commentRow other := by
  rw [commentRow, commentRow, commentLine, commentLine, h]

theorem getLast?_commentLine (line : List Char) :
    (commentLine line).getLast? = (line.rdropWhile isBlank).getLast? :=
  getLast?_defuse _

theorem forall_isBlank_of_commentLine (h : commentLine line = []) :
    ∀ c ∈ line, isBlank c = true := by
  apply List.rdropWhile_eq_nil_iff.mp
  rw [← List.getLast?_eq_none_iff, ← getLast?_commentLine, h, List.getLast?_nil]

theorem getLast_trimmed (h : commentLine line ≠ []) :
    ∃ c ∈ (line.rdropWhile isBlank).getLast?, isBlank c = false := by
  have hne : line.rdropWhile isBlank ≠ [] := by
    intro hnil
    exact h (congrArg defuse hnil)
  refine ⟨_, List.getLast?_eq_some_getLast hne, ?_⟩
  simpa using List.rdropWhile_last_not isBlank line hne

theorem shownAs_commentRow (line : List Char) : ShownAs line (commentRow line) := by
  unfold commentRow
  split
  next h => exact .blank (forall_isBlank_of_commentLine h)
  next h =>
    have hshown : ShownAs (line.rdropWhile isBlank ++ line.rtakeWhile isBlank)
        (" * ".toList ++ commentLine line) :=
      .text (getLast_trimmed h) (fun _ => List.mem_rtakeWhile_imp) (isDefused_iff.mpr rfl)
    rwa [List.rdropWhile_append_rtakeWhile] at hshown

theorem shownAs_iff {row : Row} : ShownAs line row ↔ commentRow line = row := by
  constructor
  · intro h
    cases h with
    | blank h =>
      have hnil : commentLine line = [] := congrArg defuse (List.rdropWhile_eq_nil_iff.mpr h)
      rw [commentRow, hnil]
    | @text kept blanks shown hkept hblanks hshown =>
      obtain ⟨c, hc, hblank⟩ := hkept
      have htrim : trimEndChars (kept ++ blanks) = kept := by
        rw [trimEndChars_append hblanks]
        apply List.rdropWhile_eq_self_iff.mpr
        intro hne
        rw [List.getLast_of_mem_getLast? hc, hblank]
        exact Bool.false_ne_true
      have hline : commentLine (kept ++ blanks) = shown := by
        rw [commentLine, htrim, isDefused_iff.mp hshown]
      unfold commentRow
      split
      next h =>
        have hnil := forall_isBlank_of_commentLine h c
          (List.mem_append_left blanks (List.mem_of_getLast? hc))
        rw [hblank] at hnil
        cases hnil
      · rw [hline]
  · rintro rfl
    exact shownAs_commentRow line

theorem getLast_commentRow (line : List Char) :
    ∃ c ∈ (commentRow line).getLast?, isBlank c = false := by
  unfold commentRow
  split
  · exact ⟨'*', rfl, by decide⟩
  next h =>
    obtain ⟨c, hc, hblank⟩ := getLast_trimmed h
    rw [← getLast?_commentLine] at hc
    exact ⟨c, List.mem_getLast?_append_of_mem_getLast? hc, hblank⟩

theorem keepsOpen_commentRow (line : List Char) : KeepsOpen (commentRow line) := by
  unfold commentRow
  split
  · decide
  · have hstart : KeepsOpen " * ".toList := by decide
    exact hstart.append (keepsOpen_defuse _) (Or.inl (by decide))

end

namespace TypeScript

theorem Printer.text_foldl_line (rows : List Row) (p : Printer) :
    (rows.foldl (fun p row => p.line row) p).text =
      p.text ++ unlines (rows.map (indentation p.depth ++ ·)) := by
  induction rows generalizing p with
  | nil => exact (List.append_nil _).symm
  | cons row rows ih =>
    have hdepth : (p.line row).depth = p.depth := rfl
    rw [List.foldl_cons, ih, text_line, hdepth, List.map_cons, unlines, unlines, List.flatMap_cons,
      List.append_assoc]

section

variable (doc : DocComment)

theorem DocComment.rows_eq : doc.rows =
    "/**".toList :: (doc.texts.flatMap fun text => brokenLines text.toList).map commentRow ++
      [" */".toList] := by
  have hcontents : (doc.texts.flatMap fun text => lines text.toList).map commentRow =
      (doc.texts.flatMap fun text => brokenLines text.toList).map commentRow := by
    rw [← List.forall₂_eq_eq_eq, List.forall₂_map_left_iff, List.forall₂_map_right_iff]
    exact (forall₂_lines_trimmed doc.texts).imp fun _ _ => commentRow_of_trimmed
  rw [DocComment.rows, hcontents]

theorem DocComment.text_print (p : Printer) :
    (doc.print p).text = p.text ++ unlines (doc.rows.map (indentation p.depth ++ ·)) := by
  rw [doc.print_eq_foldl, text_foldl_line]

variable (depth : ℕ)

theorem DocComment.getLast_rows {row : Row} (h : row ∈ doc.rows.map (indentation depth ++ ·)) :
    ∃ c ∈ row.getLast?, isBlank c = false := by
  have hall : ∀ row ∈ doc.rows, ∃ c ∈ row.getLast?, isBlank c = false :=
    doc.forall_mem_rows ⟨'*', rfl, by decide⟩ (fun line _ => getLast_commentRow line)
      ⟨'/', rfl, by decide⟩
  obtain ⟨row, hrow, rfl⟩ := List.mem_map.mp h
  obtain ⟨c, hc, hblank⟩ := hall row hrow
  exact ⟨c, List.mem_getLast?_append_of_mem_getLast? hc, hblank⟩

theorem DocComment.brokenLines_rows :
    brokenLines (unlines (doc.rows.map (indentation depth ++ ·))) =
      doc.rows.map (indentation depth ++ ·) := by
  apply brokenLines_unlines
  · intro _ h
    obtain ⟨row, hrow, rfl⟩ := List.mem_map.mp h
    simpa [indentation] using doc.feed_not_mem_rows row hrow
  · intro row h hreturn
    obtain ⟨c, hc, hblank⟩ := doc.getLast_rows depth h
    rw [hreturn] at hc
    obtain rfl := Option.some.inj hc
    exact absurd hblank (by decide)

theorem DocComment.mark_rows : ∃ before, ∀ front back,
    front ++ ['*', '/'] ++ back = unlines (doc.rows.map (indentation depth ++ ·)) ↔
      front = before ∧ back = ['\n'] := by
  let first := "/**".toList ::
    (doc.texts.flatMap fun text => brokenLines text.toList).map commentRow
  let opening := unlines (first.map (indentation depth ++ ·))
  have hfirst : KeepsOpen opening := by
    apply keepsOpen_unlines
    intro _ h
    obtain ⟨row, hrow, rfl⟩ := List.mem_map.mp h
    apply KeepsOpen.indentation
    rcases List.mem_cons.mp hrow with rfl | hrow
    · decide
    · obtain ⟨line, -, rfl⟩ := List.mem_map.mp hrow
      exact keepsOpen_commentRow line
  have hslash : '/' ∉ (indentation depth ++ " *".toList).head? := by
    intro h
    simpa [indentation] using List.mem_of_mem_head? h
  have hstar : KeepsOpen " *".toList := by decide
  have hopen := hfirst.append (hstar.indentation depth) (Or.inr hslash)
  have hends : unlines (doc.rows.map (indentation depth ++ ·)) =
      opening ++ (indentation depth ++ [' ']) ++ ['*', '/'] ++ ['\n'] := by
    simp [doc.rows_eq, opening, first, unlines]
  refine ⟨opening ++ (indentation depth ++ [' ']), ?_⟩
  rw [hends]
  apply append_mark_append_eq_iff
  simpa using hopen

end

/-- What a comment prints is the same wherever it comes, and it prints one line for each line of its
texts between its two ends. The mark that closes it comes once, at the end of its last line, and no
line ends with white space. -/
theorem DocComment.block_shape (doc : DocComment) (depth : ℕ) :
    let block := (doc.print ⟨[], depth⟩).text
    let said := doc.texts.flatMap fun text => brokenLines text.toList
    (∀ before, (doc.print ⟨before, depth⟩).text = before.reverse ++ block) ∧
      (∃ before, ∀ front back,
        front ++ ['*', '/'] ++ back = block ↔ front = before ∧ back = ['\n']) ∧
      block = unlines (brokenLines block) ∧
      (brokenLines block).length = said.length + 2 ∧
      (∃ shown, List.Forall₂ ShownAs said shown ∧
        brokenLines block = ("/**".toList :: shown ++ [" */".toList]).map
          (List.replicate (2 * depth) ' ' ++ ·)) ∧
      ∀ row ∈ brokenLines block, ∃ c ∈ row.getLast?, isBlank c = false := by
  intro block said
  have hblock : block = unlines (doc.rows.map (indentation depth ++ ·)) :=
    doc.text_print ⟨[], depth⟩
  have hbroken : brokenLines block = doc.rows.map (indentation depth ++ ·) := by
    rw [hblock, doc.brokenLines_rows]
  refine ⟨?_, ?_, ?_, ?_, ⟨said.map commentRow, ?_, ?_⟩, ?_⟩
  · intro before
    rw [hblock]
    exact doc.text_print ⟨before, depth⟩
  · rw [hblock]
    exact doc.mark_rows depth
  · rw [hbroken, hblock]
  · simp [hbroken, doc.rows_eq, said]
  · apply List.forall₂_map_right_iff.mpr
    exact List.forall₂_same.mpr fun _ _ => shownAs_iff.mpr rfl
  · rw [hbroken, doc.rows_eq]
    rfl
  · rw [hbroken]
    exact fun _ => doc.getLast_rows depth

theorem DocComment.block_shape_marks :
    let doc : DocComment := ⟨["a\r\nb  ", " \n**// */"]⟩
    let block := (doc.print ⟨[], 1⟩).text
    block = "  /**\n   * a\n   * b\n   *\n   * **\\// *\\/\n   */\n".toList ∧
      (brokenLines block).length = 6 ∧
      ∃ before, ∀ front back,
        front ++ ['*', '/'] ++ back = block ↔ front = before ∧ back = ['\n'] := by
  intro doc block
  obtain ⟨-, hmark, -, hlength, -⟩ := doc.block_shape 1
  exact ⟨by decide +kernel, hlength.trans (by decide), hmark⟩

end TypeScript

end ContractTypings
