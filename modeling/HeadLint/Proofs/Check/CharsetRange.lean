import HeadLint.Proofs.Check.Charset

/-!
The range of an encoding name.  Its start is moved over the white space in front of the name, and
its end over the white space behind it.  In a line of white space alone both are moved over the same
characters, so the start lies behind the end; in every other line the range is one.
-/

namespace HeadLint.Charset

open Text

/-! ## The line behind the first mark -/

theorem exists_firstMark {content before mark value : List Char}
    (h : content = before ++ mark ++ value) (hmark : IsMark mark) :
    ∃ before mark value, FirstMark content before mark value := by
  induction content generalizing before with
  | nil =>
    obtain ⟨body, rfl, -⟩ := hmark.exists_body
    simp at h
  | cons c content ih =>
    cases hafter : afterMark? (c :: content) with
    | some found =>
      obtain ⟨mark, hfirst⟩ := FirstMark.of_afterMark? hafter
      exact ⟨[], mark, found, hfirst⟩
    | none =>
      cases before with
      | nil =>
        rw [afterMark?_eq_some_iff.2 ⟨mark, h, hmark⟩] at hafter
        cases hafter
      | cons d before =>
        obtain ⟨before, mark, value, hfirst⟩ := ih (List.cons.inj h).2
        exact ⟨c :: before, mark, value, (firstMark_cons_iff hafter).2 ⟨before, rfl, hfirst⟩⟩

/-- A content that is cut behind its first mark and at the end of the line there. -/
structure MarkedLine (content front line rest : List Char) : Prop where
  first : ∃ before mark, front = before ++ mark ∧ FirstMark content before mark (line ++ rest)
  oneLine : '\n' ∉ line
  ends : Stops (· != '\n') rest

section MarkedLine

variable {content front line rest : List Char}

theorem MarkedLine.eq (h : MarkedLine content front line rest) :
    content = front ++ line ++ rest := by
  obtain ⟨before, mark, rfl, hfirst⟩ := h.first
  rw [hfirst.eq, List.append_assoc _ line]

theorem exists_markedLine {before mark value : List Char}
    (h : FirstMark content before mark value) :
    ∃ line rest, MarkedLine content (before ++ mark) line rest := by
  obtain ⟨line, rest, rfl, hline, hrest, -, -⟩ := exists_run (· != '\n') value
  refine ⟨line, rest, ⟨before, mark, rfl, h⟩, fun hmem => ?_, hrest⟩
  simpa using hline _ hmem

theorem MarkedLine.findRange?_eq (h : MarkedLine content front line rest) :
    findRange? content = some (front.length + (line.length - (trimStart line).length),
      front.length + (trimEnd line).length) := by
  obtain ⟨before, mark, rfl, hfirst⟩ := h.first
  have hmark : findMark? 0 content = some ((before ++ mark).length, line ++ rest) :=
    findMark?_eq_some_iff.2 ⟨before, mark, hfirst, (Nat.zero_add _).symm⟩
  have hline : (line ++ rest).takeWhile (· != '\n') = line := by
    apply takeWhile_run _ h.ends
    intro c hc
    rw [bne_iff_ne]
    rintro rfl
    exact h.oneLine hc
  simp only [findRange?, hmark, hline, Option.bind_eq_bind, Option.bind_some]

theorem exists_firstMark_of_findRange? {range : Nat × Nat} (h : findRange? content = some range) :
    ∃ before mark value, FirstMark content before mark value := by
  rw [findRange?, Option.bind_eq_bind, Option.bind_eq_some_iff] at h
  obtain ⟨⟨n, value⟩, hfound, -⟩ := h
  obtain ⟨before, mark, hfirst, -⟩ := findMark?_eq_some_iff.1 hfound
  exact ⟨before, mark, value, hfirst⟩

/-- There is no range exactly when there is no mark. -/
theorem findRange?_eq_none_iff :
    findRange? content = none ↔
      ∀ before mark value, content = before ++ mark ++ value → ¬ IsMark mark := by
  constructor
  · intro hnone before mark value hcontent hmark
    obtain ⟨before, mark, value, hfirst⟩ := exists_firstMark hcontent hmark
    obtain ⟨line, rest, hline⟩ := exists_markedLine hfirst
    rw [hline.findRange?_eq] at hnone
    cases hnone
  · intro hnot
    cases hrange : findRange? content with
    | none => rfl
    | some range =>
      obtain ⟨before, mark, value, hfirst⟩ := exists_firstMark_of_findRange? hrange
      exact absurd hfirst.isMark (hnot before mark value hfirst.eq)

end MarkedLine

/-! ## What is left of the line -/

/-- `Leaves line front name behind`: of a line a name is left when the white space at both ends is
taken off. -/
structure Leaves (line front name behind : List Char) : Prop where
  eq : line = front ++ name ++ behind
  front : ∀ c ∈ front, isBlank c = true
  behind : ∀ c ∈ behind, isBlank c = true
  stops : Stops isBlank name
  stops_end : Stops isBlank name.reverse

section Leaves

variable {content start line rest front name behind : List Char}

-- White space alone is taken off from the left, and once more from the right.
theorem leaves_of_blank (h : ∀ c ∈ line, isBlank c = true) : Leaves line line [] [] where
  eq := by simp
  front := h
  behind := List.forall_mem_nil _
  stops := stops_nil
  stops_end := stops_nil

theorem exists_leaves {c : Char} (hc : c ∈ line) (hblank : isBlank c = false) :
    ∃ front name behind, Leaves line front name behind ∧ name ≠ [] := by
  obtain ⟨front, hfront, hall, hstops⟩ := exists_blanks line
  obtain ⟨behind, hbehind, hall'⟩ := exists_blanks_end (trimStart line)
  have heq : line = front ++ trim line ++ behind := by
    rw [trim, List.append_assoc, ← hbehind, ← hfront]
  refine ⟨front, trim line, behind, ⟨heq, hall, hall', stops_trimEnd hstops, ?_⟩, ?_⟩
  · rw [trim, trimEnd, List.reverse_reverse]
    exact stops_dropWhile _
  · intro hnil
    rw [hnil, List.append_nil] at heq
    rw [heq] at hc
    have hc' : isBlank c = true := (List.mem_append.1 hc).elim (hall c) (hall' c)
    rw [hblank] at hc'
    cases hc'

theorem findRange?_of_blank (h : MarkedLine content start line rest)
    (hblank : ∀ c ∈ line, isBlank c = true) :
    findRange? content = some (start.length + line.length, start.length) := by
  have hstart : trimStart line = [] := List.dropWhile_eq_nil_iff.2 hblank
  have hend : trimEnd line = [] := by
    rw [trimEnd, List.reverse_eq_nil_iff, List.dropWhile_eq_nil_iff]
    exact fun c hc => hblank c (List.mem_reverse.1 hc)
  rw [h.findRange?_eq, hstart, hend, List.length_nil, Nat.sub_zero, Nat.add_zero]

-- Anything else than white space is a name.
theorem names_of_leaves (h : MarkedLine content start line rest)
    (hline : Leaves line front name behind) (hne : name ≠ []) :
    Names content (start ++ front) name (behind ++ rest) := by
  obtain ⟨before, mark, rfl, hfirst⟩ := h.first
  have honeLine : ∀ c ∈ line, c ≠ '\n' := by
    rintro c hc rfl
    exact h.oneLine hc
  rw [hline.eq] at honeLine hfirst
  simp only [List.forall_mem_append] at honeLine
  refine ⟨⟨hne, hline.stops, hline.stops_end, fun hmem => honeLine.1.2 _ hmem rfl⟩,
    ⟨before, mark, front, rfl, fun c hc => ⟨hline.front c hc, honeLine.1.1 c hc⟩, ?_⟩,
    behind, rest, rfl, fun c hc => ⟨hline.behind c hc, honeLine.2 c hc⟩, h.ends⟩
  simpa only [List.append_assoc] using hfirst

end Leaves

/-- There is no range exactly when the content has no mark.  A range lies within the content, and
the text in it, which has no line feed, is what the line behind the first mark leaves without the
white space at its ends.  The start is where this text starts; it is not behind the end exactly when
the line is empty or has something else than white space. -/
theorem findRange?_leaves (content : List Char) :
    (findRange? content = none ↔
      ∀ before mark value, content = before ++ mark ++ value → ¬ IsMark mark) ∧
    ∀ start stop, findRange? content = some (start, stop) →
      start ≤ content.length ∧ stop ≤ content.length ∧ '\n' ∉ slice start stop content ∧
      ∃ before line rest front behind, MarkedLine content before line rest ∧
        Leaves line front (slice start stop content) behind ∧
        start = (before ++ front).length ∧
        (start ≤ stop ↔ line = [] ∨ ∃ c ∈ line, isBlank c = false) := by
  refine ⟨findRange?_eq_none_iff, fun start stop h => ?_⟩
  obtain ⟨before, mark, value, hfirst⟩ := exists_firstMark_of_findRange? h
  obtain ⟨line, rest, hline⟩ := exists_markedLine hfirst
  have hlength := congrArg List.length hline.eq
  rw [List.length_append, List.length_append] at hlength
  by_cases hblank : ∀ c ∈ line, isBlank c = true
  · rw [findRange?_of_blank hline hblank, Option.some.injEq, Prod.mk.injEq] at h
    obtain ⟨rfl, rfl⟩ := h
    have hslice : slice ((before ++ mark).length + line.length) (before ++ mark).length content =
        [] := by
      apply List.drop_eq_nil_of_le
      rw [List.length_take]
      omega
    have hnone : ¬ ∃ c ∈ line, isBlank c = false := by
      rintro ⟨c, hc, hnot⟩
      rw [hblank c hc] at hnot
      cases hnot
    refine ⟨by omega, by omega, ?_, _, line, rest, line, [], hline, ?_, ?_, ?_⟩
    · rw [hslice]
      exact List.not_mem_nil
    · rw [hslice]
      exact leaves_of_blank hblank
    · exact List.length_append.symm
    · rw [or_iff_left hnone, ← List.length_eq_zero_iff]
      omega
  · push Not at hblank
    obtain ⟨c, hc, hnot⟩ := hblank
    have hnot : isBlank c = false := Bool.eq_false_iff.2 hnot
    obtain ⟨front, name, behind, hleaves, hne⟩ := exists_leaves hc hnot
    have hnames := names_of_leaves hline hleaves hne
    rw [hnames.findRange?_eq, Option.some.injEq, Prod.mk.injEq] at h
    obtain ⟨rfl, rfl⟩ := h
    have hbounds := congrArg List.length hnames.eq
    rw [List.length_append, List.length_append] at hbounds
    refine ⟨by omega, by omega, ?_, _, line, rest, front, behind, hline, ?_, rfl, ?_⟩
    · rw [hnames.slice_eq]
      exact hnames.isName.oneLine
    · rwa [hnames.slice_eq]
    · exact iff_of_true (Nat.le_add_right _ _) (.inr ⟨c, hc, hnot⟩)

/-- Behind a mark with nothing but two spaces, the start of the range lies behind its end. -/
theorem findRange?_twoSpaces :
    findRange? "text/html; charset=  ".toList = some (21, 19) := by
  decide +kernel

end HeadLint.Charset
