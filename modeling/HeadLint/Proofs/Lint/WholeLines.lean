import HeadLint.Proofs.Lint.Removal

/-!
Removal of whole lines.  A range that stands alone on its lines is widened to whole lines, any other
range stays as it is; either way nothing but blanks and one line end goes with it.
-/

namespace HeadLint.Edit

open Text

/-! ## The line around a range -/

/-- What stands before a position on its line, from right to left. -/
def lineBefore (source : List Char) (start : Nat) : List Char :=
  (source.take start).reverse.takeWhile (· != '\n')

/-- What stands behind a position on its line. -/
def lineBehind (source : List Char) (stop : Nat) : List Char :=
  (source.drop stop).takeWhile (· != '\n')

/-- The end of the line behind a position; nothing on the last line of a text. -/
def lineBreak (source : List Char) (stop : Nat) : List Char :=
  ((source.drop stop).dropWhile (· != '\n')).take 1

/-- Where the line of a position starts. -/
def lineFrom (source : List Char) (start : Nat) : Nat :=
  start - (lineBefore source start).length

/-- Where the line of a position ends, with its newline. -/
def lineTo (source : List Char) (stop : Nat) : Nat :=
  stop + ((lineBehind source stop).length + (lineBreak source stop).length)

/-- There is only indentation before the range on its first line, and only blanks behind it on its
last one. -/
def AloneOnLines (source : List Char) (start stop : Nat) : Prop :=
  (∀ c ∈ lineBefore source start, isIndent c = true) ∧
    ∀ c ∈ lineBehind source stop, isLineRest c = true

instance (source : List Char) (start stop : Nat) : Decidable (AloneOnLines source start stop) :=
  decidable_of_iff
    ((lineBefore source start).all isIndent = true ∧ (lineBehind source stop).all isLineRest = true)
    (and_congr List.all_eq_true List.all_eq_true)

/-- A place right behind a newline. -/
def BehindNewline (source : List Char) (place : Nat) : Prop :=
  ∃ i, place = i + 1 ∧ source[i]? = some '\n'

/-- A range of whole lines: it starts where a line starts, and it ends where a line ends. -/
def WholeLines (source : List Char) (start stop : Nat) : Prop :=
  (start = 0 ∨ BehindNewline source start) ∧ (stop = source.length ∨ BehindNewline source stop)

-- A run that takes all of a line ends where the line does.
theorem takeWhile_of_line {p : Char → Bool} (hp : p '\n' = false) {s : List Char}
    (h : ∀ c ∈ s.takeWhile (· != '\n'), p c = true) :
    s.takeWhile p = s.takeWhile (· != '\n') ∧ s.dropWhile p = s.dropWhile (· != '\n') := by
  obtain ⟨line, tail, hs, -, htail, htake, hdrop⟩ := exists_run (· != '\n') s
  rw [htake] at h
  have hstop : Stops p tail := by
    intro c hc
    have hnewline : (c != '\n') = false := htail c hc
    rw [bne_eq_false_iff_eq] at hnewline
    rw [hnewline, hp]
  rw [htake, hdrop, hs]
  exact ⟨takeWhile_run h hstop, dropWhile_run h hstop⟩

-- A run takes all of a line exactly when only a newline or the end of the text stops it.
theorem stops_newline_iff {p : Char → Bool} (hp : p '\n' = false) (s : List Char) :
    Stops (· != '\n') (s.dropWhile p) ↔ ∀ c ∈ s.takeWhile (· != '\n'), p c = true := by
  constructor
  · intro hstops
    obtain ⟨run, rest, hs, hrun, -, -, hdrop⟩ := exists_run p s
    rw [hdrop] at hstops
    have hline : ∀ c ∈ run, (c != '\n') = true := by
      intro c hc
      rw [bne_iff_ne]
      intro hnewline
      rw [hnewline] at hc
      rw [hrun _ hc] at hp
      cases hp
    rw [hs, takeWhile_run hline hstops]
    exact hrun
  · intro hall
    rw [(takeWhile_of_line hp hall).2]
    exact stops_dropWhile s

theorem opensLine_iff (source : List Char) (start : Nat) :
    opensLine (source.take start).reverse = true ↔
      ∀ c ∈ lineBefore source start, isIndent c = true := by
  unfold lineBefore opensLine
  rw [← stops_newline_iff (by decide)]
  cases (source.take start).reverse.dropWhile isIndent with
  | nil => simp [stops_nil]
  | cons c rest => simp [stops_cons]

/-! ## The widened range -/

theorem textFrom_natCast (source : List Char) (position : Nat) :
    textFrom source (position : Int) = source.drop position := by
  unfold textFrom
  rw [if_neg (by omega), Int.toNat_natCast]

theorem length_lineBefore_le {source : List Char} {start : Nat} (hstart : start ≤ source.length) :
    (lineBefore source start).length ≤ start := by
  unfold lineBefore
  have hprefix := (List.takeWhile_prefix (· != '\n') (l := (source.take start).reverse)).length_le
  rw [List.length_reverse, List.length_take_of_le hstart] at hprefix
  exact hprefix

-- The two ends of the lines on which a range stands alone.
theorem lineBounds?_of_alone {source : List Char} {start stop : Nat} (hle : start ≤ stop)
    (hstop : stop ≤ source.length) (h : AloneOnLines source start stop) :
    lineBounds? source start stop =
      some ((lineFrom source start : Int), (lineTo source stop : Int)) := by
  have hindent := length_lineBefore_le (show start ≤ source.length by omega)
  unfold lineFrom lineTo
  rw [Int.natCast_sub hindent, Int.natCast_add]
  have hopens : opensLine (source.take start).reverse = true := (opensLine_iff source start).2 h.1
  have hlead := (takeWhile_of_line (p := isIndent) (by decide) h.1).1
  have hrest := takeWhile_of_line (p := isLineRest) (by decide) h.2
  have hstops : Stops (· != '\n') ((source.drop stop).dropWhile (· != '\n')) := stops_dropWhile _
  simp only [lineBounds?, Int.toNat_natCast, textFrom_natCast, hopens, hlead, hrest, lineBefore,
    lineBehind, lineBreak]
  rw [if_neg (by omega), if_neg (by decide), if_neg (by omega)]
  cases htail : (source.drop stop).dropWhile (· != '\n') with
  | nil =>
    dsimp only
    rw [if_pos (by omega)]
    simp
  | cons c tail =>
    rw [htail] at hstops
    have hnewline : (c == '\n') = true := by simpa using stops_cons.1 hstops
    dsimp only
    rw [if_pos hnewline]
    simp
    omega

theorem lineBounds?_of_not_alone {source : List Char} {start stop : Nat} (hle : start ≤ stop)
    (hstop : stop ≤ source.length) (h : ¬ AloneOnLines source start stop) :
    lineBounds? source start stop = some ((start : Int), (stop : Int)) := by
  unfold lineBounds?
  simp only [Int.toNat_natCast, textFrom_natCast]
  rw [if_neg (by omega)]
  by_cases hopens : opensLine (source.take start).reverse = true
  · rw [if_neg (by simp [hopens]), if_neg (by omega)]
    -- Only what stands behind the range can be in its way.
    have hblocked : ¬ Stops (· != '\n') ((source.drop stop).dropWhile isLineRest) := by
      intro hstops
      exact h ⟨(opensLine_iff source start).1 hopens, (stops_newline_iff (by decide) _).1 hstops⟩
    cases htail : (source.drop stop).dropWhile isLineRest with
    | nil =>
      rw [htail] at hblocked
      exact absurd stops_nil hblocked
    | cons c tail =>
      rw [htail, stops_cons] at hblocked
      have hother : ¬ (c == '\n') = true := by simpa using hblocked
      dsimp only
      rw [if_neg hother]
  · rw [if_pos (by simp [hopens])]

/-- The range from `s` to `e` is what goes with the range from `start` to `stop`: it adds only
indentation before it, and blanks and one line end behind it; it is a range of whole lines when
there is nothing else on them, and otherwise it adds nothing. -/
structure LineRange (source : List Char) (start stop s e : Nat) : Prop where
  le_start : s ≤ start
  stop_le : stop ≤ e
  le_length : e ≤ source.length
  indent : ∀ c ∈ slice s start source, isIndent c = true
  rest : ∃ blanks newline, slice stop e source = blanks ++ newline ∧
    (∀ c ∈ blanks, isLineRest c = true) ∧ (newline = [] ∨ newline = ['\n'])
  whole : AloneOnLines source start stop → WholeLines source s e
  same : ¬ AloneOnLines source start stop → s = start ∧ e = stop

-- The text up to a position, cut where the line of that position starts.
theorem exists_line_before (source : List Char) (start : Nat) :
    ∃ front, source.take start = front ++ (lineBefore source start).reverse ∧
      (front = [] ∨ ∃ lines, front = lines ++ ['\n']) := by
  obtain ⟨line, rest, hs, -, hrest, htake, -⟩ := exists_run (· != '\n') (source.take start).reverse
  refine ⟨rest.reverse, ?_, ?_⟩
  · unfold lineBefore
    rw [htake, ← List.reverse_append, ← hs, List.reverse_reverse]
  · cases rest with
    | nil => exact .inl rfl
    | cons c rest =>
      have hnewline : c = '\n' := by simpa using stops_cons.1 hrest
      exact .inr ⟨rest.reverse, by rw [hnewline, List.reverse_cons]⟩

-- The text from a position on, cut where the line of that position ends.
theorem exists_line_behind (source : List Char) (stop : Nat) :
    ∃ back, source.drop stop = lineBehind source stop ++ lineBreak source stop ++ back ∧
      (lineBreak source stop = ['\n'] ∨ lineBreak source stop = [] ∧ back = []) := by
  obtain ⟨line, rest, hs, -, hrest, htake, hdrop⟩ := exists_run (· != '\n') (source.drop stop)
  refine ⟨rest.drop 1, ?_, ?_⟩
  · unfold lineBehind lineBreak
    rw [htake, hdrop, List.append_assoc, List.take_append_drop, hs]
  · unfold lineBreak
    rw [hdrop]
    cases rest with
    | nil => exact .inr ⟨rfl, rfl⟩
    | cons c rest =>
      have hnewline : c = '\n' := by simpa using stops_cons.1 hrest
      exact .inl (by rw [hnewline]; rfl)

theorem wholeLines_around {source : List Char} {start stop : Nat} (hstart : start ≤ source.length)
    (hstop : stop ≤ source.length) :
    WholeLines source (lineFrom source start) (lineTo source stop) := by
  obtain ⟨front, hfront, hopens⟩ := exists_line_before source start
  obtain ⟨back, hback, hcloses⟩ := exists_line_behind source stop
  have hfrontLength := congrArg List.length hfront
  have hbackLength := congrArg List.length hback
  rw [List.length_take_of_le hstart, List.length_append, List.length_reverse] at hfrontLength
  rw [List.length_drop, List.length_append, List.length_append] at hbackLength
  unfold lineFrom lineTo
  constructor
  · rcases hopens with rfl | ⟨lines, rfl⟩
    · left
      rw [List.length_nil] at hfrontLength
      omega
    · right
      rw [List.length_append, List.length_singleton] at hfrontLength
      refine ⟨lines.length, by omega, ?_⟩
      rw [← List.getElem?_take_of_lt (show lines.length < start by omega), hfront]
      simp
  · rcases hcloses with hnewline | ⟨hnone, rfl⟩
    · right
      rw [hnewline] at hback ⊢
      refine ⟨stop + (lineBehind source stop).length, rfl, ?_⟩
      rw [← List.getElem?_drop, hback]
      simp
    · left
      rw [List.length_nil] at hbackLength
      omega

theorem lineRange_of_alone {source : List Char} {start stop : Nat} (hle : start ≤ stop)
    (hstop : stop ≤ source.length) (h : AloneOnLines source start stop) :
    LineRange source start stop (lineFrom source start) (lineTo source stop) := by
  obtain ⟨front, hfront, -⟩ := exists_line_before source start
  obtain ⟨back, hback, hcloses⟩ := exists_line_behind source stop
  have hfrontLength := congrArg List.length hfront
  have hbackLength := congrArg List.length hback
  rw [List.length_take_of_le (by omega), List.length_append, List.length_reverse] at hfrontLength
  rw [List.length_drop, List.length_append, List.length_append] at hbackLength
  unfold lineFrom lineTo
  refine ⟨by omega, by omega, by omega, ?_, ?_, ?_, fun halone => absurd h halone⟩
  · have hindent : slice (start - (lineBefore source start).length) start source =
        (lineBefore source start).reverse := by
      unfold slice
      rw [hfront, show start - (lineBefore source start).length = front.length by omega,
        List.drop_left]
    intro c hc
    rw [hindent, List.mem_reverse] at hc
    exact h.1 c hc
  · refine ⟨lineBehind source stop, lineBreak source stop, ?_, h.2, ?_⟩
    · unfold slice
      rw [List.drop_take, hback, Nat.add_sub_cancel_left, ← List.length_append, List.take_left]
    · exact hcloses.symm.imp_left And.left
  · intro _
    exact wholeLines_around (by omega) hstop

theorem lineRange_of_not_alone {source : List Char} {start stop : Nat}
    (hstop : stop ≤ source.length) (h : ¬ AloneOnLines source start stop) :
    LineRange source start stop start stop := by
  have hnone : ∀ place, slice place place source = [] := by
    intro place
    unfold slice
    rw [List.drop_take, Nat.sub_self, List.take_zero]
  refine ⟨Nat.le_refl _, Nat.le_refl _, hstop, ?_, ⟨[], [], hnone stop, ?_, .inl rfl⟩,
    fun halone => absurd halone h, fun _ => ⟨rfl, rfl⟩⟩
  · rw [hnone]
    simp
  · simp

-- The widened range of a removal, with what it adds.
theorem exists_lineRange {source : List Char} {start stop : Nat} (hle : start ≤ stop)
    (hstop : stop ≤ source.length) :
    ∃ s e : Nat, lineBounds? source start stop = some ((s : Int), (e : Int)) ∧
      LineRange source start stop s e := by
  by_cases h : AloneOnLines source start stop
  · exact ⟨_, _, lineBounds?_of_alone hle hstop h, lineRange_of_alone hle hstop h⟩
  · exact ⟨start, stop, lineBounds?_of_not_alone hle hstop h, lineRange_of_not_alone hstop h⟩

theorem LineRange.cut {source : List Char} {start stop s e : Nat}
    (h : LineRange source start stop s e) (hle : start ≤ stop) :
    source = source.take s ++ slice s start source ++ slice start stop source ++
      slice stop e source ++ source.drop e := by
  have htake : ∀ {a b : Nat}, a ≤ b → source.take a ++ slice a b source = source.take b := by
    intro a b hab
    unfold slice
    rw [show source.take a = (source.take b).take a by rw [List.take_take, Nat.min_eq_left hab],
      List.take_append_drop]
  rw [htake h.le_start, htake hle, htake h.stop_le, List.take_append_drop]

/-- The removal of a range of the text together with its line takes out the range and around it only
indentation, blanks and one line end; whole lines go exactly when there is nothing else on them, and
all other text stays as it is. -/
theorem applied_removeLine {source : List Char} {start stop : Nat} (hle : start ≤ stop)
    (hstop : stop ≤ source.length) :
    ∃ s e : Nat, lineBounds? source start stop = some ((s : Int), (e : Int)) ∧
      LineRange source start stop s e ∧
      source = source.take s ++ slice s start source ++ slice start stop source ++
        slice stop e source ++ source.drop e ∧
      ∀ (edit : Edit) (line column : Int), edit.action = .removeElement →
        edit.includeLine = true → edit.span = some ⟨start, stop, line, column⟩ →
        edit.applied source = .ok (source.take s ++ source.drop e) := by
  obtain ⟨s, e, hbounds, hrange⟩ := exists_lineRange hle hstop
  refine ⟨s, e, hbounds, hrange, hrange.cut hle, ?_⟩
  intro edit line column haction hline hspan
  have hs : s ≤ source.length := by
    have hstart := hrange.le_start
    omega
  unfold applied bounds?
  simp only [hspan, haction, hline, and_self, if_true, hbounds, insertion, splice, place_of_le hs,
    place_of_le hrange.le_length, List.append_nil]

/-- A head whose only child stands on a line of its own. -/
def indentedBase : List Char := "<head>\n\t<base> \r\n</head>".toList

/-- The removal of that child with its line. -/
def baseRemoval : Edit :=
  { id := "removeDuplicate", message := "Remove this duplicate <base> element"
    action := .removeElement, includeLine := true, span := some ⟨8, 14, 2, 1⟩ }

theorem applied_removeLine_indentedBase :
    AloneOnLines indentedBase 8 14 ∧
      ∃ s e : Nat, lineBounds? indentedBase 8 14 = some ((s : Int), (e : Int)) ∧
        WholeLines indentedBase s e ∧
        baseRemoval.applied indentedBase = .ok (indentedBase.take s ++ indentedBase.drop e) ∧
        indentedBase.take s ++ indentedBase.drop e = "<head>\n</head>".toList := by
  have halone : AloneOnLines indentedBase 8 14 := by decide
  have hplaces : lineBounds? indentedBase 8 14 = some (7, 17) := by decide
  obtain ⟨s, e, hbounds, hrange, -, happlied⟩ :=
    applied_removeLine (show 8 ≤ 14 by decide) (show 14 ≤ indentedBase.length by decide)
  have hremoved := happlied baseRemoval 2 1 rfl rfl rfl
  obtain ⟨hs, he⟩ := Prod.mk.inj (Option.some.inj (hbounds.symm.trans hplaces))
  refine ⟨halone, s, e, hbounds, hrange.whole halone, hremoved, ?_⟩
  rw [show s = 7 by omega, show e = 17 by omega]
  rfl

end HeadLint.Edit
