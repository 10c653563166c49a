import HeadLint.Lint.Edit
import HeadLint.Proofs.Text.Runs

/-!
What the removal of an element takes out of a text: the span of the element and, when the whole
line may go, only white space around it.
-/

namespace HeadLint.Edit

open Text

/-- `Widens source start stop a b`: the range from `a` to `b` takes in the one from `start` to
`stop`, and otherwise only indentation before it and the rest of its line after it. -/
structure Widens (source : List Char) (start stop a b : Nat) : Prop where
  le_start : a ≤ start
  stop_le : stop ≤ b
  le_length : b ≤ source.length
  indent : ∀ i, a ≤ i → i < start → ∃ c, source[i]? = some c ∧ isIndent c = true
  rest : ∀ i, stop ≤ i → i < b → ∃ c, source[i]? = some c ∧ (isLineRest c = true ∨ c = '\n')

theorem Widens.refl {source : List Char} {start stop : Nat} (h : stop ≤ source.length) :
    Widens source start stop start stop :=
  ⟨Nat.le_refl _, Nat.le_refl _, h, fun _ _ _ => by omega, fun _ _ _ => by omega⟩

-- The elements of a run, by position.
theorem getElem?_of_lt_takeWhile {p : Char → Bool} {s : List Char} {i : Nat}
    (h : i < (s.takeWhile p).length) : ∃ c, s[i]? = some c ∧ p c = true := by
  obtain ⟨run, rest, rfl, hrun, -, htake, -⟩ := exists_run p s
  rw [htake] at h
  rw [List.getElem?_append_left h, List.getElem?_eq_getElem h]
  exact ⟨run[i], rfl, hrun _ (List.getElem_mem h)⟩

-- The run at the end of a text, by position.
theorem getElem?_of_reverse_takeWhile {p : Char → Bool} {s : List Char} {i : Nat}
    (hlow : s.length - (s.reverse.takeWhile p).length ≤ i) (hhigh : i < s.length) :
    ∃ c, s[i]? = some c ∧ p c = true := by
  obtain ⟨c, hget, hc⟩ := getElem?_of_lt_takeWhile (p := p) (s := s.reverse)
    (i := s.length - 1 - i) (by omega)
  rw [List.getElem?_reverse (by omega)] at hget
  have hindex : s.length - 1 - (s.length - 1 - i) = i := by omega
  rw [hindex] at hget
  exact ⟨c, hget, hc⟩

-- The indentation before a range.
theorem indent_before {source : List Char} {start : Nat} (hstart : start ≤ source.length) :
    ((source.take start).reverse.takeWhile isIndent).length ≤ start ∧
      ∀ i, start - ((source.take start).reverse.takeWhile isIndent).length ≤ i → i < start →
        ∃ c, source[i]? = some c ∧ isIndent c = true := by
  have hbefore : (source.take start).length = start := List.length_take_of_le hstart
  constructor
  · have hprefix := (List.takeWhile_prefix isIndent (l := (source.take start).reverse)).length_le
    rw [List.length_reverse, hbefore] at hprefix
    exact hprefix
  · intro i hlow hhigh
    obtain ⟨c, hget, hc⟩ := getElem?_of_reverse_takeWhile (p := isIndent) (s := source.take start)
      (i := i) (by omega) (by omega)
    rw [List.getElem?_take_of_lt hhigh] at hget
    exact ⟨c, hget, hc⟩

-- The rest of the line after a range.
theorem lineRest_after {source : List Char} {stop : Nat} (hstop : stop ≤ source.length) :
    stop + ((source.drop stop).takeWhile isLineRest).length ≤ source.length ∧
      ∀ i, stop ≤ i → i < stop + ((source.drop stop).takeWhile isLineRest).length →
        ∃ c, source[i]? = some c ∧ isLineRest c = true := by
  constructor
  · have hprefix := (List.takeWhile_prefix isLineRest (l := source.drop stop)).length_le
    rw [List.length_drop] at hprefix
    omega
  · intro i hlow hhigh
    obtain ⟨c, hget, hc⟩ := getElem?_of_lt_takeWhile (p := isLineRest) (s := source.drop stop)
      (i := i - stop) (by omega)
    rw [List.getElem?_drop] at hget
    have hindex : stop + (i - stop) = i := by omega
    rw [hindex] at hget
    exact ⟨c, hget, hc⟩

-- The widened range of a removal.
theorem lineBounds?_widens {source : List Char} {start stop : Nat} (hle : start ≤ stop)
    (hstop : stop ≤ source.length) :
    ∃ a b : Nat, lineBounds? source start stop = some ((a : Int), (b : Int)) ∧
      Widens source start stop a b := by
  obtain ⟨hindentLength, hindent⟩ := indent_before (show start ≤ source.length by omega)
  obtain ⟨hrestLength, hrest⟩ := lineRest_after hstop
  have hafter : textFrom source (stop : Int) = source.drop stop := by
    simp only [textFrom, Int.toNat_natCast]
    rw [if_neg (by omega)]
  simp only [lineBounds?, Int.toNat_natCast, hafter]
  rw [if_neg (by omega)]
  -- Behind other text on its line, the range stays as it is.
  by_cases hopens : (!opensLine (source.take start).reverse) = true
  · rw [if_pos hopens]
    exact ⟨start, stop, rfl, .refl hstop⟩
  rw [if_neg hopens, if_neg (by omega)]
  have hcut := List.takeWhile_append_dropWhile (p := isLineRest) (l := source.drop stop)
  generalize (source.drop stop).takeWhile isLineRest = run at *
  generalize (source.take start).reverse.takeWhile isIndent = lead at *
  have hlow : ((start - lead.length : Nat) : Int) = (start : Int) - lead.length := by omega
  -- The rest of the line is blank up to the end of the text, up to a newline, or not at all.
  cases htail : (source.drop stop).dropWhile isLineRest with
  | nil =>
    have hwiden : Widens source start stop (start - lead.length) (stop + run.length) :=
      ⟨by omega, by omega, hrestLength, hindent,
        fun i hi hlt => (hrest i hi hlt).imp fun c hc => ⟨hc.1, .inl hc.2⟩⟩
    refine ⟨start - lead.length, stop + run.length, ?_, hwiden⟩
    rw [hlow]
    simp only [Int.natCast_add]
    rw [if_pos (by omega)]
  | cons c tail =>
    by_cases hnewline : (c == '\n') = true
    · rw [htail] at hcut
      have hget : source[stop + run.length]? = some c := by
        rw [← List.getElem?_drop, ← hcut]
        simp
      have hlt : stop + run.length < source.length := (List.getElem?_eq_some_iff.1 hget).1
      have hwiden : Widens source start stop (start - lead.length) (stop + run.length + 1) := by
        refine ⟨by omega, by omega, by omega, hindent, ?_⟩
        intro i hi hlt
        by_cases hlast : i = stop + run.length
        · subst hlast
          exact ⟨c, hget, .inr (by simpa using hnewline)⟩
        · exact (hrest i hi (by omega)).imp fun d hd => ⟨hd.1, .inl hd.2⟩
      refine ⟨start - lead.length, stop + run.length + 1, ?_, hwiden⟩
      rw [hlow]
      simp only [Int.natCast_add, Int.natCast_one]
      rw [if_pos hnewline]
    · refine ⟨start, stop, ?_, .refl hstop⟩
      simp only
      rw [if_neg hnewline]

-- A position within the text is its own place.
theorem place_of_le {length n : Nat} (h : n ≤ length) : place length (n : Int) = n := by
  rw [place, if_neg (by omega), Int.toNat_natCast]
  omega

/-- The removal of an element cuts its span out of the text, with nothing but white space around
it. -/
theorem applied_removeElement {edit : Edit} {source : List Char} {span : Span} {start stop : Nat}
    (haction : edit.action = .removeElement) (hspan : edit.span = some span)
    (hstart : span.start = start) (hstop : span.stop = stop) (hle : start ≤ stop)
    (hlength : stop ≤ source.length) :
    ∃ a b : Nat, edit.bounds? span source = some ((a : Int), (b : Int)) ∧
      edit.applied source = .ok (source.take a ++ source.drop b) ∧
      Widens source start stop a b := by
  have hbounds : ∃ a b : Nat, edit.bounds? span source = some ((a : Int), (b : Int)) ∧
      Widens source start stop a b := by
    rw [bounds?, hstart, hstop]
    split
    · exact lineBounds?_widens hle hlength
    · exact ⟨start, stop, rfl, .refl hlength⟩
  obtain ⟨a, b, hab, hwidens⟩ := hbounds
  refine ⟨a, b, hab, ?_, hwidens⟩
  have ha := hwidens.le_start
  have hb := hwidens.le_length
  simp only [applied, hspan, hab, insertion, haction, splice,
    place_of_le (show a ≤ source.length by omega), place_of_le hb, List.append_nil]

end HeadLint.Edit
