import HeadLint.Proofs.Markup.Agreement
import Mathlib.Data.List.Sort

/-!
Lines by a table.  The table of a text holds where each of its lines starts.  A binary search in it
gives every range its line and column, and it leads back from the line and column at which a parser
finds a start tag to the offset of that tag, though the parser never sees a mark of byte order.
-/

namespace HeadLint

namespace Markup

/-! ## The table -/

/-- The offsets behind the line feeds of a text that stands at an offset. -/
def lineEnds (offset : Nat) : List Char → List Nat
  | [] => []
  | c :: rest =>
    if c == '\n' then (offset + 1) :: lineEnds (offset + 1) rest else lineEnds (offset + 1) rest

/-- The table of a text: where each of its lines starts. -/
def lineStarts (source : List Char) : List Nat :=
  0 :: lineEnds 0 source

theorem lineEnds_append (offset : Nat) (s t : List Char) :
    lineEnds offset (s ++ t) = lineEnds offset s ++ lineEnds (offset + s.length) t := by
  induction s generalizing offset with
  | nil => rfl
  | cons c s ih =>
    have hoffset : offset + (c :: s).length = offset + 1 + s.length := by
      rw [List.length_cons]
      omega
    rw [List.cons_append, lineEnds, lineEnds, ih, hoffset]
    split <;> rfl

theorem lineStarts_append (s t : List Char) :
    lineStarts (s ++ t) = lineStarts s ++ lineEnds s.length t := by
  rw [lineStarts, lineStarts, lineEnds_append, Nat.zero_add, List.cons_append]

theorem length_lineEnds (offset : Nat) (s : List Char) :
    (lineEnds offset s).length = s.count '\n' := by
  induction s generalizing offset with
  | nil => rfl
  | cons c s ih =>
    rw [lineEnds, List.count_cons]
    split
    · rw [List.length_cons, ih]
    · rw [ih, Nat.add_zero]

theorem length_lineStarts (source : List Char) :
    (lineStarts source).length = source.count '\n' + 1 := by
  rw [lineStarts, List.length_cons, length_lineEnds]

theorem mem_lineEnds {offset x : Nat} {s : List Char} (h : x ∈ lineEnds offset s) :
    offset < x ∧ x ≤ offset + s.length := by
  induction s generalizing offset with
  | nil => cases h
  | cons c s ih =>
    have hx : x = offset + 1 ∨ x ∈ lineEnds (offset + 1) s := by
      rw [lineEnds] at h
      split at h
      · exact List.mem_cons.1 h
      · exact .inr h
    rw [List.length_cons]
    rcases hx with rfl | hx
    · omega
    · have hbounds := ih hx
      omega

theorem mem_lineStarts_le {x : Nat} {source : List Char} (h : x ∈ lineStarts source) :
    x ≤ source.length := by
  rcases List.mem_cons.1 h with rfl | h
  · exact Nat.zero_le _
  · have hbounds := mem_lineEnds h
    omega

theorem lineEnds_sorted (offset : Nat) (s : List Char) :
    (lineEnds offset s).Pairwise (· < ·) := by
  induction s generalizing offset with
  | nil => exact .nil
  | cons c s ih =>
    rw [lineEnds]
    split
    · exact .cons (fun x hx => (mem_lineEnds hx).1) (ih _)
    · exact ih _

theorem lineStarts_sorted (source : List Char) : (lineStarts source).Pairwise (· < ·) :=
  .cons (fun _ hx => (mem_lineEnds hx).1) (lineEnds_sorted 0 source)

/-- The line of a position stands in the table, behind one entry for each line feed before it. -/
theorem getElem?_lineStarts {before lines begun : List Char} (h : LineCut before lines begun)
    (after : List Char) :
    (lineStarts (before ++ after))[before.count '\n']? = some lines.length := by
  have hcount : before.count '\n' = lines.count '\n' := by
    rw [h.text, List.count_append, List.count_eq_zero.2 h.begun, Nat.add_zero]
  rw [hcount, h.text, List.append_assoc]
  rcases h.lines with rfl | hlast
  · rfl
  · obtain ⟨text, rfl⟩ := List.getLast?_eq_some_iff.1 hlast
    have hfeed : lineEnds text.length ['\n'] = [text.length + 1] := rfl
    have hindex : (text ++ ['\n']).count '\n' = (lineStarts text).length := by
      rw [List.count_append, length_lineStarts]
      rfl
    rw [lineStarts_append, lineStarts_append, hfeed, List.append_assoc, hindex,
      List.getElem?_append_right (Nat.le_refl _), Nat.sub_self, List.length_append]
    rfl

/-! ## The search -/

/-- How many entries of a table in rising order are at most `x`, when those before `lo` are and
those from `hi` on are not. -/
def bisectRight (table : List Nat) (x lo hi : Nat) : Nat :=
  if lo < hi then
    if x < table.getD ((lo + hi) / 2) 0 then bisectRight table x lo ((lo + hi) / 2)
    else bisectRight table x ((lo + hi) / 2 + 1) hi
  else lo
termination_by hi - lo

/-- What the search keeps: the entries before `lo` are at most `x`, those from `hi` on above it. -/
structure Brackets (table : List Nat) (x lo hi : Nat) : Prop where
  le : lo ≤ hi
  le_length : hi ≤ table.length
  below : ∀ i (h : i < table.length), i < lo → table[i] ≤ x
  above : ∀ i (h : i < table.length), hi ≤ i → x < table[i]

section Search

variable {table : List Nat} {x lo hi : Nat}

-- One step keeps the half in which the answer lies.
theorem Brackets.step (hsorted : table.Pairwise (· < ·)) (h : Brackets table x lo hi)
    (hlt : lo < hi) :
    if x < table.getD ((lo + hi) / 2) 0 then Brackets table x lo ((lo + hi) / 2)
    else Brackets table x ((lo + hi) / 2 + 1) hi := by
  have hrising := hsorted.sortedLT
  have hle_length := h.le_length
  have hmid : (lo + hi) / 2 < table.length := by omega
  have hentry : table.getD ((lo + hi) / 2) 0 = table[(lo + hi) / 2] := by
    rw [List.getD_eq_getElem?_getD, List.getElem?_eq_getElem hmid, Option.getD_some]
  rw [hentry]
  split
  · rename_i habove
    refine ⟨by omega, by omega, h.below, fun i hi hle => ?_⟩
    exact Nat.lt_of_lt_of_le habove (hrising.getElem_le_getElem_iff.2 hle)
  · rename_i hbelow
    refine ⟨by omega, h.le_length, fun i hi hlo => ?_, h.above⟩
    exact Nat.le_trans (hrising.getElem_le_getElem_iff.2 (by omega)) (Nat.not_lt.1 hbelow)

theorem Brackets.run (hsorted : table.Pairwise (· < ·)) (h : Brackets table x lo hi) :
    Brackets table x (bisectRight table x lo hi) (bisectRight table x lo hi) := by
  fun_induction bisectRight table x lo hi with
  | case1 lo hi hlt habove ih => exact ih (by simpa only [if_pos habove] using h.step hsorted hlt)
  | case2 lo hi hlt hbelow ih => exact ih (by simpa only [if_neg hbelow] using h.step hsorted hlt)
  | case3 lo hi hge =>
    obtain rfl : hi = lo := Nat.le_antisymm (Nat.not_lt.1 hge) h.le
    exact h

theorem Brackets.unique {k l : Nat} (hk : Brackets table x k k) (hl : Brackets table x l l) :
    k = l := by
  have hnot : ∀ {k l : Nat}, Brackets table x k k → Brackets table x l l → ¬ k < l := by
    intro k l hk hl hlt
    have hlength := Nat.lt_of_lt_of_le hlt hl.le_length
    have hle := hl.below k hlength hlt
    have hgt := hk.above k hlength (Nat.le_refl k)
    omega
  exact Nat.le_antisymm (Nat.not_lt.1 (hnot hl hk)) (Nat.not_lt.1 (hnot hk hl))

end Search

/-- The line of an offset, by a search in the whole table. -/
def lineOf (table : List Nat) (offset : Nat) : Nat :=
  bisectRight table offset 0 table.length

/-- The column of an offset, from where its line starts. -/
def columnOf (table : List Nat) (offset : Nat) : Int :=
  offset - table.getD (lineOf table offset - 1) 0

-- The table is cut at a position by the lines that start up to it.
theorem brackets_lineStarts (before after : List Char) :
    Brackets (lineStarts (before ++ after)) before.length (before.count '\n' + 1)
      (before.count '\n' + 1) := by
  rw [lineStarts_append, ← length_lineStarts]
  refine ⟨Nat.le_refl _, ?_, fun i hi hlt => ?_, fun i hi hle => ?_⟩
  · rw [List.length_append]
    omega
  · rw [List.getElem_append_left hlt]
    exact mem_lineStarts_le (List.getElem_mem hlt)
  · rw [List.getElem_append_right hle]
    exact (mem_lineEnds (List.getElem_mem _)).1

theorem lineOf_lineStarts {source : List Char} {offset : Nat} (h : offset ≤ source.length) :
    lineOf (lineStarts source) offset = (source.take offset).count '\n' + 1 := by
  have hall : Brackets (lineStarts source) offset 0 (lineStarts source).length :=
    ⟨Nat.zero_le _, Nat.le_refl _, fun _ _ hlt => absurd hlt (Nat.not_lt_zero _),
      fun _ hlt hle => absurd hlt (Nat.not_lt.2 hle)⟩
  have hcut := brackets_lineStarts (source.take offset) (source.drop offset)
  rw [List.take_append_drop, List.length_take_of_le h] at hcut
  exact (hall.run (lineStarts_sorted source)).unique hcut

end Markup

open Markup

/-- A span has the line and the column that the search in the table gives for its start. -/
structure Span.OnTable (table : List Nat) (span : Span) : Prop where
  line : span.line = lineOf table span.start.toNat
  column : span.column = columnOf table span.start.toNat

-- What a span says of its line is what the table says.
theorem Span.OnLine.onTable {source : List Char} {span : Span} (h : span.OnLine source)
    (hnonneg : 0 ≤ span.start) (hle : span.start ≤ source.length) :
    span.OnTable (lineStarts source) := by
  have hline : lineOf (lineStarts source) span.start.toNat =
      (source.take span.start.toNat).count '\n' + 1 :=
    lineOf_lineStarts (by omega)
  obtain ⟨lines, begun, hcut, hcolumn⟩ := h.column
  have hstart := getElem?_lineStarts hcut (source.drop span.start.toNat)
  rw [List.take_append_drop] at hstart
  refine ⟨?_, ?_⟩
  · rw [h.line, hline, Int.add_comm]
    rfl
  · rw [columnOf, hline, Nat.add_sub_cancel, List.getD_eq_getElem?_getD, hstart,
      Option.getD_some, hcolumn, Int.toNat_of_nonneg hnonneg]

/-- Counting line feeds gives every span the line and the column of the search in the table. -/
theorem Markup.onTable_spanOf {source : List Char} {start : Nat} (stop : Nat)
    (h : start ≤ source.length) : (spanOf source start stop).OnTable (lineStarts source) :=
  (onLine_spanOf stop h).onTable (Int.natCast_nonneg start) (Int.ofNat_le.2 h)

/-! ## Places -/

namespace Markup

/-- A place in a text: its line, counted from one, and its column, counted from zero. -/
structure Place where
  line : Nat
  column : Nat

/-- The place behind one more character. -/
def Place.next (p : Place) (c : Char) : Place :=
  if c == '\n' then ⟨p.line + 1, 0⟩ else ⟨p.line, p.column + 1⟩

/-- The place at the end of a text, as a parser counts it that reads the text from its start. -/
def placeAfter (before : List Char) : Place :=
  before.foldl Place.next ⟨1, 0⟩

/-- The offset of a place, unless the table has no such line.  The columns of the first line are
short by the mark that was hidden from the parser. -/
def offsetOf? (table : List Nat) (mark : Nat) (p : Place) : Option Nat :=
  (table[p.line - 1]?).map fun start => start + p.column + if p.line = 1 then mark else 0

theorem line_foldl_next (s : List Char) (p : Place) :
    (s.foldl Place.next p).line = p.line + s.count '\n' := by
  induction s generalizing p with
  | nil => rfl
  | cons c s ih =>
    rw [List.foldl_cons, ih, Place.next, List.count_cons]
    split
    · rw [Nat.add_assoc, Nat.add_comm 1]
    · rfl

theorem column_foldl_next {s : List Char} (h : '\n' ∉ s) (p : Place) :
    (s.foldl Place.next p).column = p.column + s.length := by
  induction s generalizing p with
  | nil => rfl
  | cons c s ih =>
    obtain ⟨hc, hs⟩ := List.ne_and_not_mem_of_not_mem_cons h
    have hnext : p.next c = ⟨p.line, p.column + 1⟩ := by
      rw [Place.next, if_neg (by simpa using hc.symm)]
    rw [List.foldl_cons, ih hs, hnext, List.length_cons, Nat.add_assoc, Nat.add_comm 1]

theorem line_placeAfter (before : List Char) :
    (placeAfter before).line = before.count '\n' + 1 := by
  rw [placeAfter, line_foldl_next, Nat.add_comm]

theorem column_placeAfter {before lines begun : List Char} (h : LineCut before lines begun) :
    (placeAfter before).column = begun.length := by
  have hlines : (placeAfter lines).column = 0 := by
    rcases h.lines with rfl | hlast
    · rfl
    · obtain ⟨text, rfl⟩ := List.getLast?_eq_some_iff.1 hlast
      rw [placeAfter, List.foldl_append]
      rfl
  rw [placeAfter, h.text, List.foldl_append, column_foldl_next h.begun]
  change (placeAfter lines).column + begun.length = begun.length
  rw [hlines, Nat.zero_add]

-- A mark in front of the first line makes that line longer, and moves all others.
theorem lineCut_append {mark before lines begun : List Char} (hmark : '\n' ∉ mark)
    (h : LineCut before lines begun) :
    LineCut (mark ++ before) (if lines = [] then [] else mark ++ lines)
      (if lines = [] then mark ++ begun else begun) := by
  rcases h.lines with rfl | hlast
  · rw [if_pos rfl, if_pos rfl]
    refine ⟨by rw [h.text, List.nil_append, List.nil_append], fun hmem => ?_, .inl rfl⟩
    exact (List.mem_append.1 hmem).elim hmark h.begun
  · have hne : lines ≠ [] := by
      rintro rfl
      cases hlast
    rw [if_neg hne, if_neg hne]
    refine ⟨by rw [h.text, List.append_assoc], h.begun, .inr ?_⟩
    rw [List.getLast?_append, hlast]
    rfl

/-- The table leads from a place in the text behind a mark to its offset in the whole text. -/
theorem offsetOf?_placeAfter {mark : List Char} (hmark : '\n' ∉ mark) (before after : List Char) :
    offsetOf? (lineStarts (mark ++ before ++ after)) mark.length (placeAfter before) =
      some (before.length + mark.length) := by
  obtain ⟨lines, begun, hcut, -⟩ := exists_lineCut before
  have hstart := getElem?_lineStarts (lineCut_append hmark hcut) after
  rw [List.count_append, List.count_eq_zero.2 hmark, Nat.zero_add] at hstart
  have hlength := congrArg List.length hcut.text
  rw [List.length_append] at hlength
  rw [offsetOf?, line_placeAfter, Nat.add_sub_cancel, hstart, column_placeAfter hcut,
    Option.map_some]
  congr 1
  -- The first line is the one with no line feed before it.
  rcases hcut.lines with rfl | hlast
  · have hfirst : before.count '\n' = 0 := by
      rw [hcut.text, List.nil_append]
      exact List.count_eq_zero.2 hcut.begun
    rw [if_pos rfl, hfirst, if_pos rfl]
    simpa using hlength.symm
  · obtain ⟨text, rfl⟩ := List.getLast?_eq_some_iff.1 hlast
    have hlater : before.count '\n' + 1 ≠ 1 := by
      have hpos : 0 < before.count '\n' := List.count_pos_iff.2 (by simp [hcut.text])
      omega
    rw [if_neg (by simp), if_neg hlater, List.length_append]
    omega

end Markup

/-! ## Documents -/

/-- The ranges that are recorded for an element: its own, and those of its attribute values. -/
def Element.ranges (e : Element) : List Span :=
  e.span.toList ++ e.attrSpans.map (·.2)

theorem Element.WellPlaced.onTable {source : List Char} {e : Element} (h : e.WellPlaced source)
    {span : Span} (hspan : span ∈ e.ranges) : span.OnTable (lineStarts source) := by
  rw [Element.WellPlaced] at h
  rw [Element.ranges] at hspan
  cases hwhole : e.span with
  | none =>
    rw [hwhole] at h hspan
    simp [h] at hspan
  | some whole =>
    rw [hwhole] at h hspan
    have hstart := h.start_nonneg
    have hlt := h.start_lt
    have hstop := h.stop_le
    rcases List.mem_cons.1 hspan with rfl | hvalue
    · exact h.onLine.onTable hstart (by omega)
    · obtain ⟨attr, hattr, rfl⟩ := List.mem_map.1 hvalue
      obtain ⟨hbehind, hle, hwithin, honLine⟩ := h.values attr hattr
      exact honLine.onTable (by omega) (by omega)

namespace Document

-- A mark is one character, and no line feed.
theorem lineFeed_not_mem_mark (source : List Char) : '\n' ∉ source.take (markLength source) := by
  rw [markLength]
  split
  · rename_i hhead
    obtain ⟨rest, rfl⟩ := List.head?_eq_some_iff.1 hhead
    simp
  · exact List.not_mem_nil

/-- The table leads from the place of a start tag, in the text behind the mark, to its offset. -/
theorem offsetOf?_behind_mark {source : List Char} {offset : Nat}
    (h : offset ≤ (source.drop (markLength source)).length) :
    offsetOf? (lineStarts source) (markLength source)
        (placeAfter ((source.drop (markLength source)).take offset)) =
      some (offset + markLength source) := by
  have hoffset := offsetOf?_placeAfter (lineFeed_not_mem_mark source)
    ((source.drop (markLength source)).take offset) ((source.drop (markLength source)).drop offset)
  rwa [List.append_assoc, List.take_append_drop, List.take_append_drop,
    List.length_take_of_le (markLength_le source), List.length_take_of_le h] at hoffset

/-- Every element of a document that was read stands where the table leads from the place of its
start tag, and all its ranges have the line and the column that the search in the table gives. -/
theorem exists_node_onTable {html : String} {doc : Document} {e : Element}
    (hparse : parse html = .ok doc) (hcontains : doc.Contains e) :
    ∃ n, e = locateNode html.toList (markLength html.toList) n ∧
      offsetOf? (lineStarts html.toList) (markLength html.toList)
          (placeAfter ((html.toList.drop (markLength html.toList)).take n.offset)) =
        some (n.offset + markLength html.toList) ∧
      ∀ span ∈ e.ranges, span.OnTable (lineStarts html.toList) := by
  obtain ⟨n, tag, after, rfl, hat, -, -⟩ := exists_tagAt_of_contains hparse hcontains
  obtain ⟨c, rest, htext, -, -⟩ := hat.text
  refine ⟨n, rfl, offsetOf?_behind_mark ?_, fun span hspan =>
    (wellPlaced_locateNode html.toList (markLength html.toList) n).onTable hspan⟩
  have hlength := congrArg List.length htext
  rw [Nat.add_comm, ← List.drop_drop, List.length_drop, List.length_cons] at hlength
  omega

end Document

end HeadLint
