import HeadLint.Proofs.Lint.Relocation
import HeadLint.Proofs.Markup.Document
import HeadLint.Proofs.Markup.Extent

/-!
Texts with a mark of byte order.  The scanners work on the text from an offset on, so one more
character in front of the text moves all they find by one place and changes nothing else.
-/

namespace HeadLint

open Markup Text

/-- A span in a text that has got one more character in front of its first line. -/
def Span.shift (span : Span) : Span :=
  { start := span.start + 1
    stop := span.stop + 1
    line := span.line
    column := if span.line = 1 then span.column + 1 else span.column }

/-! ## Values -/

namespace Markup

/-- A range and the offset after it, one place further. -/
def moveRange (found : (Nat × Nat) × Nat) : (Nat × Nat) × Nat :=
  ((found.1.1 + 1, found.1.2 + 1), found.2 + 1)

theorem quotedRange?_succ (start : Nat) (body : List Char) :
    quotedRange? (start + 1) body = (quotedRange? start body).map moveRange := by
  cases body with
  | nil => rfl
  | cons q inside =>
    simp only [quotedRange?]
    split
    · split
      · simp only [Option.map_some, moveRange, Option.some.injEq, Prod.mk.injEq, true_and]
        omega
      · rfl
    · rfl

theorem looseRange?_succ (start : Nat) (s : List Char) :
    looseRange? (start + 1) s = (looseRange? start s).map moveRange := by
  simp only [looseRange?]
  split
  · rfl
  · simp only [Option.map_some, moveRange, Option.some.injEq, Prod.mk.injEq, true_and]
    omega

theorem valueRange?_succ (offset : Nat) (s : List Char) :
    valueRange? (offset + 1) s = (valueRange? offset s).map moveRange := by
  unfold valueRange?
  split
  · rename_i rest _
    have hstart : offset + 1 + (s.length - (trimStart rest).length) =
        offset + (s.length - (trimStart rest).length) + 1 := by omega
    simp only [hstart, quotedRange?_succ, looseRange?_succ, Option.map_or]
  · rfl

/-- An attribute that was found, one place further. -/
def FoundAttribute.move (found : FoundAttribute) : FoundAttribute :=
  ⟨found.name, found.range.map fun range => (range.1 + 1, range.2 + 1), found.after + 1⟩

theorem attributeRange_succ (offset : Nat) (s : List Char) :
    attributeRange (offset + 1) s = (attributeRange offset s).move := by
  have hbehind : offset + 1 + (s.takeWhile isAttrNameChar).length =
      offset + (s.takeWhile isAttrNameChar).length + 1 := by omega
  simp only [attributeRange, hbehind, valueRange?_succ, FoundAttribute.move]
  cases valueRange? (offset + (s.takeWhile isAttrNameChar).length)
    (s.drop (s.takeWhile isAttrNameChar).length) <;> rfl

/-- An attribute name with the range of its value, one place further. -/
def moveEntry (entry : String × Nat × Nat) : String × Nat × Nat :=
  (entry.1, entry.2.1 + 1, entry.2.2 + 1)

theorem attributeRanges_succ (skip offset : Nat) (s : List Char) :
    attributeRanges skip (offset + 1) s =
      ((attributeRanges skip offset s).1.map moveEntry, (attributeRanges skip offset s).2 + 1) := by
  induction s generalizing skip offset with
  | nil => cases skip <;> rfl
  | cons c rest ih =>
    cases skip with
    | succ skip => rw [attributeRanges, attributeRanges, ih]
    | zero =>
      simp only [attributeRanges]
      split
      · exact ih 0 (offset + 1)
      · split
        · have hskip : (attributeRange offset (c :: rest)).move.after - (offset + 1) - 1 =
              (attributeRange offset (c :: rest)).after - offset - 1 := by
            simp only [FoundAttribute.move]
            omega
          have hentries : (attributeRange offset (c :: rest)).move.entries =
              (attributeRange offset (c :: rest)).entries.map moveEntry := by
            simp only [FoundAttribute.move, FoundAttribute.entries]
            cases (attributeRange offset (c :: rest)).range <;> rfl
          rw [attributeRange_succ, hskip, ih, hentries, List.map_append]
        · rfl

theorem firstRanges_map_moveEntry (ranges : List (String × Nat × Nat)) :
    firstRanges (ranges.map moveEntry) = (firstRanges ranges).map moveEntry := by
  rw [firstRanges_eq_firsts, firstRanges_eq_firsts]
  exact Entries.firsts_map (fun range : Nat × Nat => (range.1 + 1, range.2 + 1)) ranges

/-! ## Elements -/

theorem startTagEnd_cons (c : Char) (s : List Char) (offset : Nat) :
    startTagEnd (c :: s) (offset + 1) = startTagEnd s offset + 1 := by
  simp only [startTagEnd, List.drop_succ_cons]
  omega

theorem flatEnd?_succ (name : List Char) (offset : Nat) (s : List Char) :
    flatEnd? name (offset + 1) s = (flatEnd? name offset s).map (· + 1) := by
  induction s generalizing offset with
  | nil => rfl
  | cons c rest ih =>
    rw [flatEnd?, flatEnd?]
    split
    · simp only [Option.map_some, Option.some.injEq]
      omega
    · exact ih (offset + 1)

theorem nestedEnd?_succ (name : List Char) (skip depth offset : Nat) (s : List Char) :
    nestedEnd? name skip depth (offset + 1) s =
      (nestedEnd? name skip depth offset s).map (· + 1) := by
  induction s generalizing skip depth offset with
  | nil => cases skip <;> rfl
  | cons c rest ih =>
    cases skip with
    | succ skip => rw [nestedEnd?, nestedEnd?, ih]
    | zero =>
      rw [nestedEnd?, nestedEnd?]
      split
      · exact ih 0 depth (offset + 1)
      · split
        · simp only [Option.map_some, Option.some.injEq]
          omega
        · exact ih _ _ (offset + 1)

-- A start tag has at least two characters, so what it closes with is not in front of the text.
theorem elementEnd_cons (c : Char) (s : List Char) (name : String) {tagEnd : Nat}
    (h : 2 ≤ tagEnd) : elementEnd (c :: s) name (tagEnd + 1) = elementEnd s name tagEnd + 1 := by
  have hslice : slice (tagEnd + 1 - 2) (tagEnd + 1) (c :: s) = slice (tagEnd - 2) tagEnd s := by
    have hlow : tagEnd + 1 - 2 = tagEnd - 2 + 1 := by omega
    rw [slice, slice, hlow, List.take_succ_cons, List.drop_succ_cons]
  have hmove : ∀ found : Option Nat,
      (found.map (· + 1)).getD (tagEnd + 1) = found.getD tagEnd + 1 := by
    intro found
    cases found <;> rfl
  simp only [elementEnd, hslice, List.drop_succ_cons, flatEnd?_succ, nestedEnd?_succ, hmove]
  split
  · rfl
  · split <;> rfl

-- The run of characters on the current line, with one more character in front of the text.
theorem takeWhile_reverse_cons {c : Char} (hc : c ≠ '\n') (before : List Char) :
    ((c :: before).reverse.takeWhile (· != '\n')).length =
      if before.count '\n' = 0 then (before.reverse.takeWhile (· != '\n')).length + 1
      else (before.reverse.takeWhile (· != '\n')).length := by
  rw [List.reverse_cons, List.takeWhile_append]
  by_cases hmem : '\n' ∈ before
  · have hshort : (before.reverse.takeWhile (· != '\n')).length ≠ before.reverse.length := by
      intro hlength
      have hall := (List.takeWhile_prefix (· != '\n')).eq_of_length hlength
      have hbad := List.takeWhile_eq_self_iff.1 hall '\n' (List.mem_reverse.2 hmem)
      revert hbad
      decide
    rw [if_neg hshort, if_neg (mt List.count_eq_zero.1 (not_not.2 hmem))]
  · have hall : before.reverse.takeWhile (· != '\n') = before.reverse := by
      rw [List.takeWhile_eq_self_iff]
      intro a ha
      simp only [bne_iff_ne, ne_eq]
      rintro rfl
      exact hmem (List.mem_reverse.1 ha)
    rw [hall, if_pos rfl, if_pos (List.count_eq_zero.2 hmem), List.length_append,
      List.takeWhile_cons_of_pos (by simpa using hc)]
    rfl

-- The first line is the only one on which a column moves.
theorem spanOf_cons {c : Char} (hc : c ≠ '\n') (s : List Char) (start stop : Nat) :
    spanOf (c :: s) (start + 1) (stop + 1) = (spanOf s start stop).shift := by
  have hcount : (c :: s.take start).count '\n' = (s.take start).count '\n' :=
    List.count_cons_of_ne hc
  have hline : (spanOf s start stop).line = 1 ↔ (s.take start).count '\n' = 0 := by
    simp only [spanOf]
    omega
  rw [Span.shift, spanOf, Span.mk.injEq]
  refine ⟨rfl, rfl, ?_, ?_⟩
  · rw [List.take_succ_cons, hcount]
    rfl
  · rw [List.take_succ_cons, takeWhile_reverse_cons hc]
    by_cases hzero : (s.take start).count '\n' = 0
    · rw [if_pos hzero, if_pos (hline.2 hzero)]
      rfl
    · rw [if_neg hzero, if_neg (mt hline.1 hzero)]
      rfl

/-- What is located one place further. -/
theorem locate?_cons {c : Char} (hc : c ≠ '\n') (s : List Char) (name : String) (start : Nat) :
    locate? (c :: s) name (start + 1) =
      (locate? s name start).map fun found =>
        (found.1.shift, relocateEntries Span.shift found.2) := by
  simp only [locate?, List.drop_succ_cons]
  cases after? ['<'] (s.drop start) with
  | none => rfl
  | some body =>
    simp only [Option.bind_eq_bind, Option.bind_some]
    split
    · rfl
    · rename_i hname
      have hpos : 0 < (body.takeWhile isOpenNameChar).length := by
        rw [List.length_pos_iff]
        intro hnil
        rw [hnil] at hname
        exact hname rfl
      generalize (body.takeWhile isOpenNameChar).length = length at hpos
      have hbehind : start + 1 + 1 + length = start + 1 + length + 1 := by omega
      have hlast := (attributeRanges_bounds 0 (start + 1 + length)
        (s.drop (start + 1 + length))).1
      rw [hbehind, List.drop_succ_cons, attributeRanges_succ]
      dsimp only
      rw [startTagEnd_cons, elementEnd_cons, spanOf_cons hc, firstRanges_map_moveEntry,
        Option.map_some, relocateEntries, List.map_map, List.map_map]
      · simp only [Function.comp_def, moveEntry, spanOf_cons hc]
      · unfold startTagEnd
        omega

end Markup

/-! ## Documents -/

/-- A text with a mark of byte order in front of it. -/
def withMark (html : String) : String :=
  "\uFEFF" ++ html

theorem toList_withMark (html : String) : (withMark html).toList = '\uFEFF' :: html.toList := by
  rw [withMark, String.toList_append]
  rfl

/-- The document of the marked text. -/
def Document.withMark (doc : Document) : Document :=
  ⟨HeadLint.withMark doc.source, doc.heads.map (Element.relocate Span.shift)⟩

namespace Document

mutual

theorem locateNode_withMark (s : List Char) :
    (n : Node) → locateNode ('\uFEFF' :: s) 1 n = (locateNode s 0 n).relocate Span.shift
  | ⟨name, attributes, offset, text, children⟩ => by
    rw [locateNode, locateNode, Element.relocate, locateNodes_withMark s children, Nat.add_zero,
      locate?_cons (by decide)]
    cases locate? s name offset <;> rfl

theorem locateNodes_withMark (s : List Char) :
    (nodes : List Node) →
      locateNodes ('\uFEFF' :: s) 1 nodes = Element.relocateAll Span.shift (locateNodes s 0 nodes)
  | [] => rfl
  | n :: rest => by
    rw [locateNodes, locateNodes, Element.relocateAll, locateNode_withMark s n,
      locateNodes_withMark s rest]

end

/-- A mark in front of a text is not part of the markup. -/
theorem parse_withMark {html : String} (h : html.toList.head? ≠ some '\uFEFF') :
    parse (HeadLint.withMark html) = (parse html).map Document.withMark := by
  have hmark : markLength html.toList = 0 := if_neg h
  have hmarked : markLength ('\uFEFF' :: html.toList) = 1 := rfl
  simp only [parse, toList_withMark, hmark, hmarked, List.drop_succ_cons, List.drop_zero]
  cases lex html.toList with
  | error fault => rfl
  | ok tokens =>
    simp only [bind, Except.bind, Except.map, Document.withMark, locateNodes_withMark,
      Element.relocateAll_eq_map]

end Document

end HeadLint
