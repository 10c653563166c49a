import HeadLint.Proofs.Markup.Document
import HeadLint.Proofs.Markup.Building
import HeadLint.Proofs.Markup.Extent

/-!
Source positions.  Wherever the reader says that a start tag stands, the ranges that are recorded
for its element lie in the text, one after the other, and have the line and column of their start.
-/

namespace HeadLint

open Markup Text

/-! ## Lines and columns -/

/-- The text before a position, cut behind its last line feed: whole lines, and the line that the
position stands on. -/
structure LineCut (before lines begun : List Char) : Prop where
  text : before = lines ++ begun
  begun : '\n' ∉ begun
  lines : lines = [] ∨ lines.getLast? = some '\n'

/-- The line of a span counts the line feeds before its start, and its column the characters between
the last of them and its start. -/
structure Span.OnLine (source : List Char) (span : Span) : Prop where
  line : span.line = 1 + ((source.take span.start.toNat).count '\n' : Int)
  column : ∃ lines begun, LineCut (source.take span.start.toNat) lines begun ∧
    span.column = span.start - lines.length

theorem exists_lineCut (before : List Char) :
    ∃ lines begun, LineCut before lines begun ∧
      (before.reverse.takeWhile (· != '\n')).length = begun.length := by
  obtain ⟨run, rest, hcut, hrun, hrest, htake, -⟩ := exists_run (· != '\n') before.reverse
  have hbefore : before = rest.reverse ++ run.reverse := by
    rw [← List.reverse_append, ← hcut, List.reverse_reverse]
  refine ⟨rest.reverse, run.reverse, ⟨hbefore, ?_, ?_⟩, by rw [htake, List.length_reverse]⟩
  · intro hmem
    have hne := hrun '\n' (List.mem_reverse.1 hmem)
    revert hne
    decide
  · cases rest with
    | nil => exact .inl rfl
    | cons c rest =>
      have hc : c = '\n' := by simpa using stops_cons.1 hrest
      rw [List.getLast?_reverse, List.head?_cons, hc]
      exact .inr rfl

theorem onLine_spanOf {source : List Char} {start : Nat} (stop : Nat) (h : start ≤ source.length) :
    (spanOf source start stop).OnLine source := by
  obtain ⟨lines, begun, hcut, hlength⟩ := exists_lineCut (source.take start)
  have hstart : (spanOf source start stop).start.toNat = start := Int.toNat_natCast start
  refine ⟨?_, lines, begun, ?_, ?_⟩
  · rw [hstart, Int.add_comm]
    rfl
  · rwa [hstart]
  · have hbefore := congrArg List.length hcut.text
    rw [List.length_take_of_le h, List.length_append] at hbefore
    simp only [spanOf, hlength]
    omega

/-! ## Attribute values -/

namespace Markup

-- The scan over attributes finds values one behind the other, each behind the place where it
-- starts and before the place where it ends.
theorem attributeRanges_ordered (skip offset : Nat) (s : List Char) :
    (∀ r ∈ (attributeRanges skip offset s).1, offset + min skip s.length < r.2.1 ∧
      r.2.1 ≤ r.2.2 ∧ r.2.2 ≤ (attributeRanges skip offset s).2) ∧
    (attributeRanges skip offset s).1.Pairwise fun a b => a.2.2 ≤ b.2.1 := by
  induction s generalizing skip offset with
  | nil => cases skip <;> simp [attributeRanges]
  | cons c rest ih =>
    cases skip with
    | succ skip =>
      obtain ⟨hrest, hordered⟩ := ih skip (offset + 1)
      rw [attributeRanges, List.length_cons]
      refine ⟨fun r hr => ?_, hordered⟩
      have hr := hrest r hr
      omega
    | zero =>
      by_cases hgap : (isBlank c || c == '/') = true
      · obtain ⟨hrest, hordered⟩ := ih 0 (offset + 1)
        rw [attributeRanges, if_pos hgap]
        refine ⟨fun r hr => ?_, hordered⟩
        have hr := hrest r hr
        omega
      rw [Bool.not_eq_true] at hgap
      by_cases hname : isAttrNameChar c = true
      · have hafter := attributeRange_bounds offset (c :: rest)
        have hpos := length_takeWhile_pos (p := isAttrNameChar) rest hname
        have hlast := attributeRange_le_attributeRanges offset rest hgap hname
        obtain ⟨hrest, hordered⟩ :=
          ih ((attributeRange offset (c :: rest)).after - offset - 1) (offset + 1)
        -- The value of this attribute ends where the scan goes on.
        have hfirst : ∀ r ∈ (attributeRange offset (c :: rest)).entries,
            offset < r.2.1 ∧ r.2.1 ≤ r.2.2 ∧ r.2.2 ≤ (attributeRange offset (c :: rest)).after := by
          intro r hr
          simp only [FoundAttribute.entries, attributeRange] at hr ⊢
          cases hvalue : valueRange? (offset + ((c :: rest).takeWhile isAttrNameChar).length)
              ((c :: rest).drop ((c :: rest).takeWhile isAttrNameChar).length) with
          | none => rw [hvalue] at hr; cases hr
          | some found =>
            obtain ⟨⟨lo, hi⟩, after⟩ := found
            rw [hvalue] at hr
            obtain rfl := List.mem_singleton.1 hr
            have hbounds := valueRange?_bounds hvalue
            simp only [Option.map_some, Option.getD_some]
            omega
        rw [List.length_cons] at hafter
        rw [attributeRanges_attribute hgap hname] at hlast ⊢
        refine ⟨fun r hr => ?_, List.pairwise_append.2 ⟨?_, hordered, fun a ha b hb => ?_⟩⟩
        · rcases List.mem_append.1 hr with hentry | hmore
          · have hr := hfirst r hentry
            omega
          · have hr := hrest r hmore
            omega
        · unfold FoundAttribute.entries
          cases (attributeRange offset (c :: rest)).range <;> simp
        · have ha := hfirst a ha
          have hb := hrest b hb
          omega
      · rw [attributeRanges, hgap, if_neg Bool.false_ne_true, if_neg hname]
        simp

end Markup

/-! ## Elements -/

/-- `root.Contains e`: `e` stands in the tree of `root`, at any depth. -/
inductive Element.Contains : Element → Element → Prop where
  | self (e : Element) : Contains e e
  | inner {root child e : Element} (hchild : child ∈ root.children) (h : Contains child e) :
      Contains root e

/-- An element of a document, at any depth of any of its heads. -/
def Document.Contains (doc : Document) (e : Element) : Prop :=
  ∃ head ∈ doc.heads, head.Contains e

/-- The range of a whole element: it lies in the text, opens with a less-than sign and the name of
the element, and takes in the ranges of the attribute values, which stand one behind the other. -/
structure Element.Covers (source : List Char) (e : Element) (span : Span) : Prop where
  start_nonneg : 0 ≤ span.start
  start_lt : span.start < span.stop
  stop_le : span.stop ≤ source.length
  opens : source[span.start.toNat]? = some '<'
  name : String.ofList (lower ((source.drop (span.start.toNat + 1)).takeWhile isOpenNameChar)) =
    e.name
  onLine : span.OnLine source
  values : ∀ attr ∈ e.attrSpans, span.start < attr.2.start ∧ attr.2.start ≤ attr.2.stop ∧
    attr.2.stop ≤ span.stop ∧ attr.2.OnLine source
  disjoint : e.attrSpans.Pairwise fun a b => a.2.stop ≤ b.2.start

/-- What is recorded of the place of an element: nothing at all, or ranges that fit the text. -/
def Element.WellPlaced (source : List Char) (e : Element) : Prop :=
  match e.span with
  | none => e.attrSpans = []
  | some span => e.Covers source span

namespace Document

-- What is found where a start tag stands.
theorem covers_of_locate? {source : List Char} {start : Nat} {e : Element} {span : Span}
    (h : locate? source e.tag start = some (span, e.attrSpans)) : e.Covers source span := by
  obtain ⟨run, rest, hopens, hfound⟩ := locate?_eq_some_iff.1 h
  obtain ⟨rfl, hattrs⟩ := Prod.mk.inj hfound
  have htag := hopens.startTagEnd_bounds
  have hextent := hopens.extentEnd_bounds
  obtain ⟨hranges, hordered⟩ := attributeRanges_ordered 0 (start + 1 + run.length) rest
  rw [firstRanges_eq_firsts] at hattrs
  have hstart : (spanOf source start (extentEnd source e.tag (start + 1 + run.length) rest)).start
      = start := rfl
  have hstop : (spanOf source start (extentEnd source e.tag (start + 1 + run.length) rest)).stop
      = extentEnd source e.tag (start + 1 + run.length) rest := rfl
  constructor
  · omega
  · omega
  · omega
  · rw [hstart, Int.toNat_natCast, ← List.head?_drop, hopens.text, List.head?_cons]
  · rw [hstart, Int.toNat_natCast, ← List.drop_drop, hopens.text, List.drop_succ_cons,
      List.drop_zero, takeWhile_run hopens.name_chars hopens.stops, hopens.name_eq]
    rfl
  · exact onLine_spanOf _ (by omega)
  · intro attr hattr
    rw [hattrs] at hattr
    obtain ⟨⟨name, lo, hi⟩, hmem, rfl⟩ := List.mem_map.1 hattr
    have hbounds := hranges _ (Entries.mem_of_mem_firsts hmem)
    dsimp only at hbounds
    have honLine : (spanOf source lo hi).OnLine source := onLine_spanOf hi (by omega)
    refine ⟨?_, ?_, ?_, honLine⟩ <;>
    · simp only [spanOf]
      omega
  · -- Keeping the first range of each name keeps the order.
    rw [hattrs, List.pairwise_map]
    refine (hordered.sublist (Entries.firsts_sublist _)).imp fun hle => ?_
    simpa only [spanOf, Int.ofNat_le] using hle

theorem wellPlaced_locateNode (source : List Char) (shift : Nat) (n : Node) :
    (locateNode source shift n).WellPlaced source := by
  obtain ⟨name, attributes, offset, text, children⟩ := n
  rw [locateNode, Element.WellPlaced]
  cases h : locate? source name (offset + shift) with
  | none => rfl
  | some found => exact covers_of_locate? h

-- An element of a located tree is itself a located tree, with all that is known of the whole.
theorem exists_node_of_contains {source : List Char} {shift : Nat} {root e : Element}
    (h : root.Contains e) {n : Node} (hroot : root = locateNode source shift n) :
    ∃ m, e = locateNode source shift m ∧ ∀ p, n.All p → m.All p := by
  induction h generalizing n with
  | self e => exact ⟨n, hroot, fun _ hall => hall⟩
  | inner hchild _ ih =>
    rw [hroot, children_locateNode] at hchild
    obtain ⟨child, hmem, rfl⟩ := List.mem_map.1 hchild
    obtain ⟨m, rfl, hm⟩ := ih rfl
    exact ⟨m, rfl, fun p hall => hm p (hall.children child hmem)⟩

/-- Every position that is recorded fits the text: in a document that was read, with or without a
mark of byte order, and in every tree whose start tags are said to stand at whatever offsets. -/
theorem wellPlaced_of_contains (html : String) :
    (∀ doc e, parse html = .ok doc → doc.Contains e → e.WellPlaced html.toList) ∧
      ∀ shift n e, (locateNode html.toList shift n).Contains e → e.WellPlaced html.toList := by
  have hnodes : ∀ shift n e, (locateNode html.toList shift n).Contains e →
      e.WellPlaced html.toList := by
    intro shift n e h
    obtain ⟨m, rfl, -⟩ := exists_node_of_contains h rfl
    exact wellPlaced_locateNode html.toList shift m
  refine ⟨fun doc e hparse hcontains => ?_, hnodes⟩
  obtain ⟨tokens, -, rfl⟩ := parse_eq_ok_iff.1 hparse
  obtain ⟨head, hhead, h⟩ := hcontains
  rw [locateNodes_eq_map] at hhead
  obtain ⟨n, -, rfl⟩ := List.mem_map.1 hhead
  exact hnodes _ n e h

/-- The ranges of the children of each head, those of elements and those of values. -/
def childRanges (html : String) : Option (List (List (Option Span × Entries Span))) :=
  (parse html).toOption.map fun doc =>
    doc.heads.map fun head => head.children.map fun e => (e.span, e.attrSpans)

-- A document with one head that has one child.
theorem exists_child_of_childRanges {html : String} {span : Option Span} {values : Entries Span}
    (h : childRanges html = some [[(span, values)]]) :
    ∃ doc e, parse html = .ok doc ∧ doc.Contains e ∧ e.span = span ∧ e.attrSpans = values := by
  rw [childRanges, Option.map_eq_some_iff] at h
  obtain ⟨doc, hdoc, hheads⟩ := h
  obtain ⟨head, heads, hheads', hhead, -⟩ := List.map_eq_cons_iff.1 hheads
  obtain ⟨e, rest, hchildren, he, -⟩ := List.map_eq_cons_iff.1 hhead
  obtain ⟨hspan, hvalues⟩ := Prod.mk.inj he
  refine ⟨doc, e, ?_, ⟨head, by simp [hheads'], .inner (by simp [hchildren]) (.self e)⟩, hspan,
    hvalues⟩
  cases hparse : parse html with
  | error fault => rw [hparse] at hdoc; cases hdoc
  | ok found => rw [hparse] at hdoc; cases hdoc; rfl

/-- A marked text with an element on its second line. -/
def markedHead : String := "\uFEFF<head>\n <LINK rel=x href='y' rel>"

theorem wellPlaced_markedHead :
    ∃ doc e, parse markedHead = .ok doc ∧ doc.Contains e ∧ e.span = some ⟨9, 34, 2, 1⟩ ∧
      e.attrSpans = [("rel", ⟨19, 20, 2, 11⟩), ("href", ⟨27, 28, 2, 19⟩)] ∧
      e.WellPlaced markedHead.toList := by
  have hranges : childRanges markedHead = some [[(some ⟨9, 34, 2, 1⟩,
      [("rel", ⟨19, 20, 2, 11⟩), ("href", ⟨27, 28, 2, 19⟩)])]] := by
    decide +kernel
  obtain ⟨doc, e, hparse, hcontains, hspan, hvalues⟩ := exists_child_of_childRanges hranges
  exact ⟨doc, e, hparse, hcontains, hspan, hvalues,
    (wellPlaced_of_contains markedHead).1 doc e hparse hcontains⟩

end Document

end HeadLint
