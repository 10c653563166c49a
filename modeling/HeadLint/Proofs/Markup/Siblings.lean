import HeadLint.Proofs.Lint.Removal
import HeadLint.Proofs.Markup.Document
import HeadLint.Proofs.Markup.Extent

/-!
When the source ranges of sibling elements keep apart.  The end of an element is searched in the
text itself, with no regard to comments and quotes, so the search may run on into a later sibling.
It stays clear of the sibling exactly when the text before the sibling shows the same end.
-/

namespace HeadLint

open Markup

namespace Document

/-- The span of an element, given where its start tag stands. -/
def SpanAt (source : List Char) (e : Element) (start stop : Nat) : Prop :=
  ∃ run rest, OpensTag source e.tag start run rest ∧
    stop = extentEnd source e.tag (start + 1 + run.length) rest

-- A located element has a span only where its start tag stands.
theorem spanAt_of_span {source : List Char} {shift : Nat} {n : Node} {span : Span}
    (h : (locateNode source shift n).span = some span) :
    ∃ start stop, SpanAt source (locateNode source shift n) start stop ∧
      span = spanOf source start stop := by
  obtain ⟨name, attributes, offset, text, children⟩ := n
  rw [locateNode] at h ⊢
  obtain ⟨found, hfound, rfl⟩ := Option.map_eq_some_iff.1 h
  obtain ⟨run, rest, hopens, rfl⟩ := locate?_eq_some_iff.1 hfound
  exact ⟨offset + shift, _, ⟨run, rest, hopens, rfl⟩, rfl⟩

-- A child of a head that has a span has it where its start tag stands.
theorem spanAt_of_parse {html : String} {doc : Document} {head child : Element} {span : Span}
    (hparse : parse html = .ok doc) (hhead : head ∈ doc.heads) (hchild : child ∈ head.children)
    (hspan : child.span = some span) :
    ∃ start stop, SpanAt html.toList child start stop ∧
      span = spanOf html.toList start stop := by
  obtain ⟨tokens, -, rfl⟩ := parse_eq_ok_iff.1 hparse
  rw [locateNodes_eq_map] at hhead
  obtain ⟨headNode, -, rfl⟩ := List.mem_map.1 hhead
  rw [children_locateNode] at hchild
  obtain ⟨childNode, -, rfl⟩ := List.mem_map.1 hchild
  exact spanAt_of_span hspan

theorem SpanAt.bounds {source : List Char} {e : Element} {start stop : Nat}
    (h : SpanAt source e start stop) : start < stop ∧ stop ≤ source.length := by
  obtain ⟨run, rest, hopens, rfl⟩ := h
  have htag := hopens.startTagEnd_bounds
  have hextent := hopens.extentEnd_bounds
  omega

-- A located element opens with a less-than sign.
theorem SpanAt.opens {source : List Char} {e : Element} {start stop : Nat}
    (h : SpanAt source e start stop) : source[start]? = some '<' := by
  obtain ⟨run, rest, hopens, rfl⟩ := h
  have hget := congrArg List.head? hopens.text
  rwa [List.head?_drop] at hget

-- A located element that ends before the end of the text ends with a greater-than sign.
theorem SpanAt.closes {source : List Char} {e : Element} {start stop : Nat}
    (h : SpanAt source e start stop) (hlt : stop < source.length) :
    source[stop - 1]? = some '>' := by
  obtain ⟨run, rest, hopens, rfl⟩ := h
  rcases hopens.closes with hwhole | hget
  · omega
  · exact hget

/-- The text before `limit`, read alone, shows an element where the whole text shows it. -/
def ShownBefore (source : List Char) (limit : Nat) (e : Element) : Prop :=
  ∃ span, e.span = some span ∧
    (locate? (source.take limit) e.tag span.start.toNat).map (·.1) = some span

-- An element ends before an offset exactly when the text before that offset shows its end.
theorem SpanAt.stop_le_iff {source : List Char} {e : Element} {start stop : Nat} (limit : Nat)
    (h : SpanAt source e start stop) (hspan : e.span = some (spanOf source start stop))
    (hlimit : limit ≤ source.length) :
    stop ≤ limit ↔ ShownBefore source limit e := by
  obtain ⟨run, rest, hopens, rfl⟩ := h
  have hlength : (source.take limit).length = limit := List.length_take_of_le hlimit
  constructor
  · intro hle
    refine ⟨_, hspan, ?_⟩
    rw [← List.take_append_drop limit source] at hopens
    have hshown := locate?_of_append hopens (by rwa [List.take_append_drop, hlength])
    rw [List.take_append_drop] at hshown
    exact hshown
  · rintro ⟨span, hspan', hshown⟩
    obtain rfl := Option.some.inj (hspan.symm.trans hspan')
    obtain ⟨found, hfound, heq⟩ := Option.map_eq_some_iff.1 hshown
    obtain ⟨run', rest', hopens', rfl⟩ := locate?_eq_some_iff.1 hfound
    have hend := hopens'.extentEnd_bounds.2
    have hstop := congrArg Span.stop heq
    simp only [spanOf, Int.natCast_inj, Int.toNat_natCast] at hstop hend
    omega

/-! ## Removals -/

-- The removal of an element stays before an offset at which a tag opens exactly when the element
-- itself does.
theorem le_of_widens_before {source : List Char} {start stop a b next : Nat}
    (h : Edit.Widens source start stop a b) (hopens : source[next]? = some '<') :
    b ≤ next ↔ stop ≤ next := by
  have hstop := h.stop_le
  constructor
  · omega
  · intro hle
    by_contra hlt
    obtain ⟨c, hget, hc⟩ := h.rest next hle (by omega)
    obtain rfl := Option.some.inj (hopens.symm.trans hget)
    revert hc
    decide

-- The removal of an element stays behind an offset at which a tag has ended exactly when the
-- element itself does.
theorem le_of_widens_behind {source : List Char} {start stop a b : Nat} (last : Nat)
    (h : Edit.Widens source start stop a b) (hpos : 0 < last)
    (hcloses : last ≤ start → source[last - 1]? = some '>') :
    last ≤ a ↔ last ≤ start := by
  have hstart := h.le_start
  constructor
  · omega
  · intro hle
    by_contra hlt
    obtain ⟨c, hget, hc⟩ := h.indent (last - 1) (by omega) (by omega)
    obtain rfl := Option.some.inj ((hcloses hle).symm.trans hget)
    revert hc
    decide

/-- The source ranges of two children of a head keep apart exactly when the text before the later
one shows where the earlier one ends, and exactly then the removal of either leaves the other as it
is. -/
theorem siblings_apart_iff {html : String} {doc : Document} {head earlier later : Element}
    {before between behind : List Element} {span span' : Span}
    (hparse : parse html = .ok doc) (hhead : head ∈ doc.heads)
    (hchildren : head.children = before ++ earlier :: (between ++ later :: behind))
    (hspan : earlier.span = some span) (hspan' : later.span = some span') :
    (span.stop ≤ span'.start ↔ ShownBefore html.toList span'.start.toNat earlier) ∧
      ∀ edit : Edit, edit.action = .removeElement →
        (edit.span = earlier.span →
          ∃ a b : Nat, edit.bounds? span html.toList = some ((a : Int), (b : Int)) ∧
            edit.applied html.toList = .ok (html.toList.take a ++ html.toList.drop b) ∧
            (b ≤ span'.start ↔ ShownBefore html.toList span'.start.toNat earlier)) ∧
        (edit.span = later.span →
          ∃ a b : Nat, edit.bounds? span' html.toList = some ((a : Int), (b : Int)) ∧
            edit.applied html.toList = .ok (html.toList.take a ++ html.toList.drop b) ∧
            (span.stop ≤ a ↔ ShownBefore html.toList span'.start.toNat earlier)) := by
  obtain ⟨start, stop, hat, rfl⟩ :=
    spanAt_of_parse hparse hhead (by rw [hchildren]; simp) hspan
  obtain ⟨start', stop', hat', rfl⟩ :=
    spanAt_of_parse hparse hhead (by rw [hchildren]; simp) hspan'
  have hbounds := hat.bounds
  have hbounds' := hat'.bounds
  have hiff := hat.stop_le_iff start' hspan (by omega)
  -- Widening takes white space only, so it stops at the tags that open and close elements.
  simp only [spanOf, Int.toNat_natCast, Int.ofNat_le] at *
  refine ⟨hiff, fun edit haction => ⟨fun hedit => ?_, fun hedit => ?_⟩⟩
  · obtain ⟨a, b, hab, happlied, hwidens⟩ := Edit.applied_removeElement haction
      (hedit.trans hspan) rfl rfl (by omega) hbounds.2
    exact ⟨a, b, hab, happlied, (le_of_widens_before hwidens hat'.opens).trans hiff⟩
  · obtain ⟨a, b, hab, happlied, hwidens⟩ := Edit.applied_removeElement haction
      (hedit.trans hspan') rfl rfl (by omega) hbounds'.2
    have hbehind := le_of_widens_behind stop hwidens (by omega) fun hle =>
       hat.closes (by omega)
    exact ⟨a, b, hab, happlied, hbehind.trans hiff⟩

/-- The spans of the children of each head. -/
def childSpans (html : String) : Option (List (List (Option Span))) :=
  (parse html).toOption.map fun doc => doc.heads.map fun head => head.children.map (·.span)

-- A document with one head that has two children.
theorem exists_pair_of_childSpans {html : String} {span span' : Span}
    (h : childSpans html = some [[some span, some span']]) :
    ∃ doc head earlier later, parse html = .ok doc ∧ head ∈ doc.heads ∧
      head.children = [earlier, later] ∧ earlier.span = some span ∧ later.span = some span' := by
  rw [childSpans, Option.map_eq_some_iff] at h
  obtain ⟨doc, hdoc, hheads⟩ := h
  obtain ⟨head, heads, hheads', hhead, -⟩ := List.map_eq_cons_iff.1 hheads
  obtain ⟨earlier, rest, hchildren, hspan, hrest⟩ := List.map_eq_cons_iff.1 hhead
  obtain ⟨later, rest', hrest', hspan', hnil⟩ := List.map_eq_cons_iff.1 hrest
  obtain rfl := List.map_eq_nil_iff.1 hnil
  refine ⟨doc, head, earlier, later, ?_, by simp [hheads'], by rw [hchildren, hrest'], hspan,
    hspan'⟩
  cases hparse : parse html with
  | error fault => rw [hparse] at hdoc; cases hdoc
  | ok found => rw [hparse] at hdoc; cases hdoc; rfl

/-- Two elements, one after the other. -/
def tidyHead : String := "<head><title>a</title> <meta></head>"

/-- The removal of an element with its line. -/
def lineRemoval (e : Element) : Edit :=
  { id := "", message := "", action := .removeElement, includeLine := true, span := e.span }

theorem siblings_apart_tidyHead :
    ∃ doc head title setting, parse tidyHead = .ok doc ∧ head ∈ doc.heads ∧
      head.children = [title, setting] ∧ title.span = some ⟨6, 22, 1, 6⟩ ∧
      setting.span = some ⟨23, 29, 1, 23⟩ ∧ ShownBefore tidyHead.toList 23 title ∧
      ∃ a b : Nat, (lineRemoval title).applied tidyHead.toList =
        .ok (tidyHead.toList.take a ++ tidyHead.toList.drop b) ∧ b ≤ 23 := by
  have hspans : childSpans tidyHead = some [[some ⟨6, 22, 1, 6⟩, some ⟨23, 29, 1, 23⟩]] := by
    decide +kernel
  obtain ⟨doc, head, title, setting, hparse, hhead, hchildren, hspan, hspan'⟩ :=
    exists_pair_of_childSpans hspans
  have hpair : head.children = [] ++ title :: ([] ++ setting :: []) := hchildren
  have hapart := siblings_apart_iff hparse hhead hpair hspan hspan'
  have hshown : ShownBefore tidyHead.toList 23 title := hapart.1.1 (by decide)
  obtain ⟨a, b, -, happlied, hiff⟩ := (hapart.2 (lineRemoval title) rfl).1 rfl
  have hle : (b : Int) ≤ 23 := hiff.2 hshown
  exact ⟨doc, head, title, setting, hparse, hhead, hchildren, hspan, hspan', hshown, a, b,
    happlied, by omega⟩

/-- Tags in a comment count for the search, so it takes in the next element here. -/
theorem siblings_overlap_behind_comment :
    childSpans "<head><div><!-- <div> --></div><meta></div></head>" =
      some [[some ⟨6, 43, 1, 6⟩, some ⟨31, 37, 1, 31⟩]] := by
  decide +kernel

end Document

end HeadLint
