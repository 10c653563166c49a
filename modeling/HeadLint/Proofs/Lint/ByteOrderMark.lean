import HeadLint.Proofs.Lint.Replacement
import HeadLint.Proofs.Markup.ByteOrderMark
import HeadLint.Proofs.Markup.Nesting
import HeadLint.Proofs.Markup.Position

/-!
Reports on texts with a mark of byte order.  Apart from the mark itself and the place that it takes,
nothing changes: the same reports come in the same order, and their edits leave the mark alone.
-/

namespace HeadLint

open Markup

/-! ## Edits -/

namespace Edit

theorem place_succ (length : Nat) {position : Int} (h : 0 ≤ position) :
    place (length + 1) (position + 1) = place length position + 1 := by
  rw [place, place, if_neg (by omega), if_neg (by omega)]
  omega

theorem splice_cons (c : Char) (s insertion : List Char) {start stop : Int} (hstart : 0 ≤ start)
    (hstop : 0 ≤ stop) :
    splice (c :: s) insertion (start + 1) (stop + 1) = c :: splice s insertion start stop := by
  rw [splice, splice, List.length_cons, place_succ _ hstart, place_succ _ hstop,
    List.take_succ_cons, List.drop_succ_cons, List.cons_append, List.cons_append]

/-- Something else than indentation stands before a position. -/
def Inside (source : List Char) (position : Int) : Prop :=
  ∃ c ∈ source.take position.toNat, isIndent c = false

-- Widening stops at the latest at what stands before, so it does not see the start of the text.
theorem lineBounds?_cons (c : Char) {s : List Char} {start stop : Int} (hstart : 0 ≤ start)
    (hstop : 0 ≤ stop) (hinside : Inside s start) :
    lineBounds? (c :: s) (start + 1) (stop + 1) =
      (lineBounds? s start stop).map fun range => (range.1 + 1, range.2 + 1) := by
  obtain ⟨d, hd, hindent⟩ := hinside
  have htoNat : (start + 1).toNat = start.toNat + 1 := by omega
  have htext : textFrom (c :: s) (stop + 1) = textFrom s stop := by
    have hnext : (stop + 1).toNat = stop.toNat + 1 := by omega
    rw [textFrom, textFrom, if_neg (by omega), if_neg (by omega), hnext, List.drop_succ_cons]
  -- The indentation before the range ends within the old text.
  have hstops : (s.take start.toNat).reverse.dropWhile isIndent ≠ [] := by
    intro hnil
    rw [List.dropWhile_eq_nil_iff] at hnil
    have hbad := hnil d (List.mem_reverse.2 hd)
    rw [hindent] at hbad
    cases hbad
  have hshort : ((s.take start.toNat).reverse.takeWhile isIndent).length ≠
      (s.take start.toNat).reverse.length := by
    intro hlength
    apply hstops
    rw [List.dropWhile_eq_nil_iff, ← List.takeWhile_eq_self_iff]
    exact (List.takeWhile_prefix isIndent).eq_of_length hlength
  have hlead : ((s.take start.toNat).reverse ++ [c]).takeWhile isIndent =
      (s.take start.toNat).reverse.takeWhile isIndent := by
    rw [List.takeWhile_append, if_neg hshort]
  have hopens : opensLine ((s.take start.toNat).reverse ++ [c]) =
      opensLine (s.take start.toNat).reverse := by
    rw [opensLine, opensLine, List.dropWhile_append]
    cases hrest : (s.take start.toNat).reverse.dropWhile isIndent with
    | nil => exact absurd hrest hstops
    | cons a rest => rfl
  simp only [lineBounds?, htoNat, List.take_succ_cons, List.reverse_cons, hlead, hopens, htext,
    List.length_cons, Int.natCast_add, Int.natCast_one, Int.add_lt_add_iff_right,
    Int.add_le_add_iff_right]
  have hneg : ¬ stop + 1 < -((s.length : Int) + 1) := by omega
  have hneg' : ¬ stop < -(s.length : Int) := by omega
  rw [if_neg hneg, if_neg hneg']
  split
  · rfl
  · split
    · rfl
    · have hlow : ∀ n : Int, start + 1 - n = start - n + 1 := by omega
      have hhigh : ∀ n : Int, stop + 1 + n = stop + n + 1 := by omega
      simp only [hlow, hhigh]
      split <;> split <;> rfl

/-- An edit of a text, made behind one more character: it is made in the same way. -/
theorem applied_cons {edit : Edit} {span : Span} {s : List Char} (c : Char)
    (hspan : edit.span = some span) (hstart : 0 ≤ span.start) (hle : span.start ≤ span.stop)
    (hlength : span.stop ≤ s.length)
    (hinside : edit.action = .removeElement → Inside s span.start) :
    ∃ text, edit.applied s = .ok text ∧
      (edit.relocate Span.shift).applied (c :: s) = .ok (c :: text) := by
  have hbounds : ∃ a b : Nat, edit.bounds? span s = some ((a : Int), (b : Int)) ∧
      (edit.relocate Span.shift).bounds? span.shift (c :: s) =
        some ((a : Int) + 1, (b : Int) + 1) := by
    have hstartNat : (span.start.toNat : Int) = span.start := Int.toNat_of_nonneg hstart
    have hstopNat : (span.stop.toNat : Int) = span.stop := Int.toNat_of_nonneg (by omega)
    by_cases hline : edit.action = .removeElement ∧ edit.includeLine
    · have hleNat : span.start.toNat ≤ span.stop.toNat := by omega
      have hlengthNat : span.stop.toNat ≤ s.length := by omega
      have hstop : 0 ≤ span.stop := by omega
      obtain ⟨a, b, hab, -⟩ := lineBounds?_widens hleNat hlengthNat
      rw [hstartNat, hstopNat] at hab
      refine ⟨a, b, by rwa [bounds?, if_pos hline], ?_⟩
      have hmoved := lineBounds?_cons c hstart hstop (hinside hline.1)
      rw [hab] at hmoved
      rw [bounds?]
      exact (if_pos hline).trans hmoved
    · refine ⟨span.start.toNat, span.stop.toNat, ?_, ?_⟩
      · rw [bounds?, if_neg hline, hstartNat, hstopNat]
      · rw [hstartNat, hstopNat, bounds?]
        exact if_neg hline
  obtain ⟨a, b, hab, hmoved⟩ := hbounds
  have hspan' : (edit.relocate Span.shift).span = some span.shift := by
    rw [relocate, hspan]
    rfl
  refine ⟨splice s edit.insertion a b, by simp only [applied, hspan, hab], ?_⟩
  simp only [applied, hspan', hmoved]
  exact congrArg Except.ok (splice_cons c s _ (by omega) (by omega))

end Edit

/-! ## Reports -/

namespace Document

-- A located element stands at its offset.
theorem start_of_locateNode {source : List Char} {shift : Nat} {n : Node} {span : Span}
    (h : (locateNode source shift n).span = some span) : span.start = (n.offset + shift : Nat) := by
  obtain ⟨name, attributes, offset, text, children⟩ := n
  rw [locateNode] at h
  obtain ⟨found, hfound, rfl⟩ := Option.map_eq_some_iff.1 h
  obtain ⟨run, rest, -, rfl⟩ := locate?_eq_some_iff.1 hfound
  rfl

-- A report on a located head is about a located element.
theorem exists_node_of_reported {source : List Char} {shift : Nat} {n : Node} {d : Diagnostic}
    (h : (Head.of (locateNode source shift n)).Reported d) :
    ∃ m, (d.edits = [] ∨ m ∈ n.children) ∧ d.Concerns (locateNode source shift m) := by
  obtain ⟨e, ⟨rfl, hedits⟩ | hchild, hconcerns⟩ := h
  · exact ⟨n, .inl hedits, hconcerns⟩
  · have hmem : e ∈ (locateNode source shift n).children := hchild
    rw [children_locateNode] at hmem
    obtain ⟨m, hm, rfl⟩ := List.mem_map.1 hmem
    exact ⟨m, .inr hm, hconcerns⟩

theorem start_nonneg_of_reported {source : List Char} {shift : Nat} {n : Node} {d : Diagnostic}
    (h : (Head.of (locateNode source shift n)).Reported d) {span : Span}
    (hspan : d.span = some span) : 0 ≤ span.start := by
  obtain ⟨m, -, hconcerns⟩ := exists_node_of_reported h
  have hplaced := wellPlaced_locateNode source shift m
  rw [Element.WellPlaced, ← hconcerns.span, hspan] at hplaced
  exact hplaced.start_nonneg

-- An edit of a child of a head is not the first thing in the text.
theorem applied_withMark {html : String} {tokens : List Token} {n m : Node} {edit : Edit}
    {span : Span} (hlex : lex html.toList = .ok tokens)
    (hn : n ∈ Node.namedAmong "head" (Node.ofTokens tokens)) (hm : m ∈ n.children)
    (hconcerns : edit.Concerns (locateNode html.toList 0 m)) (hspan : edit.span = some span) :
    ∃ text, edit.applied html.toList = .ok text ∧
      (edit.relocate Span.shift).applied (HeadLint.withMark html).toList =
        .ok ('\uFEFF' :: text) := by
  rw [toList_withMark]
  have hplaced := wellPlaced_locateNode html.toList 0 m
  rw [Element.WellPlaced] at hplaced
  rw [Edit.Concerns] at hconcerns
  cases haction : edit.action with
  | replaceValue =>
    rw [haction] at hconcerns
    obtain ⟨attr, -, hvalue⟩ := hconcerns
    rw [hspan] at hvalue
    have hmem := Entries.mem_of_get? hvalue.symm
    cases helement : (locateNode html.toList 0 m).span with
    | none =>
      rw [helement] at hplaced
      rw [show (locateNode html.toList 0 m).attrSpans = [] from hplaced] at hmem
      cases hmem
    | some outer =>
      rw [helement] at hplaced
      have hstart := hplaced.start_nonneg
      have hstop := hplaced.stop_le
      obtain ⟨hlow, hle, hhigh, -⟩ := hplaced.values _ hmem
      dsimp only at hlow hle hhigh
      refine Edit.applied_cons _ hspan (by omega) hle (by omega) fun hremove => ?_
      rw [haction] at hremove
      cases hremove
  | removeElement =>
    rw [haction] at hconcerns
    rw [← show edit.span = (locateNode html.toList 0 m).span from hconcerns, hspan] at hplaced
    have hstart := hplaced.start_nonneg
    have hlt := hplaced.start_lt
    refine Edit.applied_cons _ hspan hstart (by omega) hplaced.stop_le fun _ => ⟨'<', ?_, rfl⟩
    -- The start tag of the head stands before that of its child.
    have hopens := (Node.All.namedAmong "head" _ (opens_of_lex hlex) n hn).self
    rw [Node.namedAmong_eq_flatMap] at hn
    obtain ⟨root, hroot, hnamed⟩ := List.mem_flatMap.1 hn
    obtain ⟨hbehind, -⟩ := (nested_of_lex hlex root hroot).named "head" n hnamed
    have hbefore := hbehind m hm
    have hoffset := start_of_locateNode (hconcerns.symm.trans hspan)
    rw [hoffset, Nat.add_zero, Int.toNat_natCast]
    refine List.mem_of_getElem? (i := n.offset) ?_
    rwa [List.getElem?_take_of_lt hbefore]

end Document

namespace Linter

-- The reports on a located head stay in order.
theorem keepsOrder_shift {linter : Linter} (hactive : ∀ a ∈ linter.active, a.1.Grounded)
    {source : List Char} {shift : Nat} {n : Node} {options : Options} {found : List Diagnostic}
    (h : reports (Head.of (Document.locateNode source shift n)) options linter.active = .ok found) :
    KeepsOrder Span.shift found := by
  have hreported := reported_of_reports hactive h
  -- A report without a span stands before all others, and stays there.
  have hcases : ∀ d ∈ found,
      d.position = -1 ∧ (d.relocate Span.shift).position = -1 ∨
      0 ≤ d.position ∧ (d.relocate Span.shift).position = d.position + 1 := by
    intro d hd
    rw [Diagnostic.position, Diagnostic.position, Diagnostic.relocate]
    cases hspan : d.span with
    | none => exact .inl ⟨rfl, rfl⟩
    | some span => exact .inr ⟨Document.start_nonneg_of_reported (hreported d hd) hspan, rfl⟩
  intro a ha b hb
  have ha := hcases a ha
  have hb := hcases b hb
  omega

/-- A mark of byte order in front of a text is invisible, but for the place that it takes. -/
theorem lint_withMark {config preset : Json} {overrides : List (Json × Json)} {linter : Linter}
    (hmake : make .builtin config preset overrides = .ok linter) (source : OptionSource)
    {html : String} (hhtml : html.toList.head? ≠ some '\uFEFF') :
    Document.parse (withMark html) = (Document.parse html).map Document.withMark ∧
    linter.lint source (withMark html) =
      (linter.lint source html).map (List.map (Diagnostic.relocate Span.shift)) ∧
    ∀ found, linter.lint source html = .ok found → ∀ d ∈ found, ∀ edit ∈ d.edits,
      edit.span.isSome → ∃ text, edit.applied html.toList = .ok text ∧
        (edit.relocate Span.shift).applied (withMark html).toList = .ok ('\uFEFF' :: text) := by
  have hgrounded : ∀ a ∈ linter.active, a.1.Grounded := fun a ha =>
    Catalog.grounded_builtin _ (mem_all_of_make hmake a ha)
  have hplaceless : ∀ a ∈ linter.active, a.1.Placeless := fun a ha =>
    Catalog.placeless_builtin _ (mem_all_of_make hmake a ha)
  have hparse := Document.parse_withMark hhtml
  have hmark : Document.markLength html.toList = 0 := if_neg hhtml
  refine ⟨hparse, ?_, ?_⟩
  · rw [lint, lint, hparse]
    cases hdoc : Document.parse html with
    | error fault => rfl
    | ok doc =>
      refine lintHeads_relocate hplaceless source fun head hhead options found hreports => ?_
      obtain ⟨tokens, -, rfl⟩ := Document.parse_eq_ok_iff.1 hdoc
      rw [Document.locateNodes_eq_map] at hhead
      obtain ⟨n, -, rfl⟩ := List.mem_map.1 hhead
      exact keepsOrder_shift hgrounded hreports
  · intro found hlint d hd edit hedit hsome
    obtain ⟨span, hspan⟩ := Option.isSome_iff_exists.1 hsome
    obtain ⟨doc, hdoc, head, hhead, hreported⟩ := exists_reported_of_lint hmake hlint hd
    obtain ⟨tokens, hlex, rfl⟩ := Document.parse_eq_ok_iff.1 hdoc
    rw [hmark] at hlex hhead
    rw [Document.locateNodes_eq_map] at hhead
    obtain ⟨n, hn, rfl⟩ := List.mem_map.1 hhead
    obtain ⟨m, hedits | hm, hconcerns⟩ := Document.exists_node_of_reported hreported
    · rw [hedits] at hedit
      cases hedit
    · exact Document.applied_withMark hlex hn hm (hconcerns.edits edit hedit) hspan

/-- Two elements of which the second is to go, with its line. -/
def baseHead : String := "<head>\n <base>\n <base>\n</head>"

theorem alone_noDuplicateBase : Alone "no-duplicate-base" Rules.noDuplicateBase :=
  ⟨by decide +kernel, rfl⟩

theorem lint_withMark_baseHead :
    ∃ linter found d edit text,
      make .builtin (soleRule "no-duplicate-base") (.str "sole") [] = .ok linter ∧
      linter.lint (.given noOptions) baseHead = .ok found ∧ d ∈ found ∧ edit ∈ d.edits ∧
      edit.span = some ⟨16, 22, 3, 1⟩ ∧ edit.applied baseHead.toList = .ok text ∧
      linter.lint (.given noOptions) (withMark baseHead) =
        .ok (found.map (Diagnostic.relocate Span.shift)) ∧
      (edit.relocate Span.shift).applied (withMark baseHead).toList = .ok ('\uFEFF' :: text) := by
  have hsuggestions : suggestions Rules.noDuplicateBase baseHead =
      some [⟨some ⟨16, 22, 3, 1⟩, .removeElement, none, "", some ⟨16, 22, 3, 1⟩⟩] := by
    decide +kernel
  obtain ⟨linter, found, hmake, hlint, hlist⟩ := alone_noDuplicateBase.exists_lint hsuggestions
  obtain ⟨d, hd, edit, hedit, heq⟩ := hlist _ (List.mem_singleton.2 rfl)
  simp only [suggestion, Suggestion.mk.injEq] at heq
  obtain ⟨-, -, -, -, hspan⟩ := heq
  have hhead : baseHead.toList.head? ≠ some '\uFEFF' := by decide
  obtain ⟨-, hmarked, hedits⟩ := lint_withMark hmake (.given noOptions) hhead
  obtain ⟨text, happlied, happlied'⟩ := hedits found hlint d hd edit hedit (by rw [hspan]; rfl)
  refine ⟨linter, found, d, edit, text, hmake, hlint, hd, hedit, hspan, happlied, ?_, happlied'⟩
  rw [hmarked, hlint]
  rfl

end Linter

end HeadLint
