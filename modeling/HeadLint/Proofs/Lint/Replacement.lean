import HeadLint.Proofs.Lint.Provenance
import HeadLint.Proofs.Lint.Removal
import HeadLint.Proofs.Markup.Outline

/-!
What the replacement of a value does to a document.  The new value is put into the text as it is,
though it was made from a value whose references had been replaced.  So it comes back as it was
meant only if the place holds it and nothing in it reads as a reference.
-/

namespace HeadLint

open Markup Text Document

namespace Edit

/-- The replacement of a value puts the new value between what stands before and behind the old
one. -/
theorem applied_replaceValue {edit : Edit} {source before old behind : List Char} {range : Span}
    (haction : edit.action = .replaceValue) (hspan : edit.span = some range)
    (hsource : source = before ++ (old ++ behind)) (hstart : range.start = before.length)
    (hstop : range.stop = ((before.length + old.length : Nat) : Int)) :
    edit.applied source = .ok (before ++ (edit.replacement.toList ++ behind)) := by
  have hlength : source.length = before.length + (old.length + behind.length) := by
    rw [hsource, List.length_append, List.length_append]
  have hbounds : edit.bounds? range source =
      some ((before.length : Int), ((before.length + old.length : Nat) : Int)) := by
    rw [bounds?, if_neg (by simp [haction]), hstart, hstop]
  have htake : source.take before.length = before := by rw [hsource, List.take_left]
  have hdrop : source.drop (before.length + old.length) = behind := by
    rw [hsource, ← List.append_assoc, ← List.length_append, List.drop_left]
  simp only [applied, hspan, hbounds, insertion, haction, splice]
  rw [place_of_le (by omega), place_of_le (by omega), htake, hdrop, List.append_assoc]

end Edit

namespace Markup.Slot

/-- `slot.Marks old html d edit`: the slot holds the value `old` that an edit of a report is to
replace. -/
structure Marks (slot : Slot) (old : List Char) (html : String) (d : Diagnostic) (edit : Edit) :
    Prop where
  proper : slot.Proper
  text : html.toList = slot.fill old
  start : ∃ span, d.span = some span ∧ span.start = slot.front.length
  attr : edit.attr = some slot.key
  range : ∃ range, edit.span = some range ∧ range.start = slot.before.length ∧
    range.stop = ((slot.before.length + old.length : Nat) : Int)

theorem Marks.applied {slot : Slot} {old : List Char} {html : String} {d : Diagnostic} {edit : Edit}
    (h : slot.Marks old html d edit) (haction : edit.action = .replaceValue) :
    edit.applied html.toList = .ok (slot.fill edit.replacement.toList) := by
  obtain ⟨range, hspan, hstart, hstop⟩ := h.range
  rw [Edit.applied_replaceValue haction hspan (h.text.trans (slot.fill_eq old)) hstart hstop,
    slot.fill_eq]

end Markup.Slot

-- A replacement in a document has a slot.
theorem Document.exists_marks {html : String} {doc : Document} {e : Element} {d : Diagnostic}
    {edit : Edit} {range : Span} (hparse : parse html = .ok doc) (he : doc.Has e)
    (hd : d.Concerns e) (hedit : edit ∈ d.edits) (haction : edit.action = .replaceValue)
    (hrange : edit.span = some range) : ∃ slot old, Slot.Marks slot old html d edit := by
  have hconcerns := hd.edits edit hedit
  simp only [Edit.Concerns, haction] at hconcerns
  obtain ⟨attr, hattr, hspan⟩ := hconcerns
  obtain ⟨tokens, -, rfl⟩ := parse_eq_ok_iff.1 hparse
  obtain ⟨n, tag, rfl, -⟩ := exists_startTag_of_has he
  -- The range comes from the search for the start tag, so that search found something.
  have hmem := Entries.mem_of_get? (hspan.symm.trans hrange)
  rw [attrSpans_locateNode] at hmem
  cases hlocate : locate? html.toList n.name (n.offset + markLength html.toList) with
  | none => rw [hlocate] at hmem; cases hmem
  | some found =>
    rw [hlocate] at hmem
    obtain ⟨slot, old, hproper, htext, hfront, hkey, hstart, hstop⟩ :=
      exists_slot_of_locate? hlocate hmem
    refine ⟨slot, old, hproper, htext, ⟨found.1, ?_, ?_⟩, hattr.trans (by rw [hkey]),
      range, hrange, hstart, hstop⟩
    · rw [hd.span, span_locateNode, hlocate, Option.map_some]
    · rw [hfront]
      exact start_of_locate? (by rw [hlocate, Option.map_some])

/-- `doc.Rewritten span attr value html`: the text reads as the document does, but that the element
at the span has this value of the attribute. -/
def Document.Rewritten (doc : Document) (span : Option Span) (attr value : String)
    (html : List Char) : Prop :=
  ∃ doc', parse (String.ofList html) = .ok doc' ∧
    doc'.heads.map (Element.outline Element.keep) =
      doc.heads.map (Element.outline (Element.setAt span attr value))

namespace Linter

/-- The replacement of a value that a report suggests puts the new value in the slot of the old one.
Between quotes it is read as a whole exactly when the quote is not in it.  Where the slot holds it
and the reader comes to it as before, the document has changed by this value alone exactly when
nothing in the value reads as a reference. -/
theorem lint_replaceValue_iff {config preset : Json} {overrides : List (Json × Json)}
    {linter : Linter} {source : OptionSource} {html : String} {found : List Diagnostic}
    {d : Diagnostic} {edit : Edit} {range : Span}
    (hmake : make .builtin config preset overrides = .ok linter)
    (hlint : linter.lint source html = .ok found) (hd : d ∈ found) (hedit : edit ∈ d.edits)
    (haction : edit.action = .replaceValue) (hrange : edit.span = some range) :
    ∃ doc, parse html = .ok doc ∧ (∃ slot old, Slot.Marks slot old html d edit) ∧
      ∀ slot old, Slot.Marks slot old html d edit →
        edit.applied html.toList = .ok (slot.fill edit.replacement.toList) ∧
        (∀ q, slot.enclosure = .quoted q →
          ((readAttribute (slot.tail edit.replacement.toList)).1 =
            (slot.name, some edit.replacement.toList) ↔ q ∉ edit.replacement.toList)) ∧
        ((unmarked slot).ReadAlike old edit.replacement.toList →
          (doc.Rewritten d.span slot.key edit.replacement (slot.fill edit.replacement.toList) ↔
            firstOverflow? edit.replacement.toList = none ∧
              unescape edit.replacement.toList = edit.replacement.toList)) := by
  obtain ⟨doc, hparse, head, hhead, e, he, hconcerns⟩ := exists_concerns_of_lint hmake hlint hd
  have hhas : doc.Has e := ⟨head, hhead, he⟩
  refine ⟨doc, hparse, exists_marks hparse hhas hconcerns hedit haction hrange, ?_⟩
  intro slot old hmarks
  refine ⟨hmarks.applied haction, ?_, ?_⟩
  · intro q hquoted
    rw [Slot.tail, hquoted]
    exact readAttribute_quoted_iff _ _ hmarks.proper.name hmarks.proper.link
      (hmarks.proper.quotes q hquoted)
  · intro halike
    -- The report stands at the element that holds the attribute.
    obtain ⟨span, hspan, hstart⟩ := hmarks.start
    have hself : e.span = some span := hconcerns.span.symm.trans hspan
    have hiff := parse_fill_iff hparse hhas hself hstart hmarks.text hmarks.proper halike
    rw [String.ofList_toList, ← hconcerns.span] at hiff
    exact hiff

/-! ## One rule alone -/

/-- A configuration with one preset that has one rule. -/
def soleRule (name : String) : Json :=
  .obj [("presets", .obj [("sole", .obj [(name, .str "error")])])]

/-- The options of a run that is told nothing. -/
def noOptions : Options := { now := ⟨0⟩ }

/-- What matters of an edit that a report suggests: where the report is, and what the edit does
where. -/
structure Suggestion where
  span : Option Span
  action : Action
  attr : Option String
  replacement : String
  range : Option Span
deriving DecidableEq

/-- The edit of a report as a suggestion. -/
def suggestion (d : Diagnostic) (edit : Edit) : Suggestion :=
  ⟨d.span, edit.action, edit.attr, edit.replacement, edit.span⟩

/-- What a rule suggests for a document with one head. -/
def suggestions (rule : Rule) (html : String) : Option (List Suggestion) :=
  match parse html with
  | .ok ⟨_, [head]⟩ =>
    match rule.check (Head.of head) noOptions with
    | .ok found => some (found.flatMap fun d => d.edits.map (suggestion d))
    | .error _ => none
  | _ => none

/-- `Alone name rule`: the preset has this rule of the catalog and no other. -/
structure Alone (name : String) (rule : Rule) : Prop where
  severities : (presetSeverities .builtin (soleRule name) (.str "sole")).toOption.map (·.rules) =
    some [(name, .error)]
  rules : ((Catalog.builtin.rules.map (·.2)).filterMap fun rule =>
    match Entries.get? rule.name [(name, Severity.error)] with
    | some .off => none
    | some severity => some (rule, severity)
    | none => none) = [(rule, .error)]

theorem alone_validCharset : Alone "valid-charset" Rules.validCharset :=
  ⟨by decide +kernel, rfl⟩

theorem alone_validViewport : Alone "valid-meta-viewport" Rules.validViewport :=
  ⟨by decide +kernel, rfl⟩

theorem Alone.exists_make {name : String} {rule : Rule} (h : Alone name rule) :
    ∃ linter, make .builtin (soleRule name) (.str "sole") [] = .ok linter ∧
      linter.active = [(rule, .error)] := by
  obtain ⟨base, hbase, hbaseRules⟩ := Option.map_eq_some_iff.1 h.severities
  -- The catalog is sorted, but a list that holds one rule has only one order.
  have hactive : activeRules .builtin [(name, .error)] = [(rule, .error)] := by
    have hperm := (List.mergeSort_perm (Catalog.builtin.rules.map (·.2))
      fun a b => textLe a.name b.name).filterMap fun rule =>
        match Entries.get? rule.name [(name, Severity.error)] with
        | some .off => none
        | some severity => some (rule, severity)
        | none => none
    rw [h.rules] at hperm
    exact List.perm_singleton.1 hperm
  cases hpreset : presetSeverities .builtin (soleRule name) (.str "sole") with
  | error failure => rw [hpreset] at hbase; cases hbase
  | ok found =>
    rw [hpreset] at hbase
    obtain rfl := Option.some.inj hbase
    obtain ⟨rules, others⟩ := found
    obtain rfl : rules = [(name, .error)] := hbaseRules
    refine ⟨⟨.str "sole", ⟨[(name, .error)], others⟩, [(rule, .error)]⟩, ?_, rfl⟩
    have hname : presetName (soleRule name) (.str "sole") = .str "sole" := rfl
    have hoverride : override .builtin [(name, .error)] (Json.ofPairs []) =
        .ok [(name, .error)] := rfl
    simp only [make, hname, hpreset, bind, Except.bind, hoverride, Except.mapError, hactive]

-- A linter with one rule reports what the rule finds.
theorem exists_lint_of_active {linter : Linter} {rule : Rule} {severity : Severity} {html : String}
    {head : Element} {own : List Diagnostic} (hactive : linter.active = [(rule, severity)])
    (hparse : parse html = .ok ⟨html, [head]⟩)
    (hown : rule.check (Head.of head) noOptions = .ok own) :
    ∃ found, linter.lint (.given noOptions) html = .ok found ∧
      ∀ d ∈ own, { d with severity := some severity.name } ∈ found := by
  have hreports : reports (Head.of head) noOptions linter.active =
      .ok (own.map fun d => { d with severity := some severity.name }) := by
    rw [hactive, reports, hown, reports]
    simp [Except.map]
  refine ⟨(own.map fun d => { d with severity := some severity.name }).mergeSort
    fun a b => decide (a.position ≤ b.position), ?_, ?_⟩
  · simp [lint, hparse, lintHeads, lintHeadFrom, lintHead, OptionSource.options, hreports,
      Except.map]
  · intro d hd
    rw [List.mem_mergeSort]
    exact List.mem_map_of_mem hd

theorem exists_of_suggestions {rule : Rule} {html : String}
    {list : List Suggestion} (h : suggestions rule html = some list) :
    ∃ head own, parse html = .ok ⟨html, [head]⟩ ∧ rule.check (Head.of head) noOptions = .ok own ∧
      ∀ s ∈ list, ∃ d ∈ own, ∃ edit ∈ d.edits, suggestion d edit = s := by
  unfold suggestions at h
  split at h
  · rename_i head hparse
    split at h
    · rename_i own hown
      obtain rfl := Option.some.inj h
      obtain ⟨tokens, -, hdoc⟩ := parse_eq_ok_iff.1 hparse
      obtain ⟨rfl, -⟩ := Document.mk.inj hdoc
      refine ⟨head, own, hparse, hown, fun s hs => ?_⟩
      obtain ⟨d, hd, hmem⟩ := List.mem_flatMap.1 hs
      obtain ⟨edit, hedit, heq⟩ := List.mem_map.1 hmem
      exact ⟨d, hd, edit, hedit, heq⟩
    · cases h
  · cases h

-- What a rule suggests is suggested by the linter that has this rule alone.
theorem Alone.exists_lint {name : String} {rule : Rule} (halone : Alone name rule) {html : String}
    {list : List Suggestion} (h : suggestions rule html = some list) :
    ∃ linter found, make .builtin (soleRule name) (.str "sole") [] = .ok linter ∧
      linter.lint (.given noOptions) html = .ok found ∧
      ∀ s ∈ list, ∃ d ∈ found, ∃ edit ∈ d.edits, suggestion d edit = s := by
  obtain ⟨linter, hmake, hactive⟩ := halone.exists_make
  obtain ⟨head, own, hparse, hown, hlist⟩ := exists_of_suggestions h
  obtain ⟨found, hlint, hfound⟩ := exists_lint_of_active hactive hparse hown
  refine ⟨linter, found, hmake, hlint, fun s hs => ?_⟩
  obtain ⟨d, hd, edit, hedit, heq⟩ := hlist s hs
  exact ⟨_, hfound d hd, edit, hedit, heq⟩

/-- A declaration of an old encoding. -/
def charsetHead : String := "<head><meta charset=\"latin1\"></head>"

/-- The slot of its value. -/
def charsetSlot : Slot :=
  ⟨"<head>".toList, "meta ".toList, "charset".toList, ['='], .quoted '"', "></head>".toList⟩

theorem proper_charsetSlot : charsetSlot.Proper := by
  have hname : "harset".toList.all canContinueName = true := by decide
  refine ⟨⟨'c', "harset".toList, by decide, by decide, List.all_eq_true.1 hname⟩,
    ⟨[], [], rfl, by simp, by simp⟩, ?_⟩
  intro q hq
  rw [← Enclosure.quoted.inj hq]
  decide

theorem readAlike_charsetSlot :
    (unmarked charsetSlot).ReadAlike "latin1".toList "utf-8".toList := by
  constructor
  · decide +kernel
  · exact ⟨"meta".toList, [], ' ', by decide +kernel, by decide +kernel, by simp⟩
  · exact ⟨by decide, by decide⟩
  · exact ⟨by decide, by decide⟩

theorem lint_replaceValue_charsetHead :
    ∃ linter found d edit doc,
      make .builtin (soleRule "valid-charset") (.str "sole") [] = .ok linter ∧
      linter.lint (.given noOptions) charsetHead = .ok found ∧ d ∈ found ∧ edit ∈ d.edits ∧
      edit.replacement = "utf-8" ∧ parse charsetHead = .ok doc ∧
      edit.applied charsetHead.toList = .ok (charsetSlot.fill "utf-8".toList) ∧
      doc.Rewritten d.span "charset" "utf-8" (charsetSlot.fill "utf-8".toList) := by
  have hsuggestions : suggestions Rules.validCharset charsetHead =
      some [⟨some ⟨6, 29, 1, 6⟩, .replaceValue, some "charset", "utf-8",
        some ⟨21, 27, 1, 21⟩⟩] := by
    decide +kernel
  obtain ⟨linter, found, hmake, hlint, hlist⟩ := alone_validCharset.exists_lint hsuggestions
  obtain ⟨d, hd, edit, hedit, heq⟩ := hlist _ (List.mem_singleton.2 rfl)
  simp only [suggestion, Suggestion.mk.injEq] at heq
  obtain ⟨hspan, haction, hattr, hreplacement, hrange⟩ := heq
  obtain ⟨doc, hparse, -, hall⟩ := lint_replaceValue_iff hmake hlint hd hedit haction hrange
  have hmarks : charsetSlot.Marks "latin1".toList charsetHead d edit :=
    ⟨proper_charsetSlot, by decide, ⟨_, hspan, by decide⟩, hattr.trans (by decide +kernel),
      _, hrange, by decide, by decide⟩
  obtain ⟨happlied, -, hiff⟩ := hall charsetSlot _ hmarks
  rw [hreplacement] at happlied hiff
  refine ⟨linter, found, d, edit, doc, hmake, hlint, hd, hedit, hreplacement, hparse, happlied, ?_⟩
  have hkey : charsetSlot.key = "charset" := by decide +kernel
  rw [hkey] at hiff
  exact (hiff readAlike_charsetSlot).2 ⟨by decide, by decide⟩

/-- Viewport settings with a reference to a quote. -/
def viewportHead : String :=
  "<head><meta name=viewport content=\"user-scalable=no,&quot;\"></head>"

/-- The same without the directive at fault, and with a quote in place of the reference. -/
def spoiledHead : String :=
  "<head><meta name=viewport content=\"\"\"></head>"

/-- The attributes of the children of each head, changed. -/
def childAttrs (change : Element.Change) (heads : List Element) :
    List (List (Entries (Option String))) :=
  heads.map fun head => head.children.map fun e => change e.span e.attrs

theorem childAttrs_of_outline {change change' : Element.Change} {heads heads' : List Element}
    (h : heads.map (Element.outline change) = heads'.map (Element.outline change')) :
    childAttrs change heads = childAttrs change' heads' := by
  have hshown : ∀ (change : Element.Change) (heads : List Element),
      childAttrs change heads =
        (heads.map (Element.outline change)).map fun head => head.children.map (·.attrs) := by
    intro change heads
    simp [childAttrs, Element.children_outline, Element.attrs_outline, Function.comp_def]
  rw [hshown, hshown, h]

/-- A quote in the new value ends it too early. -/
theorem lint_replaceValue_spoils_viewportHead :
    ∃ linter found d edit doc,
      make .builtin (soleRule "valid-meta-viewport") (.str "sole") [] = .ok linter ∧
      linter.lint (.given noOptions) viewportHead = .ok found ∧ d ∈ found ∧ edit ∈ d.edits ∧
      edit.replacement = "\"" ∧ parse viewportHead = .ok doc ∧
      edit.applied viewportHead.toList = .ok spoiledHead.toList ∧
      ¬ doc.Rewritten d.span "content" edit.replacement spoiledHead.toList := by
  have hsuggestions : suggestions Rules.validViewport viewportHead =
      some [⟨some ⟨6, 60, 1, 6⟩, .replaceValue, some "content", "\"",
        some ⟨35, 58, 1, 35⟩⟩] := by
    decide +kernel
  obtain ⟨linter, found, hmake, hlint, hlist⟩ := alone_validViewport.exists_lint hsuggestions
  obtain ⟨d, hd, edit, hedit, heq⟩ := hlist _ (List.mem_singleton.2 rfl)
  simp only [suggestion, Suggestion.mk.injEq] at heq
  obtain ⟨hspan, haction, -, hreplacement, hrange⟩ := heq
  have hsource : viewportHead.toList = viewportHead.toList.take 35 ++
      ((viewportHead.toList.drop 35).take 23 ++ viewportHead.toList.drop 58) := by
    decide
  have happlied := Edit.applied_replaceValue haction hrange hsource (by decide) (by decide)
  have hspoiled : viewportHead.toList.take 35 ++
      ("\"".toList ++ viewportHead.toList.drop 58) = spoiledHead.toList := by
    decide
  rw [hreplacement, hspoiled] at happlied
  obtain ⟨doc, hparse, -⟩ := exists_concerns_of_lint hmake hlint hd
  refine ⟨linter, found, d, edit, doc, hmake, hlint, hd, hedit, hreplacement, hparse, happlied, ?_⟩
  rintro ⟨doc', hparse', houtlines⟩
  -- The text now has an attribute more, and the old one is empty.
  have hdiffer : (parse (String.ofList spoiledHead.toList)).toOption.map
      (childAttrs Element.keep ·.heads) ≠
        (parse viewportHead).toOption.map
          (childAttrs (Element.setAt (some ⟨6, 60, 1, 6⟩) "content" "\"")
            ·.heads) := by
    decide +kernel
  rw [hparse', hparse] at hdiffer
  rw [hspan, hreplacement] at houtlines
  exact hdiffer (congrArg some (childAttrs_of_outline houtlines))

end Linter

end HeadLint
