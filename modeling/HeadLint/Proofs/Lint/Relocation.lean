import HeadLint.Proofs.Lint.Provenance

/-!
Rules and positions.  A rule looks at what a head says and never at where it stands, so when all
source ranges of a head are moved, the rule reports the same with its ranges moved alike.
-/

namespace HeadLint

open Text

/-! ## Moving ranges -/

/-- Attribute ranges, moved. -/
def relocateEntries (f : Span → Span) (ranges : Entries Span) : Entries Span :=
  ranges.map fun entry => (entry.1, f entry.2)

namespace Element

mutual

/-- An element with all source ranges in its tree moved. -/
def relocate (f : Span → Span) : Element → Element
  | ⟨tag, attrs, text, children, span, attrSpans⟩ =>
    { tag, attrs, text
      children := relocateAll f children
      span := span.map f
      attrSpans := relocateEntries f attrSpans }

/-- Elements with all source ranges in their trees moved. -/
def relocateAll (f : Span → Span) : List Element → List Element
  | [] => []
  | e :: rest => relocate f e :: relocateAll f rest

end

theorem relocateAll_eq_map (f : Span → Span) (elements : List Element) :
    relocateAll f elements = elements.map (relocate f) := by
  induction elements with
  | nil => rfl
  | cons e rest ih => rw [relocateAll, ih, List.map_cons]

theorem children_relocate (f : Span → Span) (e : Element) :
    (e.relocate f).children = e.children.map (relocate f) := by
  cases e
  exact relocateAll_eq_map f _

theorem span_relocate (f : Span → Span) (e : Element) : (e.relocate f).span = e.span.map f := by
  cases e
  rfl

theorem attributeSpan?_relocate (f : Span → Span) (e : Element) (name : String) :
    (e.relocate f).attributeSpan? name = (e.attributeSpan? name).map f := by
  cases e
  simp only [relocate, attributeSpan?, Entries.get?, relocateEntries, List.find?_map,
    Option.map_map]
  rfl

/-- What depends on the tag, the attributes and the text of an element alone. -/
def Blind {α : Type} (g : Element → α) : Prop :=
  ∀ tag attrs text children span attrSpans,
    g ⟨tag, attrs, text, children, span, attrSpans⟩ = g ⟨tag, attrs, text, [], none, []⟩

theorem Blind.relocate {α : Type} {g : Element → α} (h : Blind g) (f : Span → Span)
    (e : Element) : g (e.relocate f) = g e := by
  obtain ⟨tag, attrs, text, children, span, attrSpans⟩ := e
  rw [Element.relocate, h, h tag attrs text children]

end Element

/-- An edit with its range moved. -/
def Edit.relocate (f : Span → Span) (edit : Edit) : Edit :=
  { edit with span := edit.span.map f }

/-- A report with its range and those of its edits moved. -/
def Diagnostic.relocate (f : Span → Span) (d : Diagnostic) : Diagnostic :=
  { d with span := d.span.map f, edits := d.edits.map (Edit.relocate f) }

/-- A head with all its source ranges moved. -/
def Head.relocate (f : Span → Span) (head : Head) : Head :=
  ⟨head.element.relocate f, head.census⟩

section Reports

variable (rule : RuleInfo) (f : Span → Span) (e : Element)

theorem RuleInfo.replaceValue_relocate (id attr text : String) :
    rule.replaceValue id (e.relocate f) attr text =
      (rule.replaceValue id e attr text).relocate f := by
  simp only [replaceValue, replacement, Edit.relocate, Element.attributeSpan?_relocate]

theorem RuleInfo.removeElement_relocate (id : String) (includeLine automatic : Bool)
    (data : Entries Json) :
    rule.removeElement id (e.relocate f) includeLine automatic data =
      (rule.removeElement id e includeLine automatic data).relocate f := by
  simp only [removeElement, removal, Edit.relocate, Element.span_relocate]

theorem RuleInfo.reportWith_relocate (code message : String) (data : Entries Json)
    (edits : List Edit) :
    rule.reportWith code message (e.relocate f) data (edits.map (Edit.relocate f)) =
      (rule.reportWith code message e data edits).relocate f := by
  have hname : (e.relocate f).name = e.name :=
    Element.Blind.relocate (g := Element.name) (fun _ _ _ _ _ _ => rfl) f e
  simp only [reportWith, Diagnostic.relocate, Element.span_relocate, hname]

theorem RuleInfo.report_relocate (code : String) (data : Entries Json) (edits : List Edit) :
    rule.report code (e.relocate f) data (edits.map (Edit.relocate f)) =
      (rule.report code e data edits).relocate f :=
  reportWith_relocate rule f e code _ data edits

end Reports

/-! ## Heads -/

namespace Head

variable (f : Span → Span) (head : Head)

theorem children_relocate : (head.relocate f).children = head.children.map (Element.relocate f) :=
  Element.children_relocate f head.element

theorem select_relocate (positions : List Nat) :
    (head.relocate f).select positions = (head.select positions).map (Element.relocate f) := by
  simp only [select, children_relocate, List.map_filterMap, List.getElem?_map]

theorem each_relocate {p : Element → Bool} (hp : Element.Blind p) :
    (head.relocate f).each p = (head.each p).map (Prod.map id (Element.relocate f)) := by
  simp only [each, children_relocate, List.zipIdx_map, List.filterMap_map, List.map_filterMap]
  congr 1
  funext child
  simp only [Function.comp_apply, Prod.map_fst, Prod.map_snd, id_eq, hp.relocate]
  split <;> rfl

-- Reports on the children that satisfy a condition.
theorem flatMap_each_relocate {p : Element → Bool} (hp : Element.Blind p)
    {reports : Nat × Element → List Diagnostic}
    (h : ∀ i e, reports (i, e.relocate f) = (reports (i, e)).map (Diagnostic.relocate f)) :
    ((head.relocate f).each p).flatMap reports =
      ((head.each p).flatMap reports).map (Diagnostic.relocate f) := by
  rw [each_relocate f head hp, List.flatMap_map, List.map_flatMap]
  congr 1
  funext child
  exact h child.1 child.2

theorem census_relocate (children : List Element) :
    Census.of (children.map (Element.relocate f)) = Census.of children := by
  have hadd : ∀ census child, Census.add census (Prod.map (Element.relocate f) id child) =
      Census.add census child := fun census child =>
    Element.Blind.relocate (g := fun e => Census.add census (e, child.2))
      (fun _ _ _ _ _ _ => rfl) f child.1
  rw [Census.of, List.zipIdx_map, List.foldl_map, Census.of]
  simp only [hadd]

theorem of_relocate (e : Element) : Head.of (e.relocate f) = (Head.of e).relocate f := by
  rw [Head.of, Element.children_relocate, census_relocate]
  rfl

end Head

-- Reports on the problems of an element.
theorem map_reportWith_relocate (rule : RuleInfo) (f : Span → Span) {e : Element}
    {problems : List Problem} {edits edits' : Problem → List Edit}
    (h : ∀ p, edits' p = (edits p).map (Edit.relocate f)) :
    (problems.map fun p => rule.reportWith p.code p.message (e.relocate f) p.data (edits' p)) =
      (problems.map fun p => rule.reportWith p.code p.message e p.data (edits p)).map
        (Diagnostic.relocate f) := by
  rw [List.map_map]
  apply List.map_congr_left
  intro p _
  rw [h, rule.reportWith_relocate]
  rfl

theorem Preload.find_relocate (f : Span → Span) (children : List Element) :
    Preload.find (children.map (Element.relocate f)) =
      (Preload.find children).map fun found => (found.1, found.2.1.relocate f, found.2.2) := by
  have hurl : ∀ e : Element, (e.relocate f).resourceUrl? = e.resourceUrl? :=
    Element.Blind.relocate (fun _ _ _ _ _ _ => rfl) f
  have hname : ∀ e : Element, (e.relocate f).name = e.name :=
    Element.Blind.relocate (fun _ _ _ _ _ _ => rfl) f
  have hproblem : ∀ found (e : Element), problem? found (e.relocate f) = problem? found e :=
    fun found => Element.Blind.relocate (g := fun e => problem? found e)
      (fun _ _ _ _ _ _ => rfl) f
  have hdiscoverable : discoverable (children.map (Element.relocate f)) =
      discoverable children := by
    simp only [discoverable, List.foldl_map, hurl, hname]
  simp only [find, hdiscoverable, List.zipIdx_map, List.filterMap_map, List.map_filterMap]
  congr 1
  funext child
  simp only [Function.comp_apply, Prod.map_fst, Prod.map_snd, id_eq, hproblem, Option.map_map]
  rfl

/-! ## Rules -/

/-- A rule that does not look at positions. -/
def Rule.Placeless (rule : Rule) : Prop :=
  ∀ f head options, rule.check (head.relocate f) options =
    (rule.check head options).map (List.map (Diagnostic.relocate f))

namespace Rules

open RuleInfo

theorem placeless_headElementOrder : headElementOrder.Placeless := by
  intro f head options
  have hcategory : ∀ e : Element, Category.of (e.relocate f) = Category.of e :=
    Element.Blind.relocate (fun _ _ _ _ _ _ => rfl) f
  have hinversions : inversions (head.children.map (Element.relocate f)) =
      inversions head.children := by
    simp only [inversions, List.map_map, Function.comp_def, hcategory]
  simp only [headElementOrder, Head.children_relocate, Head.select_relocate, hinversions,
    Except.map, List.map_flatMap, List.map_map, Function.comp_def, ← report_relocate,
    List.map_nil]

theorem placeless_noUnnecessaryPreload : noUnnecessaryPreload.Placeless := by
  intro f head options
  simp only [noUnnecessaryPreload, Head.children_relocate, Preload.find_relocate, Except.map,
    List.map_map, Function.comp_def, removeElement_relocate, ← report_relocate, List.map_cons,
    List.map_nil]

theorem placeless_requireTitle : requireTitle.Placeless := by
  intro f head options
  simp only [requireTitle, Head.relocate, Except.map]
  split
  · rw [List.map_singleton, ← report_relocate]
    rfl
  · rfl

theorem placeless_requireViewport : requireViewport.Placeless := by
  intro f head options
  simp only [requireViewport, Head.relocate, Except.map]
  split
  · rw [List.map_singleton, ← report_relocate]
    rfl
  · rfl

theorem placeless_noDuplicateTitle : noDuplicateTitle.Placeless := by
  intro f head options
  have hcensus : (head.relocate f).census = head.census := rfl
  simp only [noDuplicateTitle, hcensus, Head.select_relocate, Except.map, List.map_map,
    Function.comp_def, removeElement_relocate, ← report_relocate, List.map_cons, List.map_nil]

theorem placeless_noDuplicateBase : noDuplicateBase.Placeless := by
  intro f head options
  have hcensus : (head.relocate f).census = head.census := rfl
  simp only [noDuplicateBase, hcensus, Head.select_relocate, List.zipIdx_map, Except.map,
    List.map_map, Function.comp_def, Prod.map_fst, Prod.map_snd, id_eq, removeElement_relocate,
    ← report_relocate, List.map_cons, List.map_nil]

theorem placeless_noInvalidHeadElements : noInvalidHeadElements.Placeless := by
  intro f head options
  have hname : ∀ e : Element, (e.relocate f).name = e.name :=
    Element.Blind.relocate (fun _ _ _ _ _ _ => rfl) f
  simp only [noInvalidHeadElements, Except.map]
  rw [Head.each_relocate f head (fun _ _ _ _ _ _ => rfl)]
  simp only [List.map_map, Function.comp_def, Prod.map_snd, hname, removeElement_relocate,
    ← report_relocate, List.map_cons, List.map_nil]

theorem placeless_noMetaCsp : noMetaCsp.Placeless := by
  intro f head options
  refine congrArg Except.ok (Head.flatMap_each_relocate f head (fun _ _ _ _ _ _ => rfl) ?_)
  intro i e
  have hcheck : Policy.check (e.relocate f) = Policy.check e :=
    Element.Blind.relocate (fun _ _ _ _ _ _ => rfl) f e
  dsimp only
  rw [hcheck, removeElement_relocate]
  exact map_reportWith_relocate _ f fun _ => rfl

theorem placeless_noDefaultStyle : noDefaultStyle.Placeless := by
  intro f head options
  refine congrArg Except.ok (Head.flatMap_each_relocate f head (fun _ _ _ _ _ _ => rfl) ?_)
  intro i e
  have hcheck : DefaultStyle.check (e.relocate f) = DefaultStyle.check e :=
    Element.Blind.relocate (fun _ _ _ _ _ _ => rfl) f e
  dsimp only
  rw [hcheck, removeElement_relocate]
  exact map_reportWith_relocate _ f fun _ => rfl

theorem placeless_noInvalidHttpEquiv : noInvalidHttpEquiv.Placeless := by
  intro f head options
  refine congrArg Except.ok (Head.flatMap_each_relocate f head (fun _ _ _ _ _ _ => rfl) ?_)
  intro i e
  have hdedicated : hasDedicatedRule (e.relocate f) = hasDedicatedRule e :=
    Element.Blind.relocate (fun _ _ _ _ _ _ => rfl) f e
  have hvalue : (e.relocate f).attribute? "http-equiv" = e.attribute? "http-equiv" :=
    Element.Blind.relocate (g := (·.attribute? "http-equiv")) (fun _ _ _ _ _ _ => rfl) f e
  have hcheck : Pragma.check (e.relocate f) = Pragma.check e :=
    Element.Blind.relocate (fun _ _ _ _ _ _ => rfl) f e
  dsimp only
  rw [hdedicated, hvalue, hcheck, removeElement_relocate]
  split
  · rfl
  · refine map_reportWith_relocate _ f fun _ => ?_
    split <;> rfl

theorem utf8Edits_relocate (f : Span → Span) (e : Element) :
    utf8Edits (e.relocate f) = (utf8Edits e).map (Edit.relocate f) := by
  have hcharset : (e.relocate f).filled? "charset" = e.filled? "charset" :=
    Element.Blind.relocate (g := (·.filled? "charset")) (fun _ _ _ _ _ _ => rfl) f e
  have hcontent : (e.relocate f).attribute? "content" = e.attribute? "content" :=
    Element.Blind.relocate (g := (·.attribute? "content")) (fun _ _ _ _ _ _ => rfl) f e
  simp only [utf8Edits, hcharset, hcontent, replaceValue_relocate]
  split
  · rfl
  · split
    · rfl
    · split <;> rfl

theorem placeless_validCharset : validCharset.Placeless := by
  intro f head options
  refine congrArg Except.ok (Head.flatMap_each_relocate f head (fun _ _ _ _ _ _ => rfl) ?_)
  intro i e
  have hcheck : Charset.check (e.relocate f) = Charset.check e :=
    Element.Blind.relocate (fun _ _ _ _ _ _ => rfl) f e
  dsimp only
  rw [hcheck]
  split
  · exact map_reportWith_relocate _ f fun _ => utf8Edits_relocate f e
  · rw [List.map_singleton, ← report_relocate]
    rfl

theorem viewportEdits_relocate (f : Span → Span) (e : Element) (code : String) :
    viewportEdits (e.relocate f) code = (viewportEdits e code).map (Edit.relocate f) := by
  have hcontent : (e.relocate f).attribute? "content" = e.attribute? "content" :=
    Element.Blind.relocate (g := (·.attribute? "content")) (fun _ _ _ _ _ _ => rfl) f e
  simp only [viewportEdits, hcontent, replaceValue_relocate]
  split <;> rfl

theorem placeless_validViewport : validViewport.Placeless := by
  intro f head options
  have hblind : Element.Blind Element.isViewport := fun _ _ _ _ _ _ => rfl
  have hcensus : (head.relocate f).census = head.census := rfl
  have helement : (head.relocate f).element = head.element.relocate f := rfl
  simp only [validViewport, hcensus, helement, Except.map, List.map_append]
  rw [Head.flatMap_each_relocate f head hblind]
  · split
    · rw [List.map_singleton, ← report_relocate]
      rfl
    · rfl
  · intro i e
    have hcheck : Viewport.check (e.relocate f) = Viewport.check e :=
      Element.Blind.relocate (fun _ _ _ _ _ _ => rfl) f e
    dsimp only
    rw [hcheck]
    split
    · exact map_reportWith_relocate _ f fun p => viewportEdits_relocate f e p.code
    · rw [List.map_singleton, ← report_relocate]
      rfl

theorem reportTrial_relocate (f : Span → Span) (options : Options) (e : Element) :
    reportTrial options (e.relocate f) =
      (reportTrial options e).map (List.map (Diagnostic.relocate f)) := by
  have hcontent : (e.relocate f).findAttribute? "content" = e.findAttribute? "content" :=
    Element.Blind.relocate (g := (·.findAttribute? "content")) (fun _ _ _ _ _ _ => rfl) f e
  simp only [reportTrial, hcontent, removeElement_relocate]
  split
  · simp only [Except.map, List.map_singleton, ← report_relocate]
  · rfl
  · split
    · rfl
    · split
      · rfl
      · simp only [Except.map, List.map_singleton, ← report_relocate]
        split <;> rfl

theorem reportTrials_relocate (f : Span → Span) (options : Options) (elements : List Element) :
    reportTrials options (elements.map (Element.relocate f)) =
      (reportTrials options elements).map (List.map (Diagnostic.relocate f)) := by
  induction elements with
  | nil => rfl
  | cons e rest ih =>
    rw [List.map_cons, reportTrials, reportTrials, reportTrial_relocate, ih]
    cases reportTrial options e with
    | error overflow => rfl
    | ok reports => cases reportTrials options rest <;> simp [Except.map]

theorem placeless_noInvalidOriginTrial : noInvalidOriginTrial.Placeless := by
  intro f head options
  have hselected : ((head.relocate f).each Element.isTrial).map (·.2) =
      ((head.each Element.isTrial).map (·.2)).map (Element.relocate f) := by
    rw [Head.each_relocate f head (fun _ _ _ _ _ _ => rfl), List.map_map, List.map_map]
    rfl
  simp only [noInvalidOriginTrial, hselected, reportTrials_relocate]

end Rules

/-! ## Catalogs and linters -/

theorem Catalog.placeless_builtin : ∀ rule ∈ Catalog.builtin.all, rule.Placeless := by
  intro rule hrule
  have hmem := Catalog.mem_of_mem_all hrule
  simp only [List.mem_cons, List.not_mem_nil, or_false] at hmem
  rcases hmem with rfl | rfl | rfl | rfl | rfl | rfl | rfl | rfl | rfl | rfl | rfl | rfl | rfl
  · exact Rules.placeless_headElementOrder
  · exact Rules.placeless_noDefaultStyle
  · exact Rules.placeless_noDuplicateBase
  · exact Rules.placeless_noDuplicateTitle
  · exact Rules.placeless_noInvalidHeadElements
  · exact Rules.placeless_noInvalidHttpEquiv
  · exact Rules.placeless_noInvalidOriginTrial
  · exact Rules.placeless_noMetaCsp
  · exact Rules.placeless_noUnnecessaryPreload
  · exact Rules.placeless_requireViewport
  · exact Rules.placeless_requireTitle
  · exact Rules.placeless_validCharset
  · exact Rules.placeless_validViewport

namespace Linter

theorem reports_relocate (f : Span → Span) (head : Head) (options : Options)
    {active : List (Rule × Severity)} (hactive : ∀ a ∈ active, a.1.Placeless) :
    reports (head.relocate f) options active =
      (reports head options active).map (List.map (Diagnostic.relocate f)) := by
  induction active with
  | nil => rfl
  | cons first rest ih =>
    obtain ⟨rule, severity⟩ := first
    have hrule : rule.Placeless := hactive _ (List.mem_cons_self ..)
    have hrest := ih fun a ha => hactive a (List.mem_cons_of_mem _ ha)
    rw [reports, reports, hrule, hrest]
    cases rule.check head options with
    | error overflow => rfl
    | ok found =>
      -- The severity that is added has nothing to do with the range.
      cases reports head options rest <;> simp [Except.map, Diagnostic.relocate]

/-- Ranges that are moved in a way that keeps the order of reports. -/
def KeepsOrder (f : Span → Span) (found : List Diagnostic) : Prop :=
  ∀ a ∈ found, ∀ b ∈ found,
    (a.relocate f).position ≤ (b.relocate f).position ↔ a.position ≤ b.position

theorem lintHead_relocate {linter : Linter} (hactive : ∀ a ∈ linter.active, a.1.Placeless)
    {f : Span → Span} {head : Element} {options : Options}
    (hf : ∀ found, reports (Head.of head) options linter.active = .ok found →
      KeepsOrder f found) :
    linter.lintHead options (head.relocate f) =
      (linter.lintHead options head).map (List.map (Diagnostic.relocate f)) := by
  rw [lintHead, lintHead, Head.of_relocate, reports_relocate f _ options hactive]
  cases hreports : reports (Head.of head) options linter.active with
  | error overflow => rfl
  | ok found =>
    simp only [Except.map]
    refine congrArg Except.ok (List.map_mergeSort fun a ha b hb => ?_).symm
    exact decide_eq_decide.2 (hf found hreports a ha b hb).symm

theorem lintHeads_relocate {linter : Linter} (hactive : ∀ a ∈ linter.active, a.1.Placeless)
    {f : Span → Span} {heads : List Element} (source : OptionSource)
    (hf : ∀ head ∈ heads, ∀ options found,
      reports (Head.of head) options linter.active = .ok found → KeepsOrder f found) :
    linter.lintHeads source (heads.map (Element.relocate f)) =
      (linter.lintHeads source heads).map (List.map (Diagnostic.relocate f)) := by
  induction heads with
  | nil => rfl
  | cons head rest ih =>
    have hhead := fun options =>
      lintHead_relocate hactive (hf head (List.mem_cons_self ..) options)
    have hrest := ih fun head' hmem => hf head' (List.mem_cons_of_mem _ hmem)
    rw [List.map_cons, lintHeads, lintHeads, lintHeadFrom, lintHeadFrom, hrest]
    cases source.options with
    | error failure => rfl
    | ok options =>
      dsimp only
      rw [hhead options]
      cases linter.lintHead options head with
      | error overflow => rfl
      | ok found => cases linter.lintHeads source rest <;> simp [Except.map]

end Linter

end HeadLint
