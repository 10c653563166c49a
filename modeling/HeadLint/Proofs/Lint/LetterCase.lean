import HeadLint.Proofs.Lint.Independence
import HeadLint.Proofs.Text.Case

/-!
Rules and letter case.  A rule reads the tag of an element and the names of its attributes in lower
case only, so it makes no difference which of their letters are capitals.
-/

namespace HeadLint

open Text

/-! ## Elements -/

namespace Element

mutual

/-- An element with the capitals of ASCII made small in all tags and attribute names of its tree;
all else stays. -/
def plain : Element → Element
  | ⟨tag, attrs, text, children, span, attrSpans⟩ =>
    { tag := Text.plain tag
      attrs := attrs.map fun attr => (Text.plain attr.1, attr.2)
      text
      children := plainAll children
      span, attrSpans }

/-- Elements with the capitals of ASCII made small in their trees. -/
def plainAll : List Element → List Element
  | [] => []
  | e :: rest => plain e :: plainAll rest

end

/-- Two elements that differ at most in the case of ASCII letters in the tags and attribute names of
their trees. -/
def SameButCase (e e' : Element) : Prop :=
  e.plain = e'.plain

variable (e : Element) (name : String)

theorem plainAll_eq_map (elements : List Element) : plainAll elements = elements.map plain := by
  induction elements with
  | nil => rfl
  | cons e rest ih => rw [plainAll, ih, List.map_cons]

theorem children_plain : e.plain.children = e.children.map plain := by
  cases e
  exact plainAll_eq_map _

@[simp] theorem text_plain : e.plain.text = e.text := by
  cases e
  rfl

@[simp] theorem span_plain : e.plain.span = e.span := by
  cases e
  rfl

@[simp] theorem attributeSpan?_plain : e.plain.attributeSpan? name = e.attributeSpan? name := by
  cases e
  rfl

@[simp] theorem lowered_tag_plain : lowered e.plain.tag = lowered e.tag := by
  cases e
  exact lowered_plain _

@[simp] theorem name_plain : e.plain.name = e.name :=
  lowered_tag_plain e

-- The first attribute with a name stays the first, since names are compared in lower case.
@[simp] theorem findAttribute?_plain :
    e.plain.findAttribute? name = e.findAttribute? name := by
  obtain ⟨tag, attrs, text, children, span, attrSpans⟩ := e
  simp only [plain, findAttribute?, List.find?_map, Option.map_map, Function.comp_def,
    lowered_plain]

@[simp] theorem attribute?_plain : e.plain.attribute? name = e.attribute? name := by
  simp [attribute?]

@[simp] theorem hasAttribute_plain : e.plain.hasAttribute name = e.hasAttribute name := by
  simp [hasAttribute]

@[simp] theorem keyword_plain : e.plain.keyword name = e.keyword name := by
  simp [keyword]

@[simp] theorem filled?_plain : e.plain.filled? name = e.filled? name := by
  simp [filled?]

@[simp] theorem isPolicy_plain : e.plain.isPolicy = e.isPolicy := by simp [isPolicy]

@[simp] theorem isTrial_plain : e.plain.isTrial = e.isTrial := by simp [isTrial]

@[simp] theorem isViewport_plain : e.plain.isViewport = e.isViewport := by simp [isViewport]

@[simp] theorem isDefaultStyle_plain : e.plain.isDefaultStyle = e.isDefaultStyle := by
  simp [isDefaultStyle]

@[simp] theorem declaresEncoding_plain : e.plain.declaresEncoding = e.declaresEncoding := by
  simp [declaresEncoding]

@[simp] theorem isPragma_plain : e.plain.isPragma = e.isPragma := by simp [isPragma]

@[simp] theorem isPreload_plain : e.plain.isPreload = e.isPreload := by simp [isPreload]

@[simp] theorem resourceUrl?_plain : e.plain.resourceUrl? = e.resourceUrl? := by
  simp [resourceUrl?]

@[simp] theorem isHeadTag_plain : isHeadTag e.plain.tag = isHeadTag e.tag := by
  simp [isHeadTag]

end Element

/-! ## Checks -/

section Checks

variable (e : Element)

theorem Category.firstMatch_plain {rows : List (Category × (Element → Bool))}
    (h : ∀ row ∈ rows, row.2 e.plain = row.2 e) : firstMatch rows e.plain = firstMatch rows e := by
  induction rows with
  | nil => rfl
  | cons row rest ih =>
    have hrest := ih fun row' hrow => h row' (List.mem_cons_of_mem _ hrow)
    simp only [firstMatch, List.find?_cons, h row (List.mem_cons_self ..)] at hrest ⊢
    cases row.2 e with
    | false => exact hrest
    | true => rfl

@[simp] theorem Category.of_plain : Category.of e.plain = Category.of e := by
  refine firstMatch_plain e ?_
  simp [table, Element.loadsAsPragma, Element.loadsAsTitle, Element.loadsAsPreconnect,
    Element.loadsAsAsyncScript, Element.loadsAsImportStyles, Element.loadsAsSyncScript,
    Element.loadsAsSyncStyles, Element.loadsAsPreload, Element.loadsAsDeferScript,
    Element.loadsAsPrefetch]

@[simp] theorem Policy.check_plain : Policy.check e.plain = Policy.check e := by
  simp only [Policy.check, Element.keyword_plain, Element.filled?_plain]

@[simp] theorem Pragma.check_plain : Pragma.check e.plain = Pragma.check e := by
  simp [Pragma.check]

@[simp] theorem Viewport.check_plain : Viewport.check e.plain = Viewport.check e := by
  simp [Viewport.check]

@[simp] theorem DefaultStyle.check_plain : DefaultStyle.check e.plain = DefaultStyle.check e := by
  simp [DefaultStyle.check]

@[simp] theorem Charset.check_plain : Charset.check e.plain = Charset.check e := by
  simp only [Charset.check, Charset.declared?, Element.filled?_plain, Element.attribute?_plain]

@[simp] theorem Rules.hasDedicatedRule_plain :
    Rules.hasDedicatedRule e.plain = Rules.hasDedicatedRule e := by
  simp [Rules.hasDedicatedRule]

theorem inversions_plain (children : List Element) :
    inversions (children.map Element.plain) = inversions children := by
  simp only [inversions, List.map_map, Function.comp_def, Category.of_plain]

end Checks

/-! ## Reports -/

section Reports

variable (rule : RuleInfo) (e : Element)

@[simp] theorem RuleInfo.replaceValue_plain (id attr text : String) :
    rule.replaceValue id e.plain attr text = rule.replaceValue id e attr text := by
  simp [replaceValue, replacement]

@[simp] theorem RuleInfo.removeElement_plain (id : String) (includeLine automatic : Bool)
    (data : Entries Json) :
    rule.removeElement id e.plain includeLine automatic data =
      rule.removeElement id e includeLine automatic data := by
  simp [removeElement, removal]

@[simp] theorem RuleInfo.reportWith_plain (code message : String) (data : Entries Json)
    (edits : List Edit) :
    rule.reportWith code message e.plain data edits =
      rule.reportWith code message e data edits := by
  simp [reportWith]

@[simp] theorem RuleInfo.report_plain (code : String) (data : Entries Json) (edits : List Edit) :
    rule.report code e.plain data edits = rule.report code e data edits := by
  simp [report]

@[simp] theorem Rules.utf8Edits_plain : Rules.utf8Edits e.plain = Rules.utf8Edits e := by
  simp [Rules.utf8Edits]

@[simp] theorem Rules.viewportEdits_plain (code : String) :
    Rules.viewportEdits e.plain code = Rules.viewportEdits e code := by
  simp [Rules.viewportEdits]

@[simp] theorem Rules.reportTrial_plain (options : Options) :
    Rules.reportTrial options e.plain = Rules.reportTrial options e := by
  simp [Rules.reportTrial]

end Reports

/-! ## Heads -/

/-- A head with the capitals of ASCII made small in its tree. -/
def Head.plain (head : Head) : Head :=
  ⟨head.element.plain, head.census⟩

namespace Head

variable (head : Head)

theorem children_plain : head.plain.children = head.children.map Element.plain :=
  Element.children_plain head.element

theorem select_plain (positions : List Nat) :
    head.plain.select positions = (head.select positions).map Element.plain := by
  simp only [select, children_plain, List.map_filterMap, List.getElem?_map]

theorem each_plain {p : Element → Bool} (hp : ∀ e, p e.plain = p e) :
    head.plain.each p = (head.each p).map (Prod.map id Element.plain) := by
  simp only [each, children_plain, List.zipIdx_map, List.filterMap_map, List.map_filterMap]
  congr 1
  funext child
  simp only [Function.comp_apply, Prod.map_fst, Prod.map_snd, id_eq, hp]
  split <;> rfl

-- Reports on the children that satisfy a condition.
theorem flatMap_each_plain {p : Element → Bool} (hp : ∀ e, p e.plain = p e)
    {reports : Nat × Element → List Diagnostic}
    (h : ∀ i e, reports (i, e.plain) = reports (i, e)) :
    (head.plain.each p).flatMap reports = (head.each p).flatMap reports := by
  rw [each_plain head hp, List.flatMap_map]
  congr 1
  funext child
  exact h child.1 child.2

theorem census_plain (children : List Element) :
    Census.of (children.map Element.plain) = Census.of children := by
  have hadd : ∀ census child, Census.add census (Prod.map Element.plain id child) =
      Census.add census child := by
    intro census child
    simp [Census.add]
  rw [Census.of, List.zipIdx_map, List.foldl_map, Census.of]
  simp only [hadd]

theorem of_plain (e : Element) : Head.of e.plain = (Head.of e).plain := by
  rw [Head.of, Element.children_plain, census_plain]
  rfl

end Head

theorem Preload.discoverable_plain (children : List Element) :
    discoverable (children.map Element.plain) = discoverable children := by
  simp [discoverable, List.foldl_map]

@[simp] theorem Preload.problem?_plain (found : Entries String) (e : Element) :
    problem? found e.plain = problem? found e := by
  simp [problem?]

theorem Preload.find_plain (children : List Element) :
    find (children.map Element.plain) =
      (find children).map fun found => (found.1, found.2.1.plain, found.2.2) := by
  simp only [find, discoverable_plain, List.zipIdx_map, List.filterMap_map, List.map_filterMap]
  congr 1
  funext child
  simp [Function.comp_def]

/-! ## Rules -/

/-- A rule that does not look at the case of letters in tags and attribute names. -/
def Rule.CaseBlind (rule : Rule) : Prop :=
  ∀ head options, rule.check head.plain options = rule.check head options

namespace Rules

theorem caseBlind_headElementOrder : headElementOrder.CaseBlind := by
  intro head options
  simp [headElementOrder, Head.children_plain, inversions_plain, Head.select_plain,
    Function.comp_def]

theorem caseBlind_noUnnecessaryPreload : noUnnecessaryPreload.CaseBlind := by
  intro head options
  simp [noUnnecessaryPreload, Head.children_plain, Preload.find_plain, Function.comp_def]

theorem caseBlind_requireTitle : requireTitle.CaseBlind := by
  intro head options
  simp [requireTitle, Head.plain]

theorem caseBlind_requireViewport : requireViewport.CaseBlind := by
  intro head options
  simp [requireViewport, Head.plain]

theorem caseBlind_noDuplicateTitle : noDuplicateTitle.CaseBlind := by
  intro head options
  have hcensus : head.plain.census = head.census := rfl
  simp [noDuplicateTitle, hcensus, Head.select_plain, Function.comp_def]

theorem caseBlind_noDuplicateBase : noDuplicateBase.CaseBlind := by
  intro head options
  have hcensus : head.plain.census = head.census := rfl
  simp [noDuplicateBase, hcensus, Head.select_plain, List.zipIdx_map, Function.comp_def]

theorem caseBlind_noInvalidHeadElements : noInvalidHeadElements.CaseBlind := by
  intro head options
  have heach := head.each_plain (p := fun e => !Element.isHeadTag e.tag) fun e => by simp
  simp [noInvalidHeadElements, heach, Function.comp_def]

theorem caseBlind_noMetaCsp : noMetaCsp.CaseBlind := by
  intro head options
  exact congrArg Except.ok (head.flatMap_each_plain Element.isPolicy_plain fun i e => by simp)

theorem caseBlind_noDefaultStyle : noDefaultStyle.CaseBlind := by
  intro head options
  exact congrArg Except.ok
    (head.flatMap_each_plain Element.isDefaultStyle_plain fun i e => by simp)

theorem caseBlind_noInvalidHttpEquiv : noInvalidHttpEquiv.CaseBlind := by
  intro head options
  exact congrArg Except.ok (head.flatMap_each_plain Element.isPragma_plain fun i e => by simp)

theorem caseBlind_validCharset : validCharset.CaseBlind := by
  intro head options
  exact congrArg Except.ok
    (head.flatMap_each_plain Element.declaresEncoding_plain fun i e => by simp [Head.plain])

theorem caseBlind_validViewport : validViewport.CaseBlind := by
  intro head options
  have hcensus : head.plain.census = head.census := rfl
  have helement : head.plain.element = head.element.plain := rfl
  simp only [validViewport, hcensus, helement, RuleInfo.report_plain]
  rw [head.flatMap_each_plain Element.isViewport_plain]
  intro i e
  simp

theorem caseBlind_noInvalidOriginTrial : noInvalidOriginTrial.CaseBlind := by
  intro head options
  have htrials : ∀ elements : List Element,
      reportTrials options (elements.map Element.plain) = reportTrials options elements := by
    intro elements
    induction elements with
    | nil => rfl
    | cons e rest ih => rw [List.map_cons, reportTrials, reportTrials, reportTrial_plain, ih]
  have hselected : (head.plain.each Element.isTrial).map (·.2) =
      ((head.each Element.isTrial).map (·.2)).map Element.plain := by
    simp [Head.each_plain head Element.isTrial_plain, Function.comp_def]
  simp only [noInvalidOriginTrial, hselected, htrials]

end Rules

theorem Catalog.caseBlind_builtin : ∀ rule ∈ Catalog.builtin.all, rule.CaseBlind := by
  intro rule hrule
  have hmem := Catalog.mem_of_mem_all hrule
  simp only [List.mem_cons, List.not_mem_nil, or_false] at hmem
  rcases hmem with rfl | rfl | rfl | rfl | rfl | rfl | rfl | rfl | rfl | rfl | rfl | rfl | rfl
  · exact Rules.caseBlind_headElementOrder
  · exact Rules.caseBlind_noDefaultStyle
  · exact Rules.caseBlind_noDuplicateBase
  · exact Rules.caseBlind_noDuplicateTitle
  · exact Rules.caseBlind_noInvalidHeadElements
  · exact Rules.caseBlind_noInvalidHttpEquiv
  · exact Rules.caseBlind_noInvalidOriginTrial
  · exact Rules.caseBlind_noMetaCsp
  · exact Rules.caseBlind_noUnnecessaryPreload
  · exact Rules.caseBlind_requireViewport
  · exact Rules.caseBlind_requireTitle
  · exact Rules.caseBlind_validCharset
  · exact Rules.caseBlind_validViewport

namespace Linter

theorem reports_plain (head : Head) (options : Options) {active : List (Rule × Severity)}
    (hactive : ∀ a ∈ active, a.1.CaseBlind) :
    reports head.plain options active = reports head options active := by
  induction active with
  | nil => rfl
  | cons first rest ih =>
    obtain ⟨rule, severity⟩ := first
    have hrule : rule.CaseBlind := hactive _ (List.mem_cons_self ..)
    have hrest := ih fun a ha => hactive a (List.mem_cons_of_mem _ ha)
    rw [reports, reports, hrule, hrest]

theorem lintHead_plain {linter : Linter} (hactive : ∀ a ∈ linter.active, a.1.CaseBlind)
    (options : Options) (head : Element) :
    linter.lintHead options head.plain = linter.lintHead options head := by
  rw [lintHead, lintHead, Head.of_plain, reports_plain _ options hactive]

/-- Two heads that differ only in the case of ASCII letters in tags and attribute names, at any
depth, have the same reports. -/
theorem lintHead_eq_of_sameButCase {config preset : Json} {overrides : List (Json × Json)}
    {linter : Linter} (hmake : make .builtin config preset overrides = .ok linter)
    (options : Options) {head head' : Element} (h : head.SameButCase head') :
    linter.lintHead options head = linter.lintHead options head' := by
  have hactive : ∀ a ∈ linter.active, a.1.CaseBlind := fun a ha =>
    Catalog.caseBlind_builtin _ (mem_all_of_make hmake a ha)
  calc linter.lintHead options head
      = linter.lintHead options head.plain := (lintHead_plain hactive options head).symm
    _ = linter.lintHead options head'.plain := by rw [show head.plain = head'.plain from h]
    _ = linter.lintHead options head' := lintHead_plain hactive options head'

/-- A head in capitals.  Two of the attribute names differ only in case, and the first counts. -/
def capitalHead : Element :=
  { tag := "HEAD"
    children := [
      { tag := "META", attrs := [("CHARSET", some "latin1"), ("charset", some "utf-8")] },
      { tag := "NOSCRIPT", children := [{ tag := "LINK", attrs := [("REL", some "Preload")] }] }] }

/-- The same head, with the case of many letters changed. -/
def smallHead : Element :=
  { tag := "head"
    children := [
      { tag := "meta", attrs := [("charset", some "latin1"), ("charSET", some "utf-8")] },
      { tag := "noScript", children := [{ tag := "link", attrs := [("rel", some "Preload")] }] }] }

theorem lintHead_capitalHead :
    ∃ linter found, make .builtin (.obj []) (.str "all") [] = .ok linter ∧
      linter.lintHead { now := ⟨0⟩ } capitalHead = .ok found ∧
      linter.lintHead { now := ⟨0⟩ } smallHead = .ok found ∧
      ∃ d ∈ found, d.code = "invalidCharset" ∧ d.tag = "meta" := by
  obtain ⟨linter, hmake, hruns⟩ := exists_make_all (.obj [])
  have hrule : Rules.validCharset ∈ Catalog.builtin.all :=
    List.mem_mergeSort.2 (List.mem_of_getElem? (i := 11) rfl)
  have htrial : Rules.noInvalidOriginTrial.check (Head.of capitalHead) { now := ⟨0⟩ } = .ok [] :=
    rfl
  obtain ⟨found, hfound⟩ := exists_lintHead_of_make hmake fun _ => ⟨_, htrial⟩
  have hsame : capitalHead.SameButCase smallHead := by
    simp [Element.SameButCase, capitalHead, smallHead, Element.plain, Element.plainAll, Text.plain]
  refine ⟨linter, found, hmake, hfound, ?_, ?_⟩
  · rw [← lintHead_eq_of_sameButCase hmake _ hsame]
    exact hfound
  · obtain ⟨severity, hactive⟩ := hruns _ hrule
    obtain ⟨own, hown, hamong⟩ := among_lintHead hmake hfound hactive
    have hsigns : own.map (fun d => (d.code, d.tag)) = [("invalidCharset", "meta")] := by
      rw [← Except.ok.inj hown]
      decide +kernel
    obtain ⟨d, rfl, hd⟩ := List.map_eq_singleton_iff.1 hsigns
    obtain ⟨hcode, htag⟩ := Prod.mk.inj hd
    have hmem : d.rated severity ∈ Rules.validCharset.among found := by
      rw [hamong]
      simp [inOrder]
    exact ⟨d.rated severity, List.mem_of_mem_filter hmem, hcode, htag⟩

end Linter

end HeadLint
