import HeadLint.Proofs.Check.Charset
import HeadLint.Proofs.Check.Viewport
import HeadLint.Proofs.Lint.Independence
import HeadLint.Proofs.Lint.Registration

/-!
What rules declare and what they report.  The codes of a rule, its messages and its severity are
written down apart from the checks that produce the reports; no report goes beyond them.
-/

namespace HeadLint

/-! ## Codes of the checks -/

theorem Policy.code_of_check {e : Element} :
    ∀ p ∈ Policy.check e, p.code ∈ Rules.noMetaCspInfo.codes := by
  have hdirectives : ∀ directives, ∀ p ∈ Policy.checkDirectives directives,
      p.code ∈ Rules.noMetaCspInfo.codes := by
    intro directives p hp
    obtain ⟨row, -, rfl⟩ := List.mem_map.1 hp
    exact mem_sortCodes.2 (by simp)
  unfold Policy.check
  dsimp only
  split
  · exact List.forall_mem_singleton.2 (mem_sortCodes.2 (by simp))
  · split
    · refine List.forall_mem_append.2 ⟨?_, List.forall_mem_singleton.2 (mem_sortCodes.2 (by simp))⟩
      split
      · exact List.forall_mem_singleton.2 (mem_sortCodes.2 (by simp))
      · simp
    · refine List.forall_mem_append.2 ⟨?_, hdirectives _⟩
      split
      · exact List.forall_mem_singleton.2 (mem_sortCodes.2 (by simp))
      · simp

namespace Pragma

theorem code_of_refreshProblem (content : String) :
    (refreshProblem content).code ∈ Rules.noInvalidHttpEquivInfo.codes := by
  unfold refreshProblem
  split
  · exact mem_sortCodes.2 (by simp)
  · split <;> exact mem_sortCodes.2 (by simp)

theorem code_of_prefetchControlProblem (content : String) :
    (prefetchControlProblem content).code ∈ Rules.noInvalidHttpEquivInfo.codes := by
  unfold prefetchControlProblem
  split
  · exact mem_sortCodes.2 (by simp)
  · split <;> exact mem_sortCodes.2 (by simp)

theorem code_of_defects : ∀ d ∈ defects, d.code ∈ Rules.noInvalidHttpEquivInfo.codes := by
  intro d hd
  refine mem_sortCodes.2 ?_
  revert d
  decide

theorem code_of_check {e : Element} :
    ∀ p ∈ check e, p.code ∈ Rules.noInvalidHttpEquivInfo.codes := by
  have hproblem : ∀ value content,
      (problemOf value content).code ∈ Rules.noInvalidHttpEquivInfo.codes := by
    intro value content
    unfold problemOf
    split
    · exact code_of_refreshProblem content
    · split
      · exact code_of_prefetchControlProblem content
      · split
        · rename_i d hfind
          exact code_of_defects d (List.mem_of_find?_eq_some hfind)
        · exact mem_sortCodes.2 (by simp)
  unfold check
  dsimp only
  split
  · simp
  · exact List.forall_mem_singleton.2 (hproblem _ _)

end Pragma

theorem DefaultStyle.code_of_check {e : Element} :
    ∀ p ∈ DefaultStyle.check e, p.code ∈ Rules.noDefaultStyleInfo.codes := by
  unfold DefaultStyle.check
  refine List.forall_mem_append.2 ⟨?_, List.forall_mem_singleton.2 (mem_sortCodes.2 (by simp))⟩
  split
  · exact List.forall_mem_singleton.2 (mem_sortCodes.2 (by simp))
  · simp

theorem Charset.code_of_check {e : Element} :
    ∀ p ∈ Charset.check e, p.code ∈ Rules.validCharsetInfo.codes := by
  intro p hp
  rw [code_eq_of_mem_check p hp]
  simp [Rules.validCharsetInfo]

theorem Viewport.code_of_check {e : Element} :
    ∀ p ∈ Viewport.check e, p.code ∈ Rules.validViewportInfo.codes := by
  have hknown : ∀ code ∈ problemCodes, code ∈ Rules.validViewportInfo.codes :=
    fun code hcode => mem_sortCodes.2 (by revert code; decide)
  intro p hp
  exact hknown _ (code_mem_problemCodes e p hp)

theorem Preload.code_of_find {children : List Element} {i : Nat} {e : Element} {p : Problem}
    (h : (i, e, p) ∈ Preload.find children) : p.code = "unnecessaryPreload" := by
  obtain ⟨⟨e', i'⟩, -, hsome⟩ := List.mem_filterMap.1 h
  obtain ⟨problem, hproblem, heq⟩ := Option.map_eq_some_iff.1 hsome
  obtain ⟨-, heq⟩ := Prod.mk.inj heq
  obtain ⟨-, rfl⟩ := Prod.mk.inj heq
  unfold Preload.problem? at hproblem
  split at hproblem
  · obtain ⟨url, -, hurl⟩ := Option.bind_eq_some_iff.1 hproblem
    obtain ⟨tagName, -, htag⟩ := Option.bind_eq_some_iff.1 hurl
    obtain rfl := Option.some.inj htag
    rfl
  · cases hproblem

theorem Trial.Verdict.code_of_code? {verdict : Trial.Verdict} {code : String}
    (h : verdict.code? = some code) : code ∈ Rules.noInvalidOriginTrialInfo.codes := by
  refine mem_sortCodes.2 ?_
  cases verdict with
  | valid token => cases h
  | empty => obtain rfl := Option.some.inj h; decide
  | invalid fault => obtain rfl := Option.some.inj h; decide
  | expired token => obtain rfl := Option.some.inj h; decide
  | wrongOrigin token expected => obtain rfl := Option.some.inj h; decide
  | wrongSubdomain token expected => obtain rfl := Option.some.inj h; decide

/-! ## Reports of one rule -/

/-- A report with a code that the rule declares, and edits with messages of the rule. -/
structure Diagnostic.Declared (rule : RuleInfo) (d : Diagnostic) : Prop where
  code : d.code ∈ rule.codes
  messages : ∀ edit ∈ d.edits, edit.id ∈ Entries.keys rule.messages

/-- A rule whose reports keep to what it declares. -/
def Rule.Declaring (rule : Rule) : Prop :=
  ∀ head options found, rule.check head options = .ok found →
    ∀ d ∈ found, d.Declared rule.toRuleInfo

namespace RuleInfo

variable {rule : RuleInfo} {e : Element}

-- A report with no edit, or with the removal of its element.
theorem declared_report {code : String} (hcode : code ∈ rule.codes) (data : Entries Json) :
    (rule.report code e data).Declared rule :=
  ⟨hcode, fun _ hedit => absurd hedit List.not_mem_nil⟩

theorem declared_report_removal {code id : String} (hcode : code ∈ rule.codes)
    (hid : id ∈ Entries.keys rule.messages) (data : Entries Json) (includeLine automatic : Bool)
    (removalData : Entries Json) :
    (rule.report code e data
      [rule.removeElement id e includeLine automatic removalData]).Declared rule :=
  ⟨hcode, List.forall_mem_singleton.2 hid⟩

theorem declared_of_problems {problems : List Problem} {edits : Problem → List Edit}
    (hcodes : ∀ p ∈ problems, p.code ∈ rule.codes)
    (hids : ∀ p, ∀ edit ∈ edits p, edit.id ∈ Entries.keys rule.messages) :
    ∀ d ∈ problems.map fun p => rule.reportWith p.code p.message e p.data (edits p),
      d.Declared rule := by
  intro d hd
  obtain ⟨p, hp, rfl⟩ := List.mem_map.1 hd
  exact ⟨hcodes p hp, hids p⟩

end RuleInfo

/-! ## Rules -/

namespace Rules

open RuleInfo

theorem declaring_headElementOrder : headElementOrder.Declaring := by
  rintro head options found h d hd
  obtain rfl := Except.ok.inj h
  obtain ⟨v, -, hv⟩ := List.mem_flatMap.1 hd
  obtain ⟨e, -, rfl⟩ := List.mem_map.1 hv
  exact declared_report (by decide) _

theorem declaring_noUnnecessaryPreload : noUnnecessaryPreload.Declaring := by
  rintro head options found h d hd
  obtain rfl := Except.ok.inj h
  obtain ⟨⟨i, e, p⟩, hfind, rfl⟩ := List.mem_map.1 hd
  have hcode : p.code ∈ noUnnecessaryPreloadInfo.codes :=
    List.mem_singleton.2 (Preload.code_of_find hfind)
  exact declared_report_removal hcode (by decide) _ _ _ _

theorem declaring_requireTitle : requireTitle.Declaring := by
  rintro head options found h d hd
  obtain rfl := Except.ok.inj h
  split at hd
  · rw [List.mem_singleton.1 hd]
    exact declared_report (by decide) _
  · cases hd

theorem declaring_requireViewport : requireViewport.Declaring := by
  rintro head options found h d hd
  obtain rfl := Except.ok.inj h
  split at hd
  · rw [List.mem_singleton.1 hd]
    exact declared_report (by decide) _
  · cases hd

theorem declaring_noDuplicateTitle : noDuplicateTitle.Declaring := by
  rintro head options found h d hd
  obtain rfl := Except.ok.inj h
  obtain ⟨e, -, rfl⟩ := List.mem_map.1 hd
  exact declared_report_removal (by decide) (by decide) _ _ _ _

theorem declaring_noDuplicateBase : noDuplicateBase.Declaring := by
  rintro head options found h d hd
  obtain rfl := Except.ok.inj h
  obtain ⟨⟨e, i⟩, -, rfl⟩ := List.mem_map.1 hd
  exact declared_report_removal (by decide) (by decide) _ _ _ _

theorem declaring_noInvalidHeadElements : noInvalidHeadElements.Declaring := by
  rintro head options found h d hd
  obtain rfl := Except.ok.inj h
  obtain ⟨⟨i, e⟩, -, rfl⟩ := List.mem_map.1 hd
  exact declared_report_removal (by decide) (by decide) _ _ _ _

theorem declaring_noMetaCsp : noMetaCsp.Declaring := by
  rintro head options found h d hd
  obtain rfl := Except.ok.inj h
  obtain ⟨⟨i, e⟩, -, hreport⟩ := List.mem_flatMap.1 hd
  have hid : "removeTag" ∈ Entries.keys noMetaCspInfo.messages := by decide
  exact declared_of_problems Policy.code_of_check (fun _ => List.forall_mem_singleton.2 hid) d
    hreport

theorem declaring_noDefaultStyle : noDefaultStyle.Declaring := by
  rintro head options found h d hd
  obtain rfl := Except.ok.inj h
  obtain ⟨⟨i, e⟩, -, hreport⟩ := List.mem_flatMap.1 hd
  have hid : "removeTag" ∈ Entries.keys noDefaultStyleInfo.messages := by decide
  exact declared_of_problems DefaultStyle.code_of_check
    (fun _ => List.forall_mem_singleton.2 hid) d hreport

theorem declaring_noInvalidHttpEquiv : noInvalidHttpEquiv.Declaring := by
  rintro head options found h d hd
  obtain rfl := Except.ok.inj h
  obtain ⟨⟨i, e⟩, -, hreport⟩ := List.mem_flatMap.1 hd
  dsimp only at hreport
  have hid : "removeTag" ∈ Entries.keys noInvalidHttpEquivInfo.messages := by decide
  split at hreport
  · cases hreport
  · refine declared_of_problems Pragma.code_of_check (fun _ => ?_) d hreport
    split
    · simp
    · exact List.forall_mem_singleton.2 hid

theorem id_of_utf8Edits (e : Element) :
    ∀ edit ∈ utf8Edits e, edit.id ∈ Entries.keys validCharsetInfo.messages := by
  have hid : "fixToUtf8" ∈ Entries.keys validCharsetInfo.messages := by decide
  unfold utf8Edits
  split
  · exact List.forall_mem_singleton.2 hid
  · split
    · simp
    · split
      · simp
      · exact List.forall_mem_singleton.2 hid

theorem declaring_validCharset : validCharset.Declaring := by
  rintro head options found h d hd
  obtain rfl := Except.ok.inj h
  obtain ⟨⟨i, e⟩, -, hreport⟩ := List.mem_flatMap.1 hd
  dsimp only at hreport
  split at hreport
  · exact declared_of_problems Charset.code_of_check (fun _ => id_of_utf8Edits e) d hreport
  · rw [List.mem_singleton.1 hreport]
    exact declared_report (by decide) _

theorem id_of_droppable :
    ∀ row ∈ droppable, row.2.1 ∈ Entries.keys validViewportInfo.messages := by
  decide

theorem id_of_viewportEdits (e : Element) (code : String) :
    ∀ edit ∈ viewportEdits e code, edit.id ∈ Entries.keys validViewportInfo.messages := by
  unfold viewportEdits
  split
  · rename_i hfind
    exact List.forall_mem_singleton.2 (id_of_droppable _ (List.mem_of_find?_eq_some hfind))
  · simp

theorem declaring_validViewport : validViewport.Declaring := by
  rintro head options found h d hd
  obtain rfl := Except.ok.inj h
  rcases List.mem_append.1 hd with hreports | hcount
  · obtain ⟨⟨i, e⟩, -, hreport⟩ := List.mem_flatMap.1 hreports
    dsimp only at hreport
    split at hreport
    · exact declared_of_problems Viewport.code_of_check
        (fun p => id_of_viewportEdits e p.code) d hreport
    · rw [List.mem_singleton.1 hreport]
      exact declared_report (mem_sortCodes.2 (by decide)) _
  · split at hcount
    · rw [List.mem_singleton.1 hcount]
      exact declared_report (mem_sortCodes.2 (by decide)) _
    · cases hcount

theorem declared_reportTrial {options : Options} {e : Element} {found : List Diagnostic}
    (h : reportTrial options e = .ok found) :
    ∀ d ∈ found, d.Declared noInvalidOriginTrialInfo := by
  have hid : "removeTag" ∈ Entries.keys noInvalidOriginTrialInfo.messages := by decide
  rcases reportTrial_cases h with ⟨-, rfl⟩ | ⟨-, rfl⟩ | ⟨content, verdict, -, -, hreport⟩
  · exact List.forall_mem_singleton.2
      (declared_report_removal (mem_sortCodes.2 (by decide)) hid _ _ _ _)
  · simp
  · rcases hreport with ⟨-, rfl⟩ | ⟨code, hcode, rfl⟩
    · simp
    · refine List.forall_mem_singleton.2 ⟨Trial.Verdict.code_of_code? hcode, ?_⟩
      intro edit hedit
      dsimp only [RuleInfo.report, RuleInfo.reportWith] at hedit
      split at hedit
      · rw [List.mem_singleton.1 hedit]
        exact hid
      · cases hedit

-- What holds of the reports on every element holds of all reports.
theorem forall_mem_reportTrials {options : Options} {P : Diagnostic → Prop}
    (hreport : ∀ e reports, reportTrial options e = .ok reports → ∀ d ∈ reports, P d)
    {elements : List Element} {found : List Diagnostic}
    (h : reportTrials options elements = .ok found) : ∀ d ∈ found, P d := by
  obtain ⟨groups, hgroups, rfl⟩ := exists_groups_of_reportTrials h
  clear h
  induction hgroups with
  | nil => simp
  | cons hfirst _ ih =>
    rw [List.flatten_cons]
    exact List.forall_mem_append.2 ⟨hreport _ _ hfirst, ih⟩

theorem declaring_noInvalidOriginTrial : noInvalidOriginTrial.Declaring := by
  rintro head options found h
  exact forall_mem_reportTrials (fun _ _ => declared_reportTrial) h

end Rules

/-! ## Linters -/

theorem Catalog.declaring_builtin : ∀ rule ∈ Catalog.builtin.all, rule.Declaring := by
  intro rule hrule
  have hmem := Catalog.mem_of_mem_all hrule
  simp only [List.mem_cons, List.not_mem_nil, or_false] at hmem
  rcases hmem with rfl | rfl | rfl | rfl | rfl | rfl | rfl | rfl | rfl | rfl | rfl | rfl | rfl
  · exact Rules.declaring_headElementOrder
  · exact Rules.declaring_noDefaultStyle
  · exact Rules.declaring_noDuplicateBase
  · exact Rules.declaring_noDuplicateTitle
  · exact Rules.declaring_noInvalidHeadElements
  · exact Rules.declaring_noInvalidHttpEquiv
  · exact Rules.declaring_noInvalidOriginTrial
  · exact Rules.declaring_noMetaCsp
  · exact Rules.declaring_noUnnecessaryPreload
  · exact Rules.declaring_requireViewport
  · exact Rules.declaring_requireTitle
  · exact Rules.declaring_validCharset
  · exact Rules.declaring_validViewport

namespace Linter

-- Every report is one that an active rule makes, with the severity of that rule.
theorem exists_check_of_reports {head : Head} {options : Options}
    {active : List (Rule × Severity)} {found : List Diagnostic}
    (h : reports head options active = .ok found) :
    ∀ d ∈ found, ∃ rule severity, (rule, severity) ∈ active ∧
      ∃ own, rule.check head options = .ok own ∧ ∃ d' ∈ own, d = d'.rated severity := by
  induction active generalizing found with
  | nil =>
    obtain rfl := Except.ok.inj h
    simp
  | cons first rest ih =>
    obtain ⟨rule, severity⟩ := first
    obtain ⟨own, more, hown, hmore, rfl⟩ := reports_cons_eq_ok_iff.1 h
    intro d hd
    rcases List.mem_append.1 hd with hfirst | hrest
    · obtain ⟨d', hd', rfl⟩ := List.mem_map.1 hfirst
      exact ⟨rule, severity, List.mem_cons_self .., own, hown, d', hd', rfl⟩
    · obtain ⟨other, otherSeverity, hother, hreport⟩ := ih hmore d hrest
      exact ⟨other, otherSeverity, List.mem_cons_of_mem _ hother, hreport⟩

theorem lintHeadFrom_eq_ok_iff {linter : Linter} {source : OptionSource} {head : Element}
    {found : List Diagnostic} :
    linter.lintHeadFrom source head = .ok found ↔
      ∃ options, source.options = .ok options ∧ linter.lintHead options head = .ok found := by
  unfold lintHeadFrom
  cases source.options with
  | error failure => simp
  | ok options => cases hlint : linter.lintHead options head <;> simp [hlint]

theorem pairwise_inOrder (found : List Diagnostic) :
    (inOrder found).Pairwise fun a b => a.position ≤ b.position := by
  have hsorted : (inOrder found).Pairwise fun a b => decide (a.position ≤ b.position) = true := by
    refine List.pairwise_mergeSort (fun a b c hab hbc => ?_) (fun a b => ?_) found
    · rw [decide_eq_true_eq] at hab hbc ⊢
      exact Int.le_trans hab hbc
    · rw [Bool.or_eq_true, decide_eq_true_eq, decide_eq_true_eq]
      exact Int.le_total a.position b.position
  exact hsorted.imp of_decide_eq_true

-- The rules that are active are those with a severity in the linter other than off.
theorem active_eq_of_make {catalog : Catalog} {config preset : Json}
    {overrides : List (Json × Json)} {linter : Linter}
    (h : make catalog config preset overrides = .ok linter) :
    linter.active = activeRules catalog linter.severities.rules := by
  simp only [make, bind, Except.bind] at h
  split at h
  · cases h
  · split at h
    · cases h
    · obtain rfl := Except.ok.inj h
      rfl

/-- A report that keeps to what an active rule declares: its code and the messages of its edits are
those of the rule, its severity is the one that the linter has for the rule, and a replacement of a
value says of which attribute. -/
structure Vouches (linter : Linter) (rule : Rule) (severity : Severity) (d : Diagnostic) :
    Prop where
  active : (rule, severity) ∈ linter.active
  signed : d.rule = rule.name
  declared : d.Declared rule.toRuleInfo
  severity_eq : Entries.get? rule.name linter.severities.rules = some severity
  rated : d.severity = some severity.name
  not_off : severity = .error ∨ severity = .warn
  attrs : ∀ edit ∈ d.edits, edit.action = .replaceValue → edit.attr.isSome = true

/-- The reports on a head keep to what the rules declare and stand in source order. -/
theorem vouched_lintHeadFrom {config preset : Json} {overrides : List (Json × Json)}
    {linter : Linter} (hmake : make .builtin config preset overrides = .ok linter)
    {source : OptionSource} {head : Element} {found : List Diagnostic}
    (h : linter.lintHeadFrom source head = .ok found) :
    (∀ d ∈ found, ∃ rule ∈ Catalog.builtin.all, ∃ severity, linter.Vouches rule severity d) ∧
      found.Pairwise fun a b => a.position ≤ b.position := by
  obtain ⟨options, -, hlint⟩ := lintHeadFrom_eq_ok_iff.1 h
  obtain ⟨unsorted, hreports, rfl⟩ := lintHead_eq_ok_iff.1 hlint
  refine ⟨fun d hd => ?_, pairwise_inOrder unsorted⟩
  obtain ⟨rule, severity, hactive, own, hown, d', hd', rfl⟩ :=
    exists_check_of_reports hreports d (List.mem_mergeSort.1 hd)
  have hmem := active_eq_of_make hmake ▸ hactive
  obtain ⟨hrule, hseverity, hoff⟩ := mem_activeRules_iff.1 hmem
  refine ⟨rule, hrule, severity, hactive, Catalog.signed_builtin rule hrule _ _ own hown d' hd',
    ?_, hseverity, rfl, ?_, ?_⟩
  · obtain ⟨hcode, hmessages⟩ := Catalog.declaring_builtin rule hrule _ _ own hown d' hd'
    exact ⟨hcode, hmessages⟩
  · cases severity with
    | error => exact .inl rfl
    | warn => exact .inr rfl
    | off => exact absurd rfl hoff
  · intro edit hedit haction
    obtain ⟨e, -, hconcerns⟩ := Catalog.grounded_builtin rule hrule _ _ own hown d' hd'
    have hedit := hconcerns.edits edit hedit
    rw [Edit.Concerns, haction] at hedit
    obtain ⟨attr, hattr, -⟩ := hedit
    rw [hattr]
    rfl

/-- A head whose encoding is to be changed, and which has no title. -/
def latinHead : Element :=
  { tag := "head"
    children := [{ tag := "meta", attrs := [("charset", some "latin1")]
                   span := some ⟨6, 27, 1, 6⟩ }] }

theorem vouched_latinHead :
    ∃ linter found d edit rule severity,
      make .builtin (.obj []) (.str "all") [] = .ok linter ∧
      linter.lintHeadFrom (.given { now := ⟨0⟩ }) latinHead = .ok found ∧
      d ∈ found ∧ edit ∈ d.edits ∧ edit.action = .replaceValue ∧
      rule.name = "valid-charset" ∧ linter.Vouches rule severity d ∧ edit.attr.isSome = true ∧
      found.Pairwise fun a b => a.position ≤ b.position := by
  obtain ⟨linter, hmake, hruns⟩ := exists_make_all (.obj [])
  have hcharset : Rules.validCharset ∈ Catalog.builtin.all :=
    List.mem_mergeSort.2 (List.mem_of_getElem? (i := 11) rfl)
  have htrial : Rules.noInvalidOriginTrial.check (Head.of latinHead) { now := ⟨0⟩ } = .ok [] :=
    rfl
  obtain ⟨found, hfound⟩ := exists_lintHead_of_make hmake fun _ => ⟨_, htrial⟩
  obtain ⟨severity, hactive⟩ := hruns _ hcharset
  obtain ⟨own, hown, hamong⟩ := among_lintHead hmake hfound hactive
  have hreplaces : ((Rules.validCharset.check (Head.of latinHead) { now := ⟨0⟩ }).toOption.any
      fun own => own.any fun d => d.edits.any fun edit => edit.action = .replaceValue) = true := by
    decide +kernel
  rw [hown] at hreplaces
  obtain ⟨d, hd, hedits⟩ := List.any_eq_true.1 hreplaces
  obtain ⟨edit, hedit, haction⟩ := List.any_eq_true.1 hedits
  have hmem : d.rated severity ∈ Rules.validCharset.among found := by
    rw [hamong]
    exact List.mem_map_of_mem (List.mem_mergeSort.2 hd)
  obtain ⟨hreported, hname⟩ := List.mem_filter.1 hmem
  have hlint : linter.lintHeadFrom (.given { now := ⟨0⟩ }) latinHead = .ok found :=
    lintHeadFrom_eq_ok_iff.2 ⟨_, rfl, hfound⟩
  obtain ⟨hvouched, hordered⟩ := vouched_lintHeadFrom hmake hlint
  obtain ⟨rule, -, severity', hrule⟩ := hvouched _ hreported
  have haction := of_decide_eq_true haction
  exact ⟨linter, found, _, edit, rule, severity', hmake, hlint, hreported, hedit, haction,
    hrule.signed.symm.trans (eq_of_beq hname), hrule, hrule.attrs edit hedit haction, hordered⟩

end Linter

end HeadLint
