import HeadLint.Proofs.Lint.Independence
import HeadLint.Proofs.Trial.Overflow

/-!
Edits that are made without asking.  They only remove origin-trial elements that can do nothing any
more, each such element is removed by one of them, and the origin of the site has no say in it.
-/

namespace HeadLint

open Text

/-! ## Elements that can do nothing -/

/-- A content that is of no use at a given time: it is blank, it is not a token, or the token has
expired. -/
def Trial.Useless (now : Instant) (content : List Char) : Prop :=
  isBlankText content = true ∨ (∃ fault, decode content = .error (.fault fault)) ∨
    ∃ token, decode content = .ok token ∧ token.expiry.micros < now.micros

/-- An origin-trial element without a content, or with one that is of no use. -/
def Element.DeadTrial (now : Instant) (e : Element) : Prop :=
  e.isTrial = true ∧ (e.hasAttribute "content" = false ∨
    ∃ content, e.attribute? "content" = some content ∧ Trial.Useless now content.toList)

namespace Trial

-- A token of another origin may still be of use elsewhere.
theorem removable_judgeOrigin {token : Token} {expected code : String}
    (h : (judgeOrigin token expected).code? = some code) :
    Rules.removableCodes.contains code = false := by
  unfold judgeOrigin at h
  split at h
  · cases h
  · split at h
    · split at h
      · cases h
      · obtain rfl := Option.some.inj h
        decide
    · obtain rfl := Option.some.inj h
      decide

theorem removable_judgeSite {token : Token} {expected : Json} {code : String}
    (h : (judgeSite token expected).code? = some code) :
    Rules.removableCodes.contains code = false := by
  unfold judgeSite at h
  split at h
  · cases h
  · split at h
    · exact removable_judgeOrigin h
    · obtain rfl := Option.some.inj h
      decide

/-- A text is of no use exactly when the verdict on it is one that ends in the removal of its
element. -/
theorem judge_removable_iff {content : String} {expected : Json} {now : Instant}
    {verdict : Verdict} (h : judge (some content) expected now = .ok verdict) :
    (∃ code, verdict.code? = some code ∧ Rules.removableCodes.contains code = true) ↔
      Useless now content.toList := by
  unfold judge at h
  dsimp only at h
  by_cases hblank : isBlankText content.toList = true
  · rw [if_pos hblank] at h
    obtain rfl := Except.ok.inj h
    exact iff_of_true ⟨_, rfl, by decide⟩ (.inl hblank)
  rw [if_neg hblank] at h
  cases hdecode : decode content.toList with
  | error failure =>
    rw [hdecode] at h
    cases failure with
    | fault fault =>
      obtain rfl := Except.ok.inj h
      exact iff_of_true ⟨_, rfl, by decide⟩ (.inr (.inl ⟨fault, hdecode⟩))
    | tooManyDigits overflow => cases h
  | ok token =>
    rw [hdecode] at h
    obtain rfl := Except.ok.inj h
    rw [judgeToken]
    by_cases hexpired : token.expiry.micros < now.micros
    · rw [if_pos hexpired]
      exact iff_of_true ⟨_, rfl, by decide⟩ (.inr (.inr ⟨token, hdecode, hexpired⟩))
    · rw [if_neg hexpired]
      refine iff_of_false ?_ ?_
      · rintro ⟨code, hcode, hremovable⟩
        rw [removable_judgeSite hcode] at hremovable
        cases hremovable
      · rintro (h | ⟨fault, hfault⟩ | ⟨token', htoken, hbefore⟩)
        · exact hblank h
        · rw [hdecode] at hfault
          cases hfault
        · rw [hdecode] at htoken
          obtain rfl := Except.ok.inj htoken
          exact hexpired hbefore

-- The origin of the site is looked at last.
theorem judge_of_useless {content : String} {now : Instant} (h : Useless now content.toList)
    (expected expected' : Json) :
    judge (some content) expected now = judge (some content) expected' now := by
  unfold judge
  dsimp only
  rcases h with hblank | ⟨fault, hfault⟩ | ⟨token, htoken, hexpired⟩
  · rw [if_pos hblank, if_pos hblank]
  · rw [hfault]
  · rw [htoken]
    simp only [judgeToken, if_pos hexpired]

end Trial

/-! ## Reports on one element -/

theorem exists_mem_of_forall₂ {α β : Type} {R : α → β → Prop} {l : List α} {m : List β}
    (h : List.Forall₂ R l m) {b : β} (hb : b ∈ m) : ∃ a ∈ l, R a b := by
  induction h with
  | nil => cases hb
  | @cons a _ l m hab _ ih =>
    rcases List.mem_cons.1 hb with rfl | hmem
    · exact ⟨a, List.mem_cons_self .., hab⟩
    · obtain ⟨a', ha', hr⟩ := ih hmem
      exact ⟨a', List.mem_cons_of_mem _ ha', hr⟩

namespace Rules

/-- The reports on an origin-trial element: there is one, with one automatic removal, when the
element can do nothing; and otherwise no report has an edit. -/
structure TrialReports (now : Instant) (e : Element) (reports : List Diagnostic) : Prop where
  concerns : ∀ d ∈ reports, d.Concerns e
  dead : e.DeadTrial now → ∃ d edit, reports = [d] ∧ d.edits = [edit] ∧
    edit.automatic = true ∧ edit.action = .removeElement ∧ edit.span = e.span
  live : ¬ e.DeadTrial now → ∀ d ∈ reports, d.edits = []

theorem not_deadTrial_of_notText {now : Instant} {e : Element}
    (h : e.findAttribute? "content" = some none) : ¬ e.DeadTrial now := by
  rintro ⟨-, hnone | ⟨content, hcontent, -⟩⟩
  · simp [Element.hasAttribute, h] at hnone
  · simp [Element.attribute?, h] at hcontent

theorem deadTrial_iff_useless {now : Instant} {e : Element} {content : String}
    (htrial : e.isTrial = true) (h : e.findAttribute? "content" = some (some content)) :
    e.DeadTrial now ↔ Trial.Useless now content.toList := by
  simp [Element.DeadTrial, htrial, Element.hasAttribute, Element.attribute?, h]

theorem trialReports_of_reportTrial {options : Options} {e : Element} {reports : List Diagnostic}
    (htrial : e.isTrial = true) (h : reportTrial options e = .ok reports) :
    TrialReports options.now e reports := by
  have hconcerns := concerns_reportTrial h
  rcases reportTrial_cases h with
    ⟨hnone, rfl⟩ | ⟨hnotText, rfl⟩ | ⟨content, verdict, hcontent, hjudge, hcases⟩
  · have hdead : e.DeadTrial options.now := ⟨htrial, .inl (by simp [Element.hasAttribute, hnone])⟩
    exact ⟨hconcerns, fun _ => ⟨_, trialRemoval e, rfl, rfl, rfl, rfl, rfl⟩,
      fun hlive => absurd hdead hlive⟩
  · exact ⟨hconcerns, fun hdead => absurd hdead (not_deadTrial_of_notText hnotText), by simp⟩
  · have hiff :=
      (deadTrial_iff_useless htrial hcontent).trans (Trial.judge_removable_iff hjudge).symm
    rcases hcases with ⟨hcode, rfl⟩ | ⟨code, hcode, rfl⟩
    · refine ⟨hconcerns, fun hdead => ?_, by simp⟩
      obtain ⟨code, hcode', -⟩ := hiff.1 hdead
      rw [hcode] at hcode'
      cases hcode'
    · -- The code decides whether the removal is among the edits.
      have hcontains : e.DeadTrial options.now ↔ removableCodes.contains code = true := by
        rw [hiff, hcode]
        simp
      by_cases hremovable : removableCodes.contains code = true
      · rw [if_pos hremovable] at hconcerns ⊢
        exact ⟨hconcerns, fun _ => ⟨_, trialRemoval e, rfl, rfl, rfl, rfl, rfl⟩,
          fun hlive => absurd (hcontains.2 hremovable) hlive⟩
      · rw [if_neg hremovable] at hconcerns ⊢
        exact ⟨hconcerns, fun hdead => absurd (hcontains.1 hdead) hremovable,
          fun _ => List.forall_mem_singleton.2 rfl⟩

theorem TrialReports.rated {now : Instant} {e : Element} {reports : List Diagnostic}
    (h : TrialReports now e reports) (severity : Severity) :
    TrialReports now e (reports.map (Diagnostic.rated severity)) := by
  refine ⟨?_, fun hdead => ?_, fun hlive => ?_⟩
  · intro d hd
    obtain ⟨d', hd', rfl⟩ := List.mem_map.1 hd
    have hconcerns := h.concerns d' hd'
    exact ⟨hconcerns.tag, hconcerns.span, hconcerns.edits⟩
  · obtain ⟨d, edit, rfl, hedits, hedit⟩ := h.dead hdead
    exact ⟨d.rated severity, edit, rfl, hedits, hedit⟩
  · intro d hd
    obtain ⟨d', hd', rfl⟩ := List.mem_map.1 hd
    exact h.live hlive d' hd'

-- An element that can do nothing is removed whatever the origin of the site.
theorem reportTrial_of_deadTrial {options : Options} {e : Element} (h : e.DeadTrial options.now)
    (expected : Option String) :
    reportTrial { options with expectedOrigin := expected } e = reportTrial options e := by
  obtain ⟨-, hnone | ⟨content, hcontent, huseless⟩⟩ := h
  · rw [Element.hasAttribute, Option.isSome_eq_false_iff, Option.isNone_iff_eq_none] at hnone
    simp only [reportTrial, hnone]
  · rw [Element.attribute?, Option.join_eq_some_iff] at hcontent
    simp only [reportTrial, hcontent]
    rw [Trial.judge_of_useless huseless (.ofText? expected) (.ofText? options.expectedOrigin)]

theorem TrialReports.filter_fix {now : Instant} {e : Element} {reports : List Diagnostic}
    (h : TrialReports now e reports) (hlive : ¬ e.DeadTrial now) :
    reports.filter (·.fix?.isSome) = [] := by
  rw [List.filter_eq_nil_iff]
  intro d hd
  simp [Diagnostic.fix?, h.live hlive d hd]

theorem filter_fix_reportTrials {options : Options} {expected : Option String}
    {elements : List Element} {groups groups' : List (List Diagnostic)}
    (htrials : ∀ e ∈ elements, e.isTrial = true)
    (h : List.Forall₂ (fun e reports => reportTrial options e = .ok reports) elements groups)
    (h' : List.Forall₂ (fun e reports =>
      reportTrial { options with expectedOrigin := expected } e = .ok reports) elements groups') :
    groups'.flatten.filter (·.fix?.isSome) = groups.flatten.filter (·.fix?.isSome) := by
  induction h generalizing groups' with
  | nil =>
    cases h'
    rfl
  | @cons e reports rest groups hfirst _ ih =>
    cases h' with
    | @cons _ reports' _ groups' hfirst' hrest' =>
      have htrial := htrials e (List.mem_cons_self ..)
      have hsame : reports'.filter (·.fix?.isSome) = reports.filter (·.fix?.isSome) := by
        by_cases hdead : e.DeadTrial options.now
        · rw [reportTrial_of_deadTrial hdead expected, hfirst] at hfirst'
          rw [Except.ok.inj hfirst']
        · rw [(trialReports_of_reportTrial htrial hfirst).filter_fix hdead]
          exact (trialReports_of_reportTrial htrial hfirst').filter_fix hdead
      rw [List.flatten_cons, List.flatten_cons, List.filter_append, List.filter_append, hsame,
        ih (fun e' he' => htrials e' (List.mem_cons_of_mem _ he')) hrest']

-- The elements that the rule looks at, and its reports on each of them.
theorem exists_groups_of_check {head : Head} {options : Options} {own : List Diagnostic}
    (h : noInvalidOriginTrial.check head options = .ok own) :
    ∃ groups, own = groups.flatten ∧
      List.Forall₂ (fun e reports => reportTrial options e = .ok reports)
        (head.children.filter Element.isTrial) groups := by
  obtain ⟨groups, hgroups, rfl⟩ := exists_groups_of_reportTrials h
  rw [Head.map_snd_each] at hgroups
  exact ⟨groups, rfl, hgroups⟩

end Rules

/-! ## Linters -/

/-- The edits that may be made without asking, report by report. -/
def automaticEdits (found : List Diagnostic) : List Edit :=
  found.flatMap fun d => d.edits.filter (·.automatic)

theorem automaticEdits_filter_fix (found : List Diagnostic) :
    automaticEdits (found.filter (·.fix?.isSome)) = automaticEdits found := by
  induction found with
  | nil => rfl
  | cons d rest ih =>
    rw [List.filter_cons]
    split
    · rw [automaticEdits, List.flatMap_cons, ← automaticEdits, ih]
      rfl
    · rename_i hnone
      have hedits : d.edits.filter (·.automatic) = [] := by
        simpa [Diagnostic.fix?, List.filter_eq_nil_iff] using hnone
      rw [ih, automaticEdits, automaticEdits, List.flatMap_cons, hedits, List.nil_append]

namespace Linter

-- The rule on tokens has a result for one origin when it has one for another.
theorem exists_check_iff (head : Head) (options : Options) (expected : Option String) :
    (∃ own, Rules.noInvalidOriginTrial.check head { options with expectedOrigin := expected } =
      .ok own) ↔ ∃ own, Rules.noInvalidOriginTrial.check head options = .ok own := by
  have hiff : ∀ options : Options,
      (∃ own, Rules.noInvalidOriginTrial.check head options = .ok own) ↔
        ∀ e ∈ (head.each Element.isTrial).map (·.2), ∃ own, Rules.reportTrial options e = .ok own :=
    fun options => Trial.reportTrials_handled_iff options _
  rw [hiff, hiff]
  simp only [Trial.reportTrial_handled_iff]

theorem filter_fix_of_among {rule : Rule} {severity : Severity} {found own : List Diagnostic}
    (h : rule.among found = (inOrder own).map (Diagnostic.rated severity)) :
    (rule.among found).filter (·.fix?.isSome) =
      (inOrder (own.filter (·.fix?.isSome))).map (Diagnostic.rated severity) := by
  rw [h, List.filter_map, ← filter_inOrder]
  rfl

section Made

variable {config preset : Json} {overrides : List (Json × Json)} {linter : Linter}
  (hmake : make .builtin config preset overrides = .ok linter)
include hmake

-- Reports with an automatic edit come from the rule on tokens.
theorem rule_of_automatic {options : Options} {head : Element} {found : List Diagnostic}
    (h : linter.lintHead options head = .ok found) {d : Diagnostic} (hd : d ∈ found) {edit : Edit}
    (hedit : edit ∈ d.edits) (hautomatic : edit.automatic = true) :
    d.rule = Rules.noInvalidOriginTrial.name ∧ linter.Runs Rules.noInvalidOriginTrial := by
  obtain ⟨⟨rule, severity⟩, hactive, hname⟩ := exists_rule_of_lintHead hmake h d hd
  rcases Catalog.advisory_builtin rule (mem_all_of_make hmake _ hactive) with hadvisory | rfl
  · exfalso
    obtain ⟨own, hown, hamong⟩ := among_lintHead hmake h hactive
    have hmem : d ∈ rule.among found := List.mem_filter.2 ⟨hd, beq_iff_eq.2 hname⟩
    rw [hamong] at hmem
    obtain ⟨d', hd', rfl⟩ := List.mem_map.1 hmem
    have hasks := (hadvisory _ _ own hown d' (List.mem_mergeSort.1 hd')).asks edit hedit
    rw [hautomatic] at hasks
    cases hasks
  · exact ⟨hname, severity, hactive⟩

theorem rule_of_fix {options : Options} {head : Element} {found : List Diagnostic}
    (h : linter.lintHead options head = .ok found) {d : Diagnostic} (hd : d ∈ found)
    (hfix : d.fix?.isSome = true) :
    d.rule = Rules.noInvalidOriginTrial.name ∧ linter.Runs Rules.noInvalidOriginTrial := by
  obtain ⟨edit, hedit⟩ := Option.isSome_iff_exists.1 hfix
  exact rule_of_automatic hmake h hd (List.mem_of_find?_eq_some hedit) (List.find?_some hedit)

theorem filter_fix_eq_among {options : Options} {head : Element} {found : List Diagnostic}
    (h : linter.lintHead options head = .ok found) :
    found.filter (·.fix?.isSome) =
      (Rules.noInvalidOriginTrial.among found).filter (·.fix?.isSome) := by
  rw [Rule.among, List.filter_filter]
  apply List.filter_congr
  intro d hd
  cases hfix : d.fix?.isSome with
  | false => rfl
  | true => rw [(rule_of_fix hmake h hd hfix).1, beq_self_eq_true, Bool.and_self]

theorem filter_fix_of_not_runs {options : Options} {head : Element} {found : List Diagnostic}
    (h : linter.lintHead options head = .ok found)
    (hruns : ¬ linter.Runs Rules.noInvalidOriginTrial) :
    found.filter (·.fix?.isSome) = [] := by
  rw [List.filter_eq_nil_iff]
  intro d hd hfix
  exact hruns (rule_of_fix hmake h hd hfix).2

-- The reports of the rule on tokens, element by element.
theorem exists_groups_of_lintHead {options : Options} {head : Element} {found : List Diagnostic}
    (h : linter.lintHead options head = .ok found)
    (hruns : linter.Runs Rules.noInvalidOriginTrial) :
    ∃ groups, (Rules.noInvalidOriginTrial.among found).Perm groups.flatten ∧
      List.Forall₂ (Rules.TrialReports options.now) (head.children.filter Element.isTrial)
        groups := by
  obtain ⟨severity, hactive⟩ := hruns
  obtain ⟨own, hown, hamong⟩ := among_lintHead hmake h hactive
  obtain ⟨groups, rfl, hgroups⟩ := Rules.exists_groups_of_check hown
  refine ⟨groups.map (List.map (Diagnostic.rated severity)), ?_, ?_⟩
  · rw [hamong, ← List.map_flatten]
    exact (List.mergeSort_perm _ _).map _
  · rw [List.forall₂_map_right_iff]
    have htrials : ∀ e ∈ head.children.filter Element.isTrial, e.isTrial = true :=
      fun e he => (List.mem_filter.1 he).2
    refine ((List.forall₂_and_left _ _).2 ⟨htrials, hgroups⟩).imp ?_
    rintro e reports ⟨htrial, hreport⟩
    exact (Rules.trialReports_of_reportTrial htrial hreport).rated severity

theorem exists_deadTrial_of_automatic {options : Options} {head : Element}
    {found : List Diagnostic} (h : linter.lintHead options head = .ok found) {d : Diagnostic}
    (hd : d ∈ found) {edit : Edit} (hedit : edit ∈ d.edits) (hautomatic : edit.automatic = true) :
    edit.action = .removeElement ∧ d.rule = "no-invalid-origin-trial" ∧
      ∃ e ∈ head.children, e.DeadTrial options.now ∧ edit.span = e.span := by
  obtain ⟨hrule, hruns⟩ := rule_of_automatic hmake h hd hedit hautomatic
  obtain ⟨groups, hperm, hgroups⟩ := exists_groups_of_lintHead hmake h hruns
  have hmem : d ∈ groups.flatten :=
    hperm.mem_iff.1 (List.mem_filter.2 ⟨hd, beq_iff_eq.2 hrule⟩)
  obtain ⟨reports, hreports, hdreports⟩ := List.mem_flatten.1 hmem
  obtain ⟨e, he, htrial⟩ := exists_mem_of_forall₂ hgroups hreports
  have hdead : e.DeadTrial options.now := by
    by_contra hlive
    rw [htrial.live hlive d hdreports] at hedit
    cases hedit
  obtain ⟨d', edit', hsingle, hedits, -, haction, hspan⟩ := htrial.dead hdead
  obtain rfl : d = d' := List.mem_singleton.1 (hsingle ▸ hdreports)
  obtain rfl : edit = edit' := List.mem_singleton.1 (hedits ▸ hedit)
  exact ⟨haction, hrule, e, List.mem_of_mem_filter he, hdead, hspan⟩

theorem automaticEdits_of_expectedOrigin {options : Options} {head : Element}
    {found : List Diagnostic} (h : linter.lintHead options head = .ok found)
    (expected : Option String) :
    ∃ found', linter.lintHead { options with expectedOrigin := expected } head = .ok found' ∧
      automaticEdits found' = automaticEdits found := by
  obtain ⟨found', h'⟩ : ∃ found',
      linter.lintHead { options with expectedOrigin := expected } head = .ok found' := by
    refine exists_lintHead_of_make hmake fun hruns => ?_
    obtain ⟨severity, hactive⟩ := hruns
    obtain ⟨own, hown, -⟩ := among_lintHead hmake h hactive
    exact (exists_check_iff _ _ _).2 ⟨own, hown⟩
  refine ⟨found', h', ?_⟩
  rw [← automaticEdits_filter_fix found', ← automaticEdits_filter_fix found]
  congr 1
  by_cases hruns : linter.Runs Rules.noInvalidOriginTrial
  · obtain ⟨severity, hactive⟩ := hruns
    obtain ⟨own, hown, hamong⟩ := among_lintHead hmake h hactive
    obtain ⟨own', hown', hamong'⟩ := among_lintHead hmake h' hactive
    obtain ⟨groups, rfl, hgroups⟩ := Rules.exists_groups_of_check hown
    obtain ⟨groups', rfl, hgroups'⟩ := Rules.exists_groups_of_check hown'
    have hsame := Rules.filter_fix_reportTrials (fun e he => (List.mem_filter.1 he).2) hgroups
      hgroups'
    rw [filter_fix_eq_among hmake h, filter_fix_eq_among hmake h', filter_fix_of_among hamong,
      filter_fix_of_among hamong', hsame]
  · rw [filter_fix_of_not_runs hmake h hruns, filter_fix_of_not_runs hmake h' hruns]

end Made

/-- An edit that is made without asking removes an origin-trial element that can do nothing.  When
the rule on tokens is active, each such element has one report with one automatic edit, and no
other origin-trial element has any edit.  The automatic edits are the same for every origin of the
site. -/
theorem automatic_edits_deadTrial {config preset : Json} {overrides : List (Json × Json)}
    {linter : Linter} (hmake : make .builtin config preset overrides = .ok linter)
    {options : Options} {head : Element} {found : List Diagnostic}
    (h : linter.lintHead options head = .ok found) :
    (∀ d ∈ found, ∀ edit ∈ d.edits, edit.automatic = true →
      edit.action = .removeElement ∧ d.rule = "no-invalid-origin-trial" ∧
        ∃ e ∈ head.children, e.DeadTrial options.now ∧ edit.span = e.span) ∧
    (linter.Runs Rules.noInvalidOriginTrial → ∃ groups,
      (Rules.noInvalidOriginTrial.among found).Perm groups.flatten ∧
      List.Forall₂ (Rules.TrialReports options.now) (head.children.filter Element.isTrial)
        groups) ∧
    ∀ expected, ∃ found',
      linter.lintHead { options with expectedOrigin := expected } head = .ok found' ∧
        automaticEdits found' = automaticEdits found :=
  ⟨fun _ hd _ => exists_deadTrial_of_automatic hmake h hd, exists_groups_of_lintHead hmake h,
    automaticEdits_of_expectedOrigin hmake h⟩

/-- A token for one site, as it stands in the source. -/
def foreignToken : Trial.Token :=
  { version := 3, signature := List.replicate 64 0, origin := "https://a.b", expiry := ⟨9000000⟩ }

/-- Its text. -/
def foreignText : String :=
  "AwAAAAAAAAAAAAAAAAAAAAAAAAAAAAAAAAAAAAAAAAAAAAAAAAAAAAAAAAAAAAAAAAAAAAAAAAAAAAAAAAAAAAAAAAAj" ++
    "eyJvcmlnaW4iOiJodHRwczovL2EuYiIsImV4cGlyeSI6OX0="

theorem decode_foreignText : Trial.decode foreignText.toList = .ok foreignToken := by
  decide +kernel

/-- An origin-trial element without a content. -/
def missingTrial : Element :=
  { tag := "meta", attrs := [("http-equiv", some "origin-trial")], span := some ⟨6, 40, 1, 6⟩ }

/-- An origin-trial element whose content is not a token. -/
def undecodedTrial : Element :=
  { tag := "META", attrs := [("HTTP-EQUIV", some "Origin-Trial"), ("content", some "?")]
    span := some ⟨40, 86, 1, 40⟩ }

/-- An origin-trial element with a token that is valid for another site. -/
def foreignTrial : Element :=
  { tag := "meta", attrs := [("http-equiv", some "origin-trial"), ("content", some foreignText)]
    span := some ⟨86, 260, 1, 86⟩ }

/-- A head with the three. -/
def trialHead : Element :=
  { tag := "head", children := [missingTrial, undecodedTrial, foreignTrial] }

/-- The site, and a time before the token expires. -/
def siteOptions : Options :=
  { expectedOrigin := some "https://c.d", now := ⟨5000000⟩ }

theorem deadTrial_missingTrial : missingTrial.DeadTrial siteOptions.now :=
  ⟨by decide +kernel, .inl (by decide +kernel)⟩

theorem deadTrial_undecodedTrial : undecodedTrial.DeadTrial siteOptions.now :=
  ⟨by decide +kernel, .inr ⟨"?", by decide +kernel,
    .inr (.inl ⟨.notBase64 .foreignCharacter, by decide +kernel⟩)⟩⟩

theorem not_deadTrial_foreignTrial : ¬ foreignTrial.DeadTrial siteOptions.now := by
  have hcontent : foreignTrial.findAttribute? "content" = some (some foreignText) := by
    decide +kernel
  rw [Rules.deadTrial_iff_useless (by decide +kernel) hcontent]
  rintro (hblank | ⟨fault, hfault⟩ | ⟨token, htoken, hexpired⟩)
  · exact absurd hblank (by decide +kernel)
  · rw [decode_foreignText] at hfault
    cases hfault
  · rw [decode_foreignText] at htoken
    obtain rfl := Except.ok.inj htoken
    exact absurd hexpired (by decide)

theorem automatic_edits_trialHead :
    ∃ linter found missing undecoded foreign, make .builtin (.obj []) (.str "all") [] = .ok linter ∧
      linter.lintHead siteOptions trialHead = .ok found ∧
      (Rules.noInvalidOriginTrial.among found).Perm (missing ++ (undecoded ++ foreign)) ∧
      (∃ d edit, missing = [d] ∧ d.edits = [edit] ∧ edit.automatic = true ∧
        edit.span = some ⟨6, 40, 1, 6⟩) ∧
      (∃ d edit, undecoded = [d] ∧ d.edits = [edit] ∧ edit.automatic = true ∧
        edit.span = some ⟨40, 86, 1, 40⟩) ∧
      (∀ d ∈ foreign, d.edits = []) ∧
      (∀ d ∈ found, ∀ edit ∈ d.edits, edit.automatic = true → edit.action = .removeElement) ∧
      ∃ found', linter.lintHead { siteOptions with expectedOrigin := none } trialHead =
        .ok found' ∧ automaticEdits found' = automaticEdits found := by
  obtain ⟨linter, hmake, hruns⟩ := exists_make_all (.obj [])
  have hrule : Rules.noInvalidOriginTrial ∈ Catalog.builtin.all :=
    List.mem_mergeSort.2 (List.mem_of_getElem? (i := 6) rfl)
  have hcheck : ∃ own, Rules.noInvalidOriginTrial.check (Head.of trialHead) siteOptions =
      .ok own := by
    have hsome : (Rules.noInvalidOriginTrial.check (Head.of trialHead)
        siteOptions).toOption.isSome = true := by
      decide +kernel
    cases hcheck : Rules.noInvalidOriginTrial.check (Head.of trialHead) siteOptions with
    | error overflow => rw [hcheck] at hsome; cases hsome
    | ok own => exact ⟨own, rfl⟩
  obtain ⟨found, hfound⟩ := exists_lintHead_of_make hmake fun _ => hcheck
  obtain ⟨hremoval, hgroups, horigin⟩ := automatic_edits_deadTrial hmake hfound
  obtain ⟨groups, hperm, hreports⟩ := hgroups (hruns _ hrule)
  have htrials : trialHead.children.filter Element.isTrial =
      [missingTrial, undecodedTrial, foreignTrial] := by
    rfl
  rw [htrials] at hreports
  obtain _ | @⟨_, missing, _, _, hmissing, _ | @⟨_, undecoded, _, _, hundecoded,
    _ | @⟨_, foreign, _, _, hforeign, _ | _⟩⟩⟩ := hreports
  refine ⟨linter, found, missing, undecoded, foreign, hmake, hfound, by simpa using hperm,
    ?_, ?_, hforeign.live not_deadTrial_foreignTrial, ?_, horigin none⟩
  · obtain ⟨d, edit, hd, hedits, hautomatic, -, hspan⟩ := hmissing.dead deadTrial_missingTrial
    exact ⟨d, edit, hd, hedits, hautomatic, hspan⟩
  · obtain ⟨d, edit, hd, hedits, hautomatic, -, hspan⟩ := hundecoded.dead deadTrial_undecodedTrial
    exact ⟨d, edit, hd, hedits, hautomatic, hspan⟩
  · intro d hd edit hedit hautomatic
    exact (hremoval d hd edit hedit hautomatic).1

end Linter

end HeadLint
