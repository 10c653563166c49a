import HeadLint.Proofs.Lint.Provenance
import Mathlib.Data.List.Forall2
import Mathlib.Data.List.Nodup

/-!
Who made a report, and with what edits.  Every rule signs its reports with its own name, no two
rules of a catalog have the same name, and all rules but the one on origin-trial tokens only make
suggestions: none of their edits is automatic.
-/

namespace HeadLint

/-! ## Reports of one rule -/

/-- A report that bears the name of a rule, and none of whose edits is automatic. -/
structure Diagnostic.Advises (rule : RuleInfo) (d : Diagnostic) : Prop where
  signed : d.rule = rule.name
  asks : ∀ edit ∈ d.edits, edit.automatic = false

/-- A rule that puts its name to its reports. -/
def Rule.Signed (rule : Rule) : Prop :=
  ∀ head options found, rule.check head options = .ok found → ∀ d ∈ found, d.rule = rule.name

/-- A rule that puts its name to its reports and makes no automatic edit. -/
def Rule.Advisory (rule : Rule) : Prop :=
  ∀ head options found, rule.check head options = .ok found →
    ∀ d ∈ found, d.Advises rule.toRuleInfo

theorem Rule.Advisory.signed {rule : Rule} (h : rule.Advisory) : rule.Signed :=
  fun head options found hfound d hd => (h head options found hfound d hd).signed

namespace RuleInfo

variable (rule : RuleInfo) {e : Element}

theorem advises_reportWith (code message : String) (data : Entries Json) {edits : List Edit}
    (h : ∀ edit ∈ edits, edit.automatic = false) :
    (rule.reportWith code message e data edits).Advises rule :=
  ⟨rfl, h⟩

theorem advises_report (code : String) (data : Entries Json) {edits : List Edit}
    (h : ∀ edit ∈ edits, edit.automatic = false) : (rule.report code e data edits).Advises rule :=
  advises_reportWith rule code _ data h

-- A report that suggests the removal of its element.
theorem advises_report_removal (code : String) (data : Entries Json) (id : String)
    (includeLine : Bool) (removalData : Entries Json) :
    (rule.report code e data [rule.removeElement id e includeLine false removalData]).Advises
      rule :=
  advises_report rule code data (List.forall_mem_singleton.2 rfl)

-- Reports on the problems of an element.
theorem advises_of_problems {problems : List Problem} {edits : Problem → List Edit}
    (h : ∀ p, ∀ edit ∈ edits p, edit.automatic = false) :
    ∀ d ∈ problems.map fun p => rule.reportWith p.code p.message e p.data (edits p),
      d.Advises rule := by
  intro d hd
  obtain ⟨p, -, rfl⟩ := List.mem_map.1 hd
  exact advises_reportWith rule _ _ _ (h p)

end RuleInfo

/-! ## Rules -/

namespace Rules

open RuleInfo

theorem advisory_headElementOrder : headElementOrder.Advisory := by
  rintro head options found h d hd
  obtain rfl := Except.ok.inj h
  obtain ⟨v, -, hv⟩ := List.mem_flatMap.1 hd
  obtain ⟨e, -, rfl⟩ := List.mem_map.1 hv
  exact advises_report _ _ _ (by simp)

theorem advisory_noUnnecessaryPreload : noUnnecessaryPreload.Advisory := by
  rintro head options found h d hd
  obtain rfl := Except.ok.inj h
  obtain ⟨⟨i, e, p⟩, -, rfl⟩ := List.mem_map.1 hd
  exact advises_report_removal ..

theorem advisory_requireTitle : requireTitle.Advisory := by
  rintro head options found h d hd
  obtain rfl := Except.ok.inj h
  split at hd
  · rw [List.mem_singleton.1 hd]
    exact advises_report _ _ _ (by simp)
  · cases hd

theorem advisory_requireViewport : requireViewport.Advisory := by
  rintro head options found h d hd
  obtain rfl := Except.ok.inj h
  split at hd
  · rw [List.mem_singleton.1 hd]
    exact advises_report _ _ _ (by simp)
  · cases hd

theorem advisory_noDuplicateTitle : noDuplicateTitle.Advisory := by
  rintro head options found h d hd
  obtain rfl := Except.ok.inj h
  obtain ⟨e, -, rfl⟩ := List.mem_map.1 hd
  exact advises_report_removal ..

theorem advisory_noDuplicateBase : noDuplicateBase.Advisory := by
  rintro head options found h d hd
  obtain rfl := Except.ok.inj h
  obtain ⟨⟨e, i⟩, -, rfl⟩ := List.mem_map.1 hd
  exact advises_report_removal ..

theorem advisory_noInvalidHeadElements : noInvalidHeadElements.Advisory := by
  rintro head options found h d hd
  obtain rfl := Except.ok.inj h
  obtain ⟨⟨i, e⟩, -, rfl⟩ := List.mem_map.1 hd
  exact advises_report_removal ..

theorem advisory_noMetaCsp : noMetaCsp.Advisory := by
  rintro head options found h d hd
  obtain rfl := Except.ok.inj h
  obtain ⟨⟨i, e⟩, -, hreport⟩ := List.mem_flatMap.1 hd
  exact advises_of_problems _ (fun _ => List.forall_mem_singleton.2 rfl) d hreport

theorem advisory_noDefaultStyle : noDefaultStyle.Advisory := by
  rintro head options found h d hd
  obtain rfl := Except.ok.inj h
  obtain ⟨⟨i, e⟩, -, hreport⟩ := List.mem_flatMap.1 hd
  exact advises_of_problems _ (fun _ => List.forall_mem_singleton.2 rfl) d hreport

theorem advisory_noInvalidHttpEquiv : noInvalidHttpEquiv.Advisory := by
  rintro head options found h d hd
  obtain rfl := Except.ok.inj h
  obtain ⟨⟨i, e⟩, -, hreport⟩ := List.mem_flatMap.1 hd
  dsimp only at hreport
  split at hreport
  · cases hreport
  · refine advises_of_problems _ (fun _ => ?_) d hreport
    split
    · simp
    · exact List.forall_mem_singleton.2 rfl

theorem asks_utf8Edits (e : Element) : ∀ edit ∈ utf8Edits e, edit.automatic = false := by
  unfold utf8Edits
  split
  · exact List.forall_mem_singleton.2 rfl
  · split
    · simp
    · split
      · simp
      · exact List.forall_mem_singleton.2 rfl

theorem advisory_validCharset : validCharset.Advisory := by
  rintro head options found h d hd
  obtain rfl := Except.ok.inj h
  obtain ⟨⟨i, e⟩, -, hreport⟩ := List.mem_flatMap.1 hd
  dsimp only at hreport
  split at hreport
  · exact advises_of_problems _ (fun _ => asks_utf8Edits e) d hreport
  · rw [List.mem_singleton.1 hreport]
    exact advises_report _ _ _ (by simp)

theorem asks_viewportEdits (e : Element) (code : String) :
    ∀ edit ∈ viewportEdits e code, edit.automatic = false := by
  unfold viewportEdits
  split
  · exact List.forall_mem_singleton.2 rfl
  · simp

theorem advisory_validViewport : validViewport.Advisory := by
  rintro head options found h d hd
  obtain rfl := Except.ok.inj h
  rcases List.mem_append.1 hd with hreports | hcount
  · obtain ⟨⟨i, e⟩, -, hreport⟩ := List.mem_flatMap.1 hreports
    dsimp only at hreport
    split at hreport
    · exact advises_of_problems _ (fun p => asks_viewportEdits e p.code) d hreport
    · rw [List.mem_singleton.1 hreport]
      exact advises_report _ _ _ (by simp)
  · split at hcount
    · rw [List.mem_singleton.1 hcount]
      exact advises_report _ _ _ (by simp)
    · cases hcount

/-- The removal of an origin-trial element, to be made without asking. -/
def trialRemoval (e : Element) : Edit :=
  noInvalidOriginTrialInfo.removeElement "removeTag" e false true

/-- What the rule on tokens makes of one element: a report when there is no content, and otherwise a
report when the verdict on the content has a code. -/
theorem reportTrial_cases {options : Options} {e : Element} {found : List Diagnostic}
    (h : reportTrial options e = .ok found) :
    (e.findAttribute? "content" = none ∧
      found = [noInvalidOriginTrialInfo.report "missingContent" e [] [trialRemoval e]]) ∨
    (e.findAttribute? "content" = some none ∧ found = []) ∨
    ∃ content verdict, e.findAttribute? "content" = some (some content) ∧
      Trial.judge (some content) (.ofText? options.expectedOrigin) options.now = .ok verdict ∧
      ((verdict.code? = none ∧ found = []) ∨
        ∃ code, verdict.code? = some code ∧
          found = [noInvalidOriginTrialInfo.report code e verdict.data
            (if removableCodes.contains code then [trialRemoval e] else [])]) := by
  unfold reportTrial at h
  dsimp only at h
  split at h
  · rename_i hcontent
    exact .inl ⟨hcontent, (Except.ok.inj h).symm⟩
  · rename_i hcontent
    exact .inr (.inl ⟨hcontent, (Except.ok.inj h).symm⟩)
  · rename_i content hcontent
    split at h
    · cases h
    · rename_i verdict hverdict
      refine .inr (.inr ⟨content, verdict, hcontent, hverdict, ?_⟩)
      split at h
      · rename_i hcode
        exact .inl ⟨hcode, (Except.ok.inj h).symm⟩
      · rename_i code hcode
        exact .inr ⟨code, hcode, (Except.ok.inj h).symm⟩

theorem signed_reportTrial {options : Options} {e : Element} {found : List Diagnostic}
    (h : reportTrial options e = .ok found) : ∀ d ∈ found, d.rule = noInvalidOriginTrial.name := by
  rcases reportTrial_cases h with ⟨-, rfl⟩ | ⟨-, rfl⟩ | ⟨-, -, -, -, ⟨-, rfl⟩ | ⟨code, -, rfl⟩⟩
  · exact List.forall_mem_singleton.2 rfl
  · simp
  · simp
  · exact List.forall_mem_singleton.2 rfl

-- The elements are reported on one after the other.
theorem exists_groups_of_reportTrials {options : Options} {elements : List Element}
    {found : List Diagnostic} (h : reportTrials options elements = .ok found) :
    ∃ groups, List.Forall₂ (fun e reports => reportTrial options e = .ok reports) elements groups ∧
      found = groups.flatten := by
  induction elements generalizing found with
  | nil =>
    obtain rfl := Except.ok.inj h
    exact ⟨[], .nil, rfl⟩
  | cons e rest ih =>
    rw [reportTrials] at h
    split at h
    · cases h
    · rename_i reports hreport
      cases hrest : reportTrials options rest with
      | error overflow => rw [hrest] at h; cases h
      | ok more =>
        rw [hrest] at h
        obtain rfl := Except.ok.inj h
        obtain ⟨groups, hgroups, rfl⟩ := ih hrest
        exact ⟨reports :: groups, .cons hreport hgroups, rfl⟩

theorem signed_reportTrials {options : Options} {elements : List Element}
    {groups : List (List Diagnostic)}
    (h : List.Forall₂ (fun e reports => reportTrial options e = .ok reports) elements groups) :
    ∀ d ∈ groups.flatten, d.rule = noInvalidOriginTrial.name := by
  induction h with
  | nil => simp
  | cons hreport _ ih =>
    rw [List.flatten_cons]
    exact List.forall_mem_append.2 ⟨signed_reportTrial hreport, ih⟩

theorem signed_noInvalidOriginTrial : noInvalidOriginTrial.Signed := by
  rintro head options found h
  obtain ⟨groups, hgroups, rfl⟩ := exists_groups_of_reportTrials h
  exact signed_reportTrials hgroups

end Rules

/-! ## Catalogs -/

namespace Catalog

/-- Only the rule on tokens makes automatic edits. -/
theorem advisory_builtin :
    ∀ rule ∈ Catalog.builtin.all, rule.Advisory ∨ rule = Rules.noInvalidOriginTrial := by
  intro rule hrule
  have hmem := Catalog.mem_of_mem_all hrule
  simp only [List.mem_cons, List.not_mem_nil, or_false] at hmem
  rcases hmem with rfl | rfl | rfl | rfl | rfl | rfl | rfl | rfl | rfl | rfl | rfl | rfl | rfl
  · exact .inl Rules.advisory_headElementOrder
  · exact .inl Rules.advisory_noDefaultStyle
  · exact .inl Rules.advisory_noDuplicateBase
  · exact .inl Rules.advisory_noDuplicateTitle
  · exact .inl Rules.advisory_noInvalidHeadElements
  · exact .inl Rules.advisory_noInvalidHttpEquiv
  · exact .inr rfl
  · exact .inl Rules.advisory_noMetaCsp
  · exact .inl Rules.advisory_noUnnecessaryPreload
  · exact .inl Rules.advisory_requireViewport
  · exact .inl Rules.advisory_requireTitle
  · exact .inl Rules.advisory_validCharset
  · exact .inl Rules.advisory_validViewport

theorem signed_builtin : ∀ rule ∈ Catalog.builtin.all, rule.Signed := by
  intro rule hrule
  rcases advisory_builtin rule hrule with hadvisory | rfl
  · exact hadvisory.signed
  · exact Rules.signed_noInvalidOriginTrial

/-- No other rule of the catalog can be left without a result. -/
theorem exists_check_builtin (head : Head) (options : Options) :
    ∀ rule ∈ Catalog.builtin.all,
      (∃ own, rule.check head options = .ok own) ∨ rule = Rules.noInvalidOriginTrial := by
  intro rule hrule
  have hmem := Catalog.mem_of_mem_all hrule
  simp only [List.mem_cons, List.not_mem_nil, or_false] at hmem
  rcases hmem with rfl | rfl | rfl | rfl | rfl | rfl | rfl | rfl | rfl | rfl | rfl | rfl | rfl
  case inr.inr.inr.inr.inr.inr.inl => exact .inr rfl
  all_goals exact .inl ⟨_, rfl⟩

/-- A catalog that has every rule under its own name, and every name once. -/
structure Indexed (catalog : Catalog) : Prop where
  keys : Entries.keys catalog.rules = catalog.rules.map (·.2.name)
  nodup : (Entries.keys catalog.rules).Nodup

theorem Indexed.register {catalog : Catalog} (h : catalog.Indexed) (rule : Rule) :
    (catalog.register rule).Indexed := by
  refine ⟨?_, Entries.nodup_keys_put _ _ _ h.nodup⟩
  have hput : ∀ entries : Entries Rule, Entries.keys entries = entries.map (·.2.name) →
      Entries.keys (Entries.put rule.name rule entries) =
        (Entries.put rule.name rule entries).map (·.2.name) := by
    intro entries hentries
    induction entries with
    | nil => rfl
    | cons entry rest ih =>
      obtain ⟨hname, hrest⟩ := List.cons.inj hentries
      rw [Entries.put]
      split
      · rename_i heq
        exact List.cons_eq_cons.2 ⟨heq, hrest⟩
      · exact List.cons_eq_cons.2 ⟨hname, ih hrest⟩
  exact hput catalog.rules h.keys

theorem indexed_ofRules (rules : List Rule) : (ofRules rules).Indexed := by
  have hstep : ∀ (rules : List Rule) (catalog : Catalog), catalog.Indexed →
      (rules.foldl (fun catalog rule => catalog.register rule) catalog).Indexed := by
    intro rules
    induction rules with
    | nil => intro catalog h; exact h
    | cons rule rest ih => intro catalog h; exact ih _ (h.register rule)
  exact hstep rules {} ⟨rfl, List.nodup_nil⟩

/-- No two rules of a catalog have the same name. -/
theorem Indexed.nodup_names {catalog : Catalog} (h : catalog.Indexed) :
    (catalog.all.map (·.name)).Nodup := by
  have hperm := List.mergeSort_perm (catalog.rules.map (·.2)) fun a b => textLe a.name b.name
  rw [all, (hperm.map (·.name)).nodup_iff, List.map_map]
  exact h.keys ▸ h.nodup

end Catalog

namespace Linter

-- The active rules of a linter are those of its catalog that are not off.
theorem exists_activeRules_of_make {catalog : Catalog} {config preset : Json}
    {overrides : List (Json × Json)} {linter : Linter}
    (h : make catalog config preset overrides = .ok linter) :
    ∃ severities, linter.active = activeRules catalog severities := by
  simp only [make, bind, Except.bind] at h
  split at h
  · cases h
  · split at h
    · cases h
    · obtain rfl := Except.ok.inj h
      exact ⟨_, rfl⟩

/-- A rule is active when a severity is set for it and the rule is not off. -/
theorem mem_activeRules_iff {catalog : Catalog} {severities : Entries Severity} {rule : Rule}
    {severity : Severity} :
    (rule, severity) ∈ activeRules catalog severities ↔
      rule ∈ catalog.all ∧ Entries.get? rule.name severities = some severity ∧
        severity ≠ .off := by
  rw [activeRules, List.mem_filterMap]
  constructor
  · rintro ⟨other, hmem, hsome⟩
    split at hsome
    · cases hsome
    · rename_i hoff hget
      obtain ⟨rfl, rfl⟩ := Prod.mk.inj (Option.some.inj hsome)
      exact ⟨hmem, hget, fun heq => hoff heq⟩
    · cases hsome
  · rintro ⟨hmem, hget, hoff⟩
    refine ⟨rule, hmem, ?_⟩
    cases severity with
    | off => exact absurd rfl hoff
    | error => simp only [hget]
    | warn => simp only [hget]

-- The active rules are in the order of the catalog.
theorem map_activeRules_sublist (catalog : Catalog) (severities : Entries Severity) :
    ((activeRules catalog severities).map (·.1)).Sublist catalog.all := by
  unfold activeRules
  induction catalog.all with
  | nil => exact .slnil
  | cons rule rest ih =>
    rw [List.filterMap_cons]
    split
    · exact ih.cons _
    · rename_i active hactive
      have hrule : active.1 = rule := by
        split at hactive
        · cases hactive
        · rw [← Option.some.inj hactive]
        · cases hactive
      rw [List.map_cons, hrule]
      exact ih.cons_cons _

/-- No two active rules have the same name. -/
theorem pairwise_active_of_make {config preset : Json} {overrides : List (Json × Json)}
    {linter : Linter} (h : make .builtin config preset overrides = .ok linter) :
    linter.active.Pairwise fun a b => a.1.name ≠ b.1.name := by
  obtain ⟨severities, hactive⟩ := exists_activeRules_of_make h
  have hnames : Catalog.builtin.all.Pairwise fun a b => a.name ≠ b.name :=
    List.pairwise_map.1 (Catalog.indexed_ofRules _).nodup_names
  have hactiveNames := hnames.sublist (map_activeRules_sublist .builtin severities)
  rw [List.pairwise_map] at hactiveNames
  rwa [hactive]

end Linter

end HeadLint
