import HeadLint.Proofs.Entries
import HeadLint.Proofs.Lint.Signature

/-!
Rules side by side.  A linter merges the reports of all its rules by a stable sort, so what one rule
reports, and in which order, does not depend on the other rules that are active.
-/

namespace HeadLint

/-! ## Stable sorting -/

section Sorting

variable {α : Type} {le : α → α → Bool}

-- A list falls in one way only into elements that fail a condition and elements that satisfy it.
theorem eq_of_append_eq_append {q : α → Bool} {l₁ l₂ m₁ m₂ : List α} (h : l₁ ++ l₂ = m₁ ++ m₂)
    (hl₁ : ∀ a ∈ l₁, q a = false) (hl₂ : ∀ a ∈ l₂, q a = true)
    (hm₁ : ∀ a ∈ m₁, q a = false) (hm₂ : ∀ a ∈ m₂, q a = true) : l₁ = m₁ ∧ l₂ = m₂ := by
  have hsatisfy : ∀ {k₁ k₂ : List α}, (∀ a ∈ k₁, q a = false) → (∀ a ∈ k₂, q a = true) →
      (k₁ ++ k₂).filter q = k₂ := by
    intro k₁ k₂ h₁ h₂
    rw [List.filter_append, List.filter_eq_nil_iff.2 fun a ha => by simp [h₁ a ha],
      List.filter_eq_self.2 h₂, List.nil_append]
  have hbehind : l₂ = m₂ := by
    rw [← hsatisfy hl₁ hl₂, h, hsatisfy hm₁ hm₂]
  subst hbehind
  exact ⟨List.append_cancel_right h, rfl⟩

/-- Leaving elements out before or after a stable sort makes no difference. -/
theorem filter_mergeSort (trans : ∀ a b c, le a b = true → le b c = true → le a c = true)
    (total : ∀ a b, (le a b || le b a) = true) (p : α → Bool) (l : List α) :
    (l.mergeSort le).filter p = (l.filter p).mergeSort le := by
  induction l with
  | nil => simp
  | cons a l ih =>
    -- The first element is put behind those that are less, and before all others.
    obtain ⟨l₁, l₂, hsorted, hrest, hless⟩ := List.mergeSort_cons trans total a l
    have hmore : ∀ b ∈ l₂, le a b = true := by
      have hpairwise := List.pairwise_mergeSort trans total (a :: l)
      rw [hsorted, List.pairwise_append, List.pairwise_cons] at hpairwise
      exact hpairwise.2.1.1
    rw [hrest, List.filter_append] at ih
    cases hp : p a with
    | false => simp [hsorted, hp, ih]
    | true =>
      obtain ⟨m₁, m₂, hsorted', hrest', hless'⟩ := List.mergeSort_cons trans total a (l.filter p)
      have hmore' : ∀ b ∈ m₂, le a b = true := by
        have hpairwise := List.pairwise_mergeSort trans total (a :: l.filter p)
        rw [hsorted', List.pairwise_append, List.pairwise_cons] at hpairwise
        exact hpairwise.2.1.1
      obtain ⟨rfl, rfl⟩ := eq_of_append_eq_append (q := le a) (ih.trans hrest')
        (fun b hb => by simpa using hless b (List.mem_of_mem_filter hb))
        (fun b hb => hmore b (List.mem_of_mem_filter hb))
        (fun b hb => by simpa using hless' b hb) hmore'
      rw [hsorted, List.filter_append, List.filter_cons_of_pos hp, List.filter_cons_of_pos hp,
        hsorted']

end Sorting

/-! ## Reports of one rule among those of all rules -/

/-- A report with the severity of its rule. -/
def Diagnostic.rated (severity : Severity) (d : Diagnostic) : Diagnostic :=
  { d with severity := some severity.name }

/-- A report without a severity. -/
def Diagnostic.unrated (d : Diagnostic) : Diagnostic :=
  { d with severity := none }

theorem Diagnostic.Concerns.rated {e : Element} {d : Diagnostic} (h : d.Concerns e)
    (severity : Severity) : (d.rated severity).Concerns e :=
  ⟨h.tag, h.span, h.edits⟩

/-- Reports in source order. -/
def inOrder (found : List Diagnostic) : List Diagnostic :=
  found.mergeSort fun a b => decide (a.position ≤ b.position)

theorem filter_inOrder (p : Diagnostic → Bool) (found : List Diagnostic) :
    (inOrder found).filter p = inOrder (found.filter p) := by
  refine filter_mergeSort ?_ ?_ p found
  · intro a b c hab hbc
    rw [decide_eq_true_eq] at hab hbc ⊢
    exact Int.le_trans hab hbc
  · intro a b
    rw [Bool.or_eq_true, decide_eq_true_eq, decide_eq_true_eq]
    exact Int.le_total a.position b.position

theorem inOrder_map_rated (severity : Severity) (found : List Diagnostic) :
    inOrder (found.map (Diagnostic.rated severity)) =
      (inOrder found).map (Diagnostic.rated severity) := by
  refine (List.map_mergeSort ?_).symm
  intro a _ b _
  rfl

/-- The reports of one rule. -/
def Rule.among (rule : Rule) (found : List Diagnostic) : List Diagnostic :=
  found.filter fun d => d.rule == rule.name

namespace Linter

/-- A rule that is active in a linter. -/
def Runs (linter : Linter) (rule : Rule) : Prop :=
  ∃ severity, (rule, severity) ∈ linter.active

theorem reports_cons_eq_ok_iff {head : Head} {options : Options} {rule : Rule}
    {severity : Severity} {rest : List (Rule × Severity)} {found : List Diagnostic} :
    reports head options ((rule, severity) :: rest) = .ok found ↔
      ∃ own more, rule.check head options = .ok own ∧ reports head options rest = .ok more ∧
        found = own.map (Diagnostic.rated severity) ++ more := by
  rw [reports]
  cases rule.check head options with
  | error overflow => simp
  | ok own =>
    cases reports head options rest with
    | error overflow => simp [Except.map]
    | ok more =>
      constructor
      · intro h
        exact ⟨own, more, rfl, rfl, (Except.ok.inj h).symm⟩
      · rintro ⟨own', more', hown, hmore, rfl⟩
        rw [← Except.ok.inj hown, ← Except.ok.inj hmore]
        rfl

theorem lintHead_eq_ok_iff {linter : Linter} {options : Options} {head : Element}
    {found : List Diagnostic} :
    linter.lintHead options head = .ok found ↔
      ∃ unsorted, reports (Head.of head) options linter.active = .ok unsorted ∧
        found = inOrder unsorted := by
  rw [lintHead]
  cases reports (Head.of head) options linter.active <;> simp [Except.map, eq_comm, inOrder]

-- Every report is signed by a rule that is active.
theorem exists_rule_of_reports {head : Head} {options : Options} {active : List (Rule × Severity)}
    {found : List Diagnostic} (hsigned : ∀ a ∈ active, a.1.Signed)
    (h : reports head options active = .ok found) :
    ∀ d ∈ found, ∃ a ∈ active, d.rule = a.1.name := by
  induction active generalizing found with
  | nil =>
    obtain rfl := Except.ok.inj h
    simp
  | cons first rest ih =>
    obtain ⟨rule, severity⟩ := first
    obtain ⟨own, more, hown, hmore, rfl⟩ := reports_cons_eq_ok_iff.1 h
    intro d hd
    rcases List.mem_append.1 hd with hfirst | hrest
    · obtain ⟨d', hd', rfl⟩ := List.mem_map.1 hfirst
      exact ⟨_, List.mem_cons_self .., hsigned _ (List.mem_cons_self ..) _ _ _ hown d' hd'⟩
    · obtain ⟨a, ha, hname⟩ :=
        ih (fun a ha => hsigned a (List.mem_cons_of_mem _ ha)) hmore d hrest
      exact ⟨a, List.mem_cons_of_mem _ ha, hname⟩

-- The reports of a rule among all others are those that the rule makes.
theorem among_reports {head : Head} {options : Options} {active : List (Rule × Severity)}
    {found : List Diagnostic} (hsigned : ∀ a ∈ active, a.1.Signed)
    (hnames : active.Pairwise fun a b => a.1.name ≠ b.1.name)
    (h : reports head options active = .ok found) {rule : Rule} {severity : Severity}
    (hactive : (rule, severity) ∈ active) :
    ∃ own, rule.check head options = .ok own ∧
      rule.among found = own.map (Diagnostic.rated severity) := by
  induction active generalizing found with
  | nil => cases hactive
  | cons first rest ih =>
    obtain ⟨other, otherSeverity⟩ := first
    obtain ⟨own, more, hown, hmore, rfl⟩ := reports_cons_eq_ok_iff.1 h
    obtain ⟨hfirst, hrest⟩ := List.pairwise_cons.1 hnames
    have hsignedRest : ∀ a ∈ rest, a.1.Signed := fun a ha => hsigned a (List.mem_cons_of_mem _ ha)
    have hother := hsigned _ (List.mem_cons_self ..) _ _ _ hown
    rw [Rule.among, List.filter_append]
    rcases List.mem_cons.1 hactive with heq | hmem
    · obtain ⟨rfl, rfl⟩ := Prod.mk.inj heq
      -- All reports of the rule itself are taken, and none of the rules behind it.
      refine ⟨own, hown, ?_⟩
      rw [List.filter_eq_self.2, List.filter_eq_nil_iff.2, List.append_nil]
      · intro d hd hname
        obtain ⟨a, ha, hsame⟩ := exists_rule_of_reports hsignedRest hmore d hd
        exact hfirst a ha ((eq_of_beq hname).symm.trans hsame)
      · intro d hd
        obtain ⟨d', hd', rfl⟩ := List.mem_map.1 hd
        exact beq_iff_eq.2 (hother d' hd')
    · rw [List.filter_eq_nil_iff.2, List.nil_append]
      · exact ih hsignedRest hrest hmore hmem
      · intro d hd hname
        obtain ⟨d', hd', rfl⟩ := List.mem_map.1 hd
        exact hfirst _ hmem ((hother d' hd').symm.trans (eq_of_beq hname))

-- A linter has its reports when every rule has its own.
theorem exists_reports_of_checks {head : Head} {options : Options}
    {active : List (Rule × Severity)}
    (h : ∀ a ∈ active, ∃ own, a.1.check head options = .ok own) :
    ∃ found, reports head options active = .ok found := by
  induction active with
  | nil => exact ⟨[], rfl⟩
  | cons first rest ih =>
    obtain ⟨own, hown⟩ := h first (List.mem_cons_self ..)
    obtain ⟨more, hmore⟩ := ih fun a ha => h a (List.mem_cons_of_mem _ ha)
    exact ⟨_, reports_cons_eq_ok_iff.2 ⟨own, more, hown, hmore, rfl⟩⟩

section Made

variable {config preset : Json} {overrides : List (Json × Json)} {linter : Linter}
  (hmake : make .builtin config preset overrides = .ok linter)
include hmake

theorem signed_of_make : ∀ a ∈ linter.active, a.1.Signed :=
  fun a ha => Catalog.signed_builtin _ (mem_all_of_make hmake a ha)

/-- Among the reports on a head, those of a rule are what the rule makes of the head, in source
order and with the severity of the rule. -/
theorem among_lintHead {options : Options} {head : Element} {found : List Diagnostic}
    (h : linter.lintHead options head = .ok found) {rule : Rule} {severity : Severity}
    (hactive : (rule, severity) ∈ linter.active) :
    ∃ own, rule.check (Head.of head) options = .ok own ∧
      rule.among found = (inOrder own).map (Diagnostic.rated severity) := by
  obtain ⟨unsorted, hreports, rfl⟩ := lintHead_eq_ok_iff.1 h
  obtain ⟨own, hown, hamong⟩ := among_reports (signed_of_make hmake)
    (pairwise_active_of_make hmake) hreports hactive
  refine ⟨own, hown, ?_⟩
  rw [← inOrder_map_rated, ← hamong]
  exact filter_inOrder _ _

theorem exists_rule_of_lintHead {options : Options} {head : Element} {found : List Diagnostic}
    (h : linter.lintHead options head = .ok found) :
    ∀ d ∈ found, ∃ a ∈ linter.active, d.rule = a.1.name := by
  obtain ⟨unsorted, hreports, rfl⟩ := lintHead_eq_ok_iff.1 h
  intro d hd
  exact exists_rule_of_reports (signed_of_make hmake) hreports d (List.mem_mergeSort.1 hd)

/-- There are reports on a head, if only the rule on tokens has a result when it is active. -/
theorem exists_lintHead_of_make {options : Options} {head : Element}
    (h : linter.Runs Rules.noInvalidOriginTrial →
      ∃ own, Rules.noInvalidOriginTrial.check (Head.of head) options = .ok own) :
    ∃ found, linter.lintHead options head = .ok found := by
  have hchecks : ∀ a ∈ linter.active, ∃ own, a.1.check (Head.of head) options = .ok own := by
    intro a ha
    rcases Catalog.exists_check_builtin (Head.of head) options a.1 (mem_all_of_make hmake a ha)
      with hown | hrule
    · exact hown
    · rw [hrule]
      exact h ⟨a.2, hrule ▸ ha⟩
  obtain ⟨unsorted, hreports⟩ := exists_reports_of_checks hchecks
  exact ⟨_, lintHead_eq_ok_iff.2 ⟨unsorted, hreports, rfl⟩⟩

end Made

/-- Two linters that have a rule active report the same of it on a head, severities apart, namely
what the rule makes of the head; a linter in which the rule is not active reports nothing of it. -/
theorem among_lintHead_eq {config config' preset preset' : Json}
    {overrides overrides' : List (Json × Json)} {linter linter' : Linter}
    (hmake : make .builtin config preset overrides = .ok linter)
    (hmake' : make .builtin config' preset' overrides' = .ok linter')
    {options : Options} {head : Element} {found found' : List Diagnostic}
    (hlint : linter.lintHead options head = .ok found)
    (hlint' : linter'.lintHead options head = .ok found')
    {rule : Rule} (hrule : rule ∈ Catalog.builtin.all) :
    (linter.Runs rule → linter'.Runs rule →
      (rule.among found).map Diagnostic.unrated = (rule.among found').map Diagnostic.unrated ∧
      ∃ own, rule.check (Head.of head) options = .ok own ∧
        (rule.among found).map Diagnostic.unrated = (inOrder own).map Diagnostic.unrated) ∧
    (¬ linter.Runs rule → rule.among found = []) := by
  have hunrated : ∀ (severity : Severity) (own : List Diagnostic),
      (own.map (Diagnostic.rated severity)).map Diagnostic.unrated =
        own.map Diagnostic.unrated := by
    intro severity own
    rw [List.map_map]
    rfl
  constructor
  · rintro ⟨severity, hactive⟩ ⟨severity', hactive'⟩
    obtain ⟨own, hown, hamong⟩ := among_lintHead hmake hlint hactive
    obtain ⟨own', hown', hamong'⟩ := among_lintHead hmake' hlint' hactive'
    obtain rfl := Except.ok.inj (hown.symm.trans hown')
    rw [hamong, hamong', hunrated, hunrated]
    exact ⟨rfl, own, hown, rfl⟩
  · intro hinactive
    refine List.filter_eq_nil_iff.2 fun d hd hname => hinactive ?_
    obtain ⟨⟨other, severity⟩, hactive, hsigned⟩ := exists_rule_of_lintHead hmake hlint d hd
    have hsame : other = rule :=
      List.inj_on_of_nodup_map (Catalog.indexed_ofRules _).nodup_names
        (mem_all_of_make hmake _ hactive) hrule (hsigned.symm.trans (eq_of_beq hname))
    exact ⟨severity, hsame ▸ hactive⟩

/-! ## All rules, and all but one -/

/-- The severities of the preset of all rules. -/
def allSeverities : Entries Severity :=
  Catalog.builtin.all.map fun rule => (rule.name, severityOfKind rule.kind)

theorem get?_allSeverities {rule : Rule} (h : rule ∈ Catalog.builtin.all) :
    Entries.get? rule.name allSeverities = some (severityOfKind rule.kind) := by
  refine Entries.get?_of_mem ?_ (List.mem_map_of_mem h)
  rw [Entries.keys, allSeverities, List.map_map]
  exact (Catalog.indexed_ofRules _).nodup_names

theorem severityOfKind_ne_off (kind : String) : severityOfKind kind ≠ .off := by
  unfold severityOfKind
  split <;> simp

theorem exists_make_all (config : Json) :
    ∃ linter, make .builtin config (.str "all") [] = .ok linter ∧
      ∀ rule ∈ Catalog.builtin.all, linter.Runs rule := by
  refine ⟨⟨.str "all", { rules := allSeverities }, activeRules .builtin allSeverities⟩, rfl, ?_⟩
  intro rule hrule
  exact ⟨_, mem_activeRules_iff.2 ⟨hrule, get?_allSeverities hrule, severityOfKind_ne_off _⟩⟩

theorem exists_make_untitled (config : Json) :
    ∃ linter, make .builtin config (.str "all") [(.str "require-title", .str "off")] = .ok linter ∧
      ∀ rule ∈ Catalog.builtin.all, linter.Runs rule ↔ rule.name ≠ "require-title" := by
  let severities := Entries.put "require-title" .off allSeverities
  refine ⟨⟨.str "all", { rules := severities }, activeRules .builtin severities⟩, rfl, ?_⟩
  intro rule hrule
  have hget : Entries.get? rule.name severities =
      if rule.name = "require-title" then some .off else some (severityOfKind rule.kind) := by
    rw [Entries.get?_put, get?_allSeverities hrule]
  constructor
  · rintro ⟨severity, hactive⟩ hname
    obtain ⟨-, hsome, hoff⟩ := mem_activeRules_iff.1 hactive
    rw [hget, if_pos hname] at hsome
    exact hoff (Option.some.inj hsome).symm
  · intro hname
    rw [if_neg hname] at hget
    exact ⟨_, mem_activeRules_iff.2 ⟨hrule, hget, severityOfKind_ne_off _⟩⟩

/-- Three base addresses and no title, all without a place in the source. -/
def threeBases : Element :=
  { tag := "head", children := [{ tag := "base" }, { tag := "base" }, { tag := "base" }] }

theorem among_lintHead_eq_threeBases :
    ∃ linter linter' found found',
      make .builtin (.obj []) (.str "all") [] = .ok linter ∧
      make .builtin (.obj []) (.str "all") [(.str "require-title", .str "off")] = .ok linter' ∧
      linter.lintHead { now := ⟨0⟩ } threeBases = .ok found ∧
      linter'.lintHead { now := ⟨0⟩ } threeBases = .ok found' ∧
      (Rules.noDuplicateBase.among found).map Diagnostic.unrated =
        (Rules.noDuplicateBase.among found').map Diagnostic.unrated ∧
      (Rules.noDuplicateBase.among found).length = 2 ∧
      (Rules.requireTitle.among found).length = 1 ∧ Rules.requireTitle.among found' = [] := by
  obtain ⟨linter, hmake, hruns⟩ := exists_make_all (.obj [])
  obtain ⟨linter', hmake', hruns'⟩ := exists_make_untitled (.obj [])
  have hbase : Rules.noDuplicateBase ∈ Catalog.builtin.all :=
    List.mem_mergeSort.2 (.tail _ (.tail _ (.head _)))
  have htitle : Rules.requireTitle ∈ Catalog.builtin.all := by
    refine List.mem_mergeSort.2 ?_
    exact List.mem_of_getElem? (i := 10) rfl
  have htrial : Rules.noInvalidOriginTrial.check (Head.of threeBases) { now := ⟨0⟩ } = .ok [] :=
    rfl
  obtain ⟨found, hfound⟩ := exists_lintHead_of_make hmake fun _ => ⟨_, htrial⟩
  obtain ⟨found', hfound'⟩ := exists_lintHead_of_make hmake' fun _ => ⟨_, htrial⟩
  obtain ⟨hsame, own, hown, hbases⟩ :=
    (among_lintHead_eq hmake hmake' hfound hfound' hbase).1 (hruns _ hbase)
      ((hruns' _ hbase).2 (by decide))
  obtain ⟨-, title, htitleOwn, htitles⟩ :=
    (among_lintHead_eq hmake hmake hfound hfound htitle).1 (hruns _ htitle) (hruns _ htitle)
  have hnone := (among_lintHead_eq hmake' hmake hfound' hfound htitle).2 fun hrun =>
    (hruns' _ htitle).1 hrun rfl
  have hlength : ∀ {rule : Rule} {own : List Diagnostic},
      (rule.among found).map Diagnostic.unrated = (inOrder own).map Diagnostic.unrated →
      (rule.among found).length = own.length := by
    intro rule own h
    simpa [inOrder] using congrArg List.length h
  refine ⟨linter, linter', found, found', hmake, hmake', hfound, hfound', hsame, ?_, ?_, hnone⟩
  · rw [hlength hbases, ← Except.ok.inj hown]
    rfl
  · rw [hlength htitles, ← Except.ok.inj htitleOwn]
    rfl

end Linter

end HeadLint
