import HeadLint.Lint.Linter

/-!
What reports are about.  Whatever rules are active, a report is about a head or one of its
children, and each of its edits is an edit of that element.
-/

namespace HeadLint

open Text

/-! ## Edits and reports of one element -/

/-- An edit of an element: it removes the element, or replaces the value of an attribute of it. -/
def Edit.Concerns (e : Element) (edit : Edit) : Prop :=
  match edit.action with
  | .removeElement => edit.span = e.span
  | .replaceValue => ∃ attr, edit.attr = some (lowered attr) ∧ edit.span = e.attributeSpan? attr

/-- A report about an element, with edits of that element only. -/
structure Diagnostic.Concerns (e : Element) (d : Diagnostic) : Prop where
  tag : d.tag = e.name
  span : d.span = e.span
  edits : ∀ edit ∈ d.edits, edit.Concerns e

namespace RuleInfo

variable (rule : RuleInfo) (e : Element)

theorem concerns_replaceValue (id attr text : String) :
    (rule.replaceValue id e attr text).Concerns e :=
  ⟨attr, rfl, rfl⟩

theorem concerns_removeElement (id : String) (includeLine automatic : Bool) (data : Entries Json) :
    (rule.removeElement id e includeLine automatic data).Concerns e :=
  rfl

variable {e}

theorem concerns_reportWith (code message : String) (data : Entries Json) {edits : List Edit}
    (h : ∀ edit ∈ edits, edit.Concerns e) :
    (rule.reportWith code message e data edits).Concerns e :=
  ⟨rfl, rfl, h⟩

theorem concerns_report (code : String) (data : Entries Json) {edits : List Edit}
    (h : ∀ edit ∈ edits, edit.Concerns e) : (rule.report code e data edits).Concerns e :=
  concerns_reportWith rule code _ data h

end RuleInfo

/-- The element of a head that a report is about.  Only a report about a child suggests edits. -/
def Head.Reported (head : Head) (d : Diagnostic) : Prop :=
  ∃ e, (e = head.element ∧ d.edits = [] ∨ e ∈ head.children) ∧ d.Concerns e

theorem Head.each_eq (head : Head) (p : Element → Bool) :
    head.each p =
      (head.children.zipIdx.filter fun child => p child.1).map fun child => (child.2, child.1) := by
  rw [each, ← List.filterMap_eq_filter, List.map_filterMap]
  congr 1
  funext child
  by_cases hchild : p child.1 = true <;> simp [Option.guard, hchild]

theorem Head.getElem?_of_each {head : Head} {p : Element → Bool} {i : Nat} {e : Element}
    (h : (i, e) ∈ head.each p) : head.children[i]? = some e := by
  rw [each_eq] at h
  obtain ⟨child, hmem, heq⟩ := List.mem_map.1 h
  obtain ⟨rfl, rfl⟩ := Prod.mk.inj heq
  exact List.mem_zipIdx_iff_getElem?.1 (List.mem_filter.1 hmem).1

theorem Head.mem_children_of_each {head : Head} {p : Element → Bool} {i : Nat} {e : Element}
    (h : (i, e) ∈ head.each p) : e ∈ head.children :=
  List.mem_of_getElem? (getElem?_of_each h)

theorem Head.map_snd_each (head : Head) (p : Element → Bool) :
    (head.each p).map (·.2) = head.children.filter p := by
  have hfst : head.children.zipIdx.map Prod.fst = head.children := List.zipIdx_map_fst _ _
  conv => rhs; rw [← hfst, List.filter_map]
  rw [each_eq, List.map_map]
  rfl

theorem Head.mem_children_of_select {head : Head} {positions : List Nat} {e : Element}
    (h : e ∈ head.select positions) : e ∈ head.children := by
  obtain ⟨i, -, hget⟩ := List.mem_filterMap.1 h
  exact List.mem_of_getElem? hget

theorem Preload.mem_of_find {children : List Element} {i : Nat} {e : Element} {p : Problem}
    (h : (i, e, p) ∈ Preload.find children) : e ∈ children := by
  obtain ⟨⟨e', i'⟩, hmem, hsome⟩ := List.mem_filterMap.1 h
  obtain ⟨problem, -, heq⟩ := Option.map_eq_some_iff.1 hsome
  obtain ⟨rfl, heq'⟩ := Prod.mk.inj heq
  obtain ⟨rfl, -⟩ := Prod.mk.inj heq'
  exact List.fst_mem_of_mem_zipIdx hmem

-- Reports on the children that satisfy a condition.
theorem Head.reported_of_each {head : Head} {p : Element → Bool}
    {reports : Nat × Element → List Diagnostic}
    (h : ∀ i e, ∀ d ∈ reports (i, e), d.Concerns e) :
    ∀ d ∈ (head.each p).flatMap reports, head.Reported d := by
  intro d hd
  obtain ⟨⟨i, e⟩, he, hreport⟩ := List.mem_flatMap.1 hd
  exact ⟨e, .inr (Head.mem_children_of_each he), h i e d hreport⟩

-- Reports on the problems of an element, each with the same edits or with edits of its own.
theorem concerns_of_problems (rule : RuleInfo) {e : Element} {problems : List Problem}
    {edits : Problem → List Edit} (h : ∀ p, ∀ edit ∈ edits p, edit.Concerns e) :
    ∀ d ∈ problems.map fun p => rule.reportWith p.code p.message e p.data (edits p),
      d.Concerns e := by
  intro d hd
  obtain ⟨p, -, rfl⟩ := List.mem_map.1 hd
  exact rule.concerns_reportWith _ _ _ (h p)

/-! ## Rules -/

/-- A rule that reports on elements of the head it is given. -/
def Rule.Grounded (rule : Rule) : Prop :=
  ∀ head options found, rule.check head options = .ok found → ∀ d ∈ found, head.Reported d

namespace Rules

open RuleInfo

theorem grounded_headElementOrder : headElementOrder.Grounded := by
  rintro head options found h d hd
  obtain rfl := Except.ok.inj h
  obtain ⟨v, -, hv⟩ := List.mem_flatMap.1 hd
  obtain ⟨e, he, rfl⟩ := List.mem_map.1 hv
  exact ⟨e, .inr (Head.mem_children_of_select he), concerns_report _ _ _ (by simp)⟩

theorem grounded_noUnnecessaryPreload : noUnnecessaryPreload.Grounded := by
  rintro head options found h d hd
  obtain rfl := Except.ok.inj h
  obtain ⟨⟨i, e, p⟩, he, rfl⟩ := List.mem_map.1 hd
  refine ⟨e, .inr (Preload.mem_of_find he), concerns_report _ _ _ ?_⟩
  exact List.forall_mem_singleton.2 (concerns_removeElement ..)

theorem grounded_requireTitle : requireTitle.Grounded := by
  rintro head options found h d hd
  obtain rfl := Except.ok.inj h
  split at hd
  · rw [List.mem_singleton.1 hd]
    exact ⟨head.element, .inl ⟨rfl, rfl⟩, concerns_report _ _ _ (by simp)⟩
  · cases hd

theorem grounded_requireViewport : requireViewport.Grounded := by
  rintro head options found h d hd
  obtain rfl := Except.ok.inj h
  split at hd
  · rw [List.mem_singleton.1 hd]
    exact ⟨head.element, .inl ⟨rfl, rfl⟩, concerns_report _ _ _ (by simp)⟩
  · cases hd

theorem grounded_noDuplicateTitle : noDuplicateTitle.Grounded := by
  rintro head options found h d hd
  obtain rfl := Except.ok.inj h
  obtain ⟨e, he, rfl⟩ := List.mem_map.1 hd
  refine ⟨e, .inr (Head.mem_children_of_select he), concerns_report _ _ _ ?_⟩
  exact List.forall_mem_singleton.2 (concerns_removeElement ..)

theorem grounded_noDuplicateBase : noDuplicateBase.Grounded := by
  rintro head options found h d hd
  obtain rfl := Except.ok.inj h
  obtain ⟨⟨e, i⟩, he, rfl⟩ := List.mem_map.1 hd
  have hselect := List.fst_mem_of_mem_zipIdx he
  refine ⟨e, .inr (Head.mem_children_of_select hselect), concerns_report _ _ _ ?_⟩
  exact List.forall_mem_singleton.2 (concerns_removeElement ..)

theorem grounded_noInvalidHeadElements : noInvalidHeadElements.Grounded := by
  rintro head options found h d hd
  obtain rfl := Except.ok.inj h
  obtain ⟨⟨i, e⟩, he, rfl⟩ := List.mem_map.1 hd
  refine ⟨e, .inr (Head.mem_children_of_each he), concerns_report _ _ _ ?_⟩
  exact List.forall_mem_singleton.2 (concerns_removeElement ..)

theorem grounded_noMetaCsp : noMetaCsp.Grounded := by
  rintro head options found h
  obtain rfl := Except.ok.inj h
  exact Head.reported_of_each fun i e => concerns_of_problems _ fun _ =>
    List.forall_mem_singleton.2 (concerns_removeElement ..)

theorem grounded_noDefaultStyle : noDefaultStyle.Grounded := by
  rintro head options found h
  obtain rfl := Except.ok.inj h
  exact Head.reported_of_each fun i e => concerns_of_problems _ fun _ =>
    List.forall_mem_singleton.2 (concerns_removeElement ..)

theorem grounded_noInvalidHttpEquiv : noInvalidHttpEquiv.Grounded := by
  rintro head options found h
  obtain rfl := Except.ok.inj h
  apply Head.reported_of_each
  intro i e
  dsimp only
  split
  · simp
  · refine concerns_of_problems _ fun _ => ?_
    split
    · simp
    · exact List.forall_mem_singleton.2 (concerns_removeElement ..)

theorem concerns_utf8Edits (e : Element) : ∀ edit ∈ utf8Edits e, edit.Concerns e := by
  unfold utf8Edits
  split
  · exact List.forall_mem_singleton.2 (concerns_replaceValue ..)
  · split
    · simp
    · split
      · simp
      · exact List.forall_mem_singleton.2 (concerns_replaceValue ..)

theorem grounded_validCharset : validCharset.Grounded := by
  rintro head options found h
  obtain rfl := Except.ok.inj h
  apply Head.reported_of_each
  intro i e
  dsimp only
  split
  · exact concerns_of_problems _ fun _ => concerns_utf8Edits e
  · exact List.forall_mem_singleton.2 (concerns_report _ _ _ (by simp))

theorem concerns_viewportEdits (e : Element) (code : String) :
    ∀ edit ∈ viewportEdits e code, edit.Concerns e := by
  unfold viewportEdits
  split
  · exact List.forall_mem_singleton.2 (concerns_replaceValue ..)
  · simp

theorem grounded_validViewport : validViewport.Grounded := by
  rintro head options found h d hd
  obtain rfl := Except.ok.inj h
  rcases List.mem_append.1 hd with hreports | hcount
  · refine Head.reported_of_each (fun i e => ?_) d hreports
    dsimp only
    split
    · exact concerns_of_problems _ fun p => concerns_viewportEdits e p.code
    · exact List.forall_mem_singleton.2 (concerns_report _ _ _ (by simp))
  · split at hcount
    · rw [List.mem_singleton.1 hcount]
      exact ⟨head.element, .inl ⟨rfl, rfl⟩, concerns_report _ _ _ (by simp)⟩
    · cases hcount

theorem concerns_reportTrial {options : Options} {e : Element} {found : List Diagnostic}
    (h : reportTrial options e = .ok found) : ∀ d ∈ found, d.Concerns e := by
  unfold reportTrial at h
  dsimp only at h
  split at h
  · obtain rfl := Except.ok.inj h
    refine List.forall_mem_singleton.2 (concerns_report _ _ _ ?_)
    exact List.forall_mem_singleton.2 (concerns_removeElement ..)
  · obtain rfl := Except.ok.inj h
    simp
  · split at h
    · cases h
    · split at h
      · obtain rfl := Except.ok.inj h
        simp
      · obtain rfl := Except.ok.inj h
        refine List.forall_mem_singleton.2 (concerns_report _ _ _ ?_)
        split
        · exact List.forall_mem_singleton.2 (concerns_removeElement ..)
        · simp

theorem exists_of_reportTrials {options : Options} {elements : List Element}
    {found : List Diagnostic} (h : reportTrials options elements = .ok found) :
    ∀ d ∈ found, ∃ e ∈ elements, d.Concerns e := by
  induction elements generalizing found with
  | nil =>
    obtain rfl := Except.ok.inj h
    simp
  | cons e rest ih =>
    rw [reportTrials] at h
    split at h
    · cases h
    · rename_i reports hreport
      cases hrest : reportTrials options rest with
      | error overflow => rw [hrest] at h; cases h
      | ok more =>
        rw [hrest] at h
        obtain rfl := Except.ok.inj h
        intro d hd
        rcases List.mem_append.1 hd with hfirst | hmore
        · exact ⟨e, List.mem_cons_self .., concerns_reportTrial hreport d hfirst⟩
        · obtain ⟨e', he', hconcerns⟩ := ih hrest d hmore
          exact ⟨e', List.mem_cons_of_mem _ he', hconcerns⟩

theorem grounded_noInvalidOriginTrial : noInvalidOriginTrial.Grounded := by
  rintro head options found h d hd
  obtain ⟨e, he, hconcerns⟩ := exists_of_reportTrials h d hd
  obtain ⟨⟨i, e'⟩, hmem, rfl⟩ := List.mem_map.1 he
  exact ⟨e', .inr (Head.mem_children_of_each hmem), hconcerns⟩

end Rules

/-! ## Catalogs and linters -/

theorem Entries.value_mem_put {α : Type} {key : String} {value v : α} {entries : Entries α}
    (h : v ∈ (Entries.put key value entries).map (·.2)) : v = value ∨ v ∈ entries.map (·.2) := by
  induction entries with
  | nil => simpa [Entries.put] using h
  | cons entry rest ih =>
    obtain ⟨k, w⟩ := entry
    rw [Entries.put] at h
    split at h
    · rcases List.mem_cons.1 h with heq | hrest
      · exact .inl heq
      · exact .inr (List.mem_cons_of_mem _ hrest)
    · rcases List.mem_cons.1 h with heq | hrest
      · exact .inr (heq ▸ List.mem_cons_self ..)
      · exact (ih hrest).imp_right (List.mem_cons_of_mem _)

-- A catalog has only rules that were registered.
theorem Catalog.mem_of_mem_all {rules : List Rule} {rule : Rule}
    (h : rule ∈ (Catalog.ofRules rules).all) : rule ∈ rules := by
  -- Registration puts one rule after the other into what is there.
  have hstep : ∀ (rules : List Rule) (catalog : Catalog),
      rule ∈ (rules.foldl (fun catalog rule => catalog.register rule) catalog).rules.map (·.2) →
      rule ∈ catalog.rules.map (·.2) ∨ rule ∈ rules := by
    intro rules
    induction rules with
    | nil => intro catalog hmem; exact .inl hmem
    | cons first rest ih =>
      intro catalog hmem
      rcases ih _ hmem with hkept | hrest
      · rcases Entries.value_mem_put hkept with rfl | hold
        · exact .inr (List.mem_cons_self ..)
        · exact .inl hold
      · exact .inr (List.mem_cons_of_mem _ hrest)
  rw [Catalog.all, List.mem_mergeSort] at h
  rcases hstep rules {} h with hnil | hmem
  · cases hnil
  · exact hmem

theorem Catalog.grounded_builtin : ∀ rule ∈ Catalog.builtin.all, rule.Grounded := by
  intro rule hrule
  have hmem := Catalog.mem_of_mem_all hrule
  simp only [List.mem_cons, List.not_mem_nil, or_false] at hmem
  rcases hmem with rfl | rfl | rfl | rfl | rfl | rfl | rfl | rfl | rfl | rfl | rfl | rfl | rfl
  · exact Rules.grounded_headElementOrder
  · exact Rules.grounded_noDefaultStyle
  · exact Rules.grounded_noDuplicateBase
  · exact Rules.grounded_noDuplicateTitle
  · exact Rules.grounded_noInvalidHeadElements
  · exact Rules.grounded_noInvalidHttpEquiv
  · exact Rules.grounded_noInvalidOriginTrial
  · exact Rules.grounded_noMetaCsp
  · exact Rules.grounded_noUnnecessaryPreload
  · exact Rules.grounded_requireViewport
  · exact Rules.grounded_requireTitle
  · exact Rules.grounded_validCharset
  · exact Rules.grounded_validViewport

namespace Linter

-- The active rules of a linter come from its catalog.
theorem mem_all_of_make {catalog : Catalog} {config preset : Json} {overrides : List (Json × Json)}
    {linter : Linter} (h : make catalog config preset overrides = .ok linter) :
    ∀ active ∈ linter.active, active.1 ∈ catalog.all := by
  simp only [make, bind, Except.bind] at h
  split at h
  · cases h
  · split at h
    · cases h
    · obtain rfl := Except.ok.inj h
      intro active hactive
      obtain ⟨rule, hrule, hsome⟩ := List.mem_filterMap.1 hactive
      split at hsome
      · cases hsome
      · obtain rfl := Option.some.inj hsome
        exact hrule
      · cases hsome

theorem reported_of_reports {head : Head} {options : Options} {active : List (Rule × Severity)}
    {found : List Diagnostic} (hactive : ∀ a ∈ active, a.1.Grounded)
    (h : reports head options active = .ok found) : ∀ d ∈ found, head.Reported d := by
  induction active generalizing found with
  | nil =>
    obtain rfl := Except.ok.inj h
    simp
  | cons first rest ih =>
    obtain ⟨rule, severity⟩ := first
    rw [reports] at h
    split at h
    · cases h
    · rename_i own hown
      cases hrest : reports head options rest with
      | error overflow => rw [hrest] at h; cases h
      | ok more =>
        rw [hrest] at h
        obtain rfl := Except.ok.inj h
        intro d hd
        -- The severity that is added says nothing about the element.
        rcases List.mem_append.1 hd with hfirst | hmore
        · obtain ⟨d', hd', rfl⟩ := List.mem_map.1 hfirst
          obtain ⟨e, he, hconcerns⟩ :=
            hactive _ (List.mem_cons_self ..) head options own hown d' hd'
          exact ⟨e, he, hconcerns.tag, hconcerns.span, hconcerns.edits⟩
        · exact ih (fun a ha => hactive a (List.mem_cons_of_mem _ ha)) hrest d hmore

theorem reported_of_lintHeads {linter : Linter} {source : OptionSource} {heads : List Element}
    {found : List Diagnostic} (hactive : ∀ a ∈ linter.active, a.1.Grounded)
    (h : linter.lintHeads source heads = .ok found) :
    ∀ d ∈ found, ∃ head ∈ heads, (Head.of head).Reported d := by
  induction heads generalizing found with
  | nil =>
    obtain rfl := Except.ok.inj h
    simp
  | cons head rest ih =>
    rw [lintHeads] at h
    split at h
    · cases h
    · rename_i own hown
      cases hrest : linter.lintHeads source rest with
      | error failure => rw [hrest] at h; cases h
      | ok more =>
        rw [hrest] at h
        obtain rfl := Except.ok.inj h
        intro d hd
        rcases List.mem_append.1 hd with hfirst | hmore
        · refine ⟨head, List.mem_cons_self .., ?_⟩
          unfold lintHeadFrom lintHead at hown
          split at hown
          · cases hown
          · rename_i options _
            cases hreports : reports (Head.of head) options linter.active with
            | error overflow => rw [hreports] at hown; cases hown
            | ok unsorted =>
              rw [hreports] at hown
              obtain rfl := Except.ok.inj hown
              -- The reports are sorted by position, which loses none and adds none.
              rw [List.mem_mergeSort] at hfirst
              exact reported_of_reports hactive hreports d hfirst
        · obtain ⟨head', hhead', hreported⟩ := ih hrest d hmore
          exact ⟨head', List.mem_cons_of_mem _ hhead', hreported⟩

theorem exists_reported_of_lint {config preset : Json} {overrides : List (Json × Json)}
    {linter : Linter} {source : OptionSource} {html : String} {found : List Diagnostic}
    (hmake : make .builtin config preset overrides = .ok linter)
    (hlint : linter.lint source html = .ok found) {d : Diagnostic} (hd : d ∈ found) :
    ∃ doc, Document.parse html = .ok doc ∧ ∃ head ∈ doc.heads, (Head.of head).Reported d := by
  have hactive : ∀ a ∈ linter.active, a.1.Grounded := fun a ha =>
    Catalog.grounded_builtin _ (mem_all_of_make hmake a ha)
  unfold lint at hlint
  split at hlint
  · cases hlint
  · rename_i doc hparse
    exact ⟨doc, hparse, reported_of_lintHeads hactive hlint d hd⟩

/-- Every report of a linter on a document is about a head of the document or one of its children,
and each of its edits is an edit of that element. -/
theorem exists_concerns_of_lint {config preset : Json} {overrides : List (Json × Json)}
    {linter : Linter} {source : OptionSource} {html : String} {found : List Diagnostic}
    (hmake : make .builtin config preset overrides = .ok linter)
    (hlint : linter.lint source html = .ok found) {d : Diagnostic} (hd : d ∈ found) :
    ∃ doc, Document.parse html = .ok doc ∧
      ∃ head ∈ doc.heads, ∃ e, (e = head ∨ e ∈ head.children) ∧ d.Concerns e := by
  obtain ⟨doc, hparse, head, hhead, e, he, hconcerns⟩ := exists_reported_of_lint hmake hlint hd
  exact ⟨doc, hparse, head, hhead, e, he.imp_left fun hself => hself.1, hconcerns⟩

end Linter

end HeadLint
