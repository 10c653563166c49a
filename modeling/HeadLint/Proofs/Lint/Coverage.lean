import HeadLint.Proofs.Check.Policy
import HeadLint.Proofs.Lint.Independence
import Mathlib.Data.List.Forall2
import Mathlib.Data.List.Perm.Basic

/-!
Unknown values of `http-equiv`.  One rule reports on all values that no other rule looks after, and
another looks after values that speak of a policy.  A value that only contains the name of a policy
falls between the two: its element is reported when its content is missing or has a directive that
only works in a header, and no rule says anything about it otherwise.
-/

namespace HeadLint

open Text

/-! ## Elements -/

/-- A `meta` element for a header, with a value that has no check of its own. -/
structure Element.UnknownPragma (e : Element) : Prop where
  name : e.name = "meta"
  charset : e.hasAttribute "charset" = false
  value : ∃ value, e.filled? "http-equiv" = some value ∧ lowered value ∉ Pragma.dedicated

/-- An element whose `http-equiv` contains the name of a policy, with a content in which no
directive is one that only works in a header. -/
structure Element.SilentPolicy (e : Element) : Prop where
  value : containsText "content-security-policy" (e.keyword "http-equiv") = true
  content : ∃ content, e.filled? "content" = some content ∧
    ∀ name ∈ Policy.headerOnly.map (·.1), name ∉ Policy.names content.toList

namespace Element.UnknownPragma

variable {e : Element}

theorem keyword_not_mem (h : e.UnknownPragma) : e.keyword "http-equiv" ∉ Pragma.dedicated := by
  obtain ⟨value, hvalue, hdedicated⟩ := h.value
  rwa [keyword_of_filled? hvalue]

theorem keyword_ne (h : e.UnknownPragma) {word : String} (hword : word ∈ Pragma.dedicated) :
    e.keyword "http-equiv" ≠ word :=
  fun heq => h.keyword_not_mem (heq ▸ hword)

theorem isPragma (h : e.UnknownPragma) : e.isPragma = true := by
  obtain ⟨value, hvalue, -⟩ := h.value
  rw [Element.isPragma, h.name, hasAttribute_of_filled? hvalue]
  rfl

theorem check_ne_nil (h : e.UnknownPragma) : Pragma.check e ≠ [] := by
  obtain ⟨value, hvalue, -⟩ := h.value
  have hfilled := keyword_ne_empty hvalue
  have hdedicated := h.keyword_not_mem
  rw [Pragma.check, if_neg (by simpa using ⟨hfilled, hdedicated⟩)]
  exact List.cons_ne_nil _ _

-- Of the rules that may look after the element only the one on policies can be meant.
theorem hasDedicatedRule_eq (h : e.UnknownPragma) : Rules.hasDedicatedRule e = e.isPolicy := by
  have hword : ∀ word ∈ Pragma.dedicated, (e.keyword "http-equiv" == word) = false :=
    fun word hword => beq_eq_false_iff_ne.2 (h.keyword_ne hword)
  rw [Rules.hasDedicatedRule, isTrial, isDefaultStyle, declaresEncoding, h.charset,
    hword "origin-trial" (by decide), hword "default-style" (by decide),
    hword "content-type" (by decide)]
  simp only [Bool.and_false, Bool.or_false]

theorem silentPolicy_iff (h : e.UnknownPragma) :
    e.SilentPolicy ↔ e.isPolicy = true ∧ Policy.check e = [] := by
  rw [Policy.check_eq_nil_iff (h.keyword_ne (by decide)) (h.keyword_ne (by decide)),
    isPolicy, h.name, beq_self_eq_true, Bool.true_and]
  exact ⟨fun hsilent => ⟨hsilent.value, hsilent.content⟩, fun hsilent => ⟨hsilent.1, hsilent.2⟩⟩

end Element.UnknownPragma

/-! ## Reports on one element -/

-- Reports on the children of a kind, as reports on all children.
theorem Head.flatMap_each {head : Head} {kind : Element → Bool}
    {reports : Nat × Element → List Diagnostic} (h : ∀ i e, reports (i, e) = reports (0, e)) :
    (head.each kind).flatMap reports =
      head.children.flatMap fun e => if kind e then reports (0, e) else [] := by
  have hkind : ∀ children : List Element,
      (children.filter kind).flatMap (fun e => reports (0, e)) =
        children.flatMap fun e => if kind e then reports (0, e) else [] := by
    intro children
    induction children with
    | nil => rfl
    | cons e rest ih =>
      rw [List.flatMap_cons, ← ih, List.filter_cons]
      split
      · rw [List.flatMap_cons]
      · rw [List.nil_append]
  calc
    (head.each kind).flatMap reports
      = ((head.each kind).map (·.2)).flatMap fun e => reports (0, e) := by
        rw [List.flatMap_map]
        exact List.flatMap_congr fun child _ => h child.1 child.2
    _ = (head.children.filter kind).flatMap fun e => reports (0, e) := by rw [map_snd_each]
    _ = _ := hkind head.children

namespace Rules

/-- The rule on values reports an unknown one, unless it takes it for a policy. -/
theorem exists_reports_noInvalidHttpEquiv (head : Head) (options : Options) :
    ∃ reports, noInvalidHttpEquiv.check head options = .ok (head.children.flatMap reports) ∧
      (∀ e, ∀ d ∈ reports e, d.Concerns e) ∧
      ∀ e, e.UnknownPragma → (reports e = [] ↔ e.isPolicy = true) := by
  refine ⟨_, congrArg Except.ok (Head.flatMap_each fun _ _ => rfl), fun e => ?_, fun e h => ?_⟩
  · dsimp only
    split
    · split
      · exact List.forall_mem_nil _
      · refine concerns_of_problems _ fun _ => ?_
        split
        · exact List.forall_mem_nil _
        · exact List.forall_mem_singleton.2 (RuleInfo.concerns_removeElement ..)
    · exact List.forall_mem_nil _
  · rw [if_pos h.isPragma]
    dsimp only
    rw [h.hasDedicatedRule_eq]
    split
    · rename_i hpolicy
      exact iff_of_true rfl hpolicy
    · rename_i hpolicy
      exact iff_of_false (fun hnil => h.check_ne_nil (List.map_eq_nil_iff.1 hnil)) hpolicy

/-- The rule on policies reports the problems of every element that it takes for a policy. -/
theorem exists_reports_noMetaCsp (head : Head) (options : Options) :
    ∃ reports, noMetaCsp.check head options = .ok (head.children.flatMap reports) ∧
      (∀ e, ∀ d ∈ reports e, d.Concerns e) ∧
      ∀ e, e.isPolicy = true → (reports e = [] ↔ Policy.check e = []) := by
  refine ⟨_, congrArg Except.ok (Head.flatMap_each fun _ _ => rfl), fun e => ?_, fun e h => ?_⟩
  · dsimp only
    split
    · exact concerns_of_problems _ fun _ =>
        List.forall_mem_singleton.2 (RuleInfo.concerns_removeElement ..)
    · exact List.forall_mem_nil _
  · rw [if_pos h]
    exact List.map_eq_nil_iff

/-- The reports of the two rules on a child: an unknown value has none exactly when it contains the
name of a policy and there is nothing to say about the content. -/
structure PragmaReports (e : Element) (reports : List Diagnostic) : Prop where
  concerns : ∀ d ∈ reports, d.Concerns e
  silent : e.UnknownPragma → (reports = [] ↔ e.SilentPolicy)

end Rules

/-! ## Linters -/

namespace Linter

-- What a rule reports, child by child, is found among all reports in source order.
theorem perm_of_among {rule : Rule} {severity : Severity} {found : List Diagnostic}
    {children : List Element} {reports : Element → List Diagnostic}
    (h : rule.among found =
      (inOrder (children.flatMap reports)).map (Diagnostic.rated severity)) :
    (rule.among found).Perm
      (children.map fun e => (reports e).map (Diagnostic.rated severity)).flatten := by
  rw [h, ← List.flatMap_def, ← List.map_flatMap]
  exact (List.mergeSort_perm _ _).map _

/-- When both rules are active, every child of a head has its reports of the two, one group for each
child, and no others.  So an unknown value is reported, unless it contains the name of a policy and
its content has no directive that only works in a header. -/
theorem reports_unknownPragma {config preset : Json} {overrides : List (Json × Json)}
    {linter : Linter} (hmake : make .builtin config preset overrides = .ok linter)
    (hpragma : linter.Runs Rules.noInvalidHttpEquiv) (hpolicy : linter.Runs Rules.noMetaCsp)
    {options : Options} {head : Element} {found : List Diagnostic}
    (h : linter.lintHead options head = .ok found) :
    ∃ groups,
      (Rules.noInvalidHttpEquiv.among found ++ Rules.noMetaCsp.among found).Perm groups.flatten ∧
      List.Forall₂ Rules.PragmaReports head.children groups := by
  obtain ⟨severity, hactive⟩ := hpragma
  obtain ⟨severity', hactive'⟩ := hpolicy
  obtain ⟨own, hown, hamong⟩ := among_lintHead hmake h hactive
  obtain ⟨own', hown', hamong'⟩ := among_lintHead hmake h hactive'
  obtain ⟨reports, hcheck, hconcerns, hnone⟩ :=
    Rules.exists_reports_noInvalidHttpEquiv (Head.of head) options
  obtain ⟨reports', hcheck', hconcerns', hnone'⟩ :=
    Rules.exists_reports_noMetaCsp (Head.of head) options
  obtain rfl := Except.ok.inj (hown.symm.trans hcheck)
  obtain rfl := Except.ok.inj (hown'.symm.trans hcheck')
  refine ⟨head.children.map fun e => (reports e).map (Diagnostic.rated severity) ++
    (reports' e).map (Diagnostic.rated severity'), ?_, ?_⟩
  · have hboth := (perm_of_among hamong).append (perm_of_among hamong')
    simp only [← List.flatMap_def] at hboth ⊢
    exact hboth.trans (List.flatMap_append_perm _ _ _)
  · rw [List.forall₂_map_right_iff, List.forall₂_same]
    intro e _
    refine ⟨?_, fun hunknown => ?_⟩
    · refine List.forall_mem_append.2 ⟨?_, ?_⟩
      · exact List.forall_mem_map.2 fun d hd => (hconcerns e d hd).rated severity
      · exact List.forall_mem_map.2 fun d hd => (hconcerns' e d hd).rated severity'
    · rw [List.append_eq_nil_iff, List.map_eq_nil_iff, List.map_eq_nil_iff, hnone e hunknown,
        hunknown.silentPolicy_iff]
      exact and_congr_right fun hpolicy => hnone' e hpolicy

/-- A policy under an old name, which no browser takes. -/
def oldPolicy : Element :=
  { tag := "meta"
    attrs :=
      [("http-equiv", some "X-Content-Security-Policy"), ("content", some "default-src 'self'")]
    span := some ⟨6, 80, 1, 6⟩ }

/-- An element for a header that does not exist. -/
def strayPragma : Element :=
  { tag := "meta", attrs := [("http-equiv", some "x-policy")], span := some ⟨80, 110, 1, 80⟩ }

theorem unknownPragma_oldPolicy : oldPolicy.UnknownPragma :=
  ⟨by decide +kernel, by decide +kernel, "X-Content-Security-Policy", by decide +kernel,
    by decide +kernel⟩

theorem silentPolicy_oldPolicy : oldPolicy.SilentPolicy :=
  ⟨by decide +kernel, "default-src 'self'", by decide +kernel, by decide +kernel⟩

theorem unknownPragma_strayPragma : strayPragma.UnknownPragma :=
  ⟨by decide +kernel, by decide +kernel, "x-policy", by decide +kernel, by decide +kernel⟩

theorem not_silentPolicy_strayPragma : ¬ strayPragma.SilentPolicy := by
  intro hsilent
  exact absurd hsilent.value (by decide +kernel)

/-- With all rules active, the one value is reported and the other is not. -/
theorem reports_unknownPragma_oldPolicy :
    oldPolicy.UnknownPragma ∧ strayPragma.UnknownPragma ∧
      ∃ linter found reports,
        make .builtin (.obj []) (.str "all") [] = .ok linter ∧
        (∀ rule ∈ Catalog.builtin.all, linter.Runs rule) ∧
        linter.lintHead { now := ⟨0⟩ } { tag := "head", children := [oldPolicy, strayPragma] } =
          .ok found ∧
        (Rules.noInvalidHttpEquiv.among found ++ Rules.noMetaCsp.among found).Perm reports ∧
        reports ≠ [] ∧ ∀ d ∈ reports, d.Concerns strayPragma := by
  obtain ⟨linter, hmake, hruns⟩ := exists_make_all (.obj [])
  have hpragma : Rules.noInvalidHttpEquiv ∈ Catalog.builtin.all :=
    List.mem_mergeSort.2 (List.mem_of_getElem? (i := 5) rfl)
  have hpolicy : Rules.noMetaCsp ∈ Catalog.builtin.all :=
    List.mem_mergeSort.2 (List.mem_of_getElem? (i := 7) rfl)
  obtain ⟨found, hfound⟩ : ∃ found, linter.lintHead { now := ⟨0⟩ }
      { tag := "head", children := [oldPolicy, strayPragma] } = .ok found :=
    exists_lintHead_of_make hmake fun _ => ⟨[], by rfl⟩
  obtain ⟨groups, hperm, hgroups⟩ :=
    reports_unknownPragma hmake (hruns _ hpragma) (hruns _ hpolicy) hfound
  cases hgroups with
  | cons hold hrest =>
    cases hrest with
    | cons hstray hnil =>
      cases hnil
      rw [(hold.silent unknownPragma_oldPolicy).2 silentPolicy_oldPolicy] at hperm
      have hreported := mt (hstray.silent unknownPragma_strayPragma).1 not_silentPolicy_strayPragma
      refine ⟨unknownPragma_oldPolicy, unknownPragma_strayPragma, linter, found, _, hmake, hruns,
        hfound, ?_, hreported, hstray.concerns⟩
      simpa using hperm

end Linter

end HeadLint
