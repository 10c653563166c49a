import HeadLint.Proofs.Entries
import HeadLint.Proofs.Lint.Signature
import Mathlib.Data.List.Induction
import Mathlib.Data.String.Basic

/-!
What a catalog knows after any run of registrations.  Of each name it keeps the rule that was
registered last, and it lists the rules by name.  The codes are kept apart from the rules, and those
of a rule that was replaced stay listed.
-/

namespace HeadLint

/-! ## Lists of codes -/

-- Repeated elements go, and the rest stays in order.
theorem pairwise_eraseDups {le : String → String → Prop} {codes : List String}
    (h : codes.Pairwise le) : codes.eraseDups.Pairwise fun a b => le a b ∧ a ≠ b := by
  match codes with
  | [] => rw [List.eraseDups_nil]; exact List.Pairwise.nil
  | code :: rest =>
    obtain ⟨hfirst, hrest⟩ := List.pairwise_cons.1 h
    rw [List.eraseDups_cons, List.pairwise_cons]
    refine ⟨fun other hother => ?_, pairwise_eraseDups (hrest.filter _)⟩
    obtain ⟨hmem, hne⟩ := List.mem_filter.1 (List.mem_eraseDups.1 hother)
    refine ⟨hfirst other hmem, ?_⟩
    rintro rfl
    simp at hne
termination_by codes.length
decreasing_by
  exact Nat.lt_succ_of_le (List.length_filter_le _ _)

theorem textLe_iff {a b : String} : textLe a b = true ↔ a ≤ b := by
  rw [textLe, Bool.not_eq_true', decide_eq_false_iff_not, String.not_lt]

theorem pairwise_sortCodes (codes : List String) : (sortCodes codes).Pairwise (· < ·) := by
  have hsorted := List.pairwise_mergeSort textLe_trans textLe_total codes
  refine (pairwise_eraseDups hsorted).imp ?_
  rintro a b ⟨hle, hne⟩
  exact lt_of_le_of_ne (textLe_iff.1 hle) hne

theorem mem_sortCodes {code : String} {codes : List String} :
    code ∈ sortCodes codes ↔ code ∈ codes := by
  rw [sortCodes, List.mem_eraseDups, List.mem_mergeSort]

namespace Catalog

/-! ## One registration -/

/-- The rule that was registered last under its name. -/
def Latest (rules : List Rule) (rule : Rule) : Prop :=
  ∃ before behind, rules = before ++ rule :: behind ∧ ∀ other ∈ behind, other.name ≠ rule.name

-- One more rule is the latest of its name, and leaves the other names alone.
theorem latest_concat {rules : List Rule} {last rule : Rule} :
    Latest (rules ++ [last]) rule ↔ rule = last ∨ Latest rules rule ∧ last.name ≠ rule.name := by
  constructor
  · rintro ⟨before, behind, hrules, hbehind⟩
    rcases List.eq_nil_or_concat behind with rfl | ⟨behind, other, rfl⟩
    · obtain ⟨-, hlast⟩ := List.append_inj' hrules rfl
      exact .inl (List.singleton_inj.1 hlast).symm
    · rw [List.concat_eq_append] at hrules hbehind
      rw [← List.cons_append, ← List.append_assoc] at hrules
      obtain ⟨rfl, hlast⟩ := List.append_inj' hrules rfl
      obtain rfl := List.singleton_inj.1 hlast
      rw [List.forall_mem_append] at hbehind
      exact .inr ⟨⟨before, behind, rfl, hbehind.1⟩, hbehind.2 last (List.mem_singleton.2 rfl)⟩
  · rintro (rfl | ⟨⟨before, behind, rfl, hbehind⟩, hlast⟩)
    · exact ⟨rules, [], rfl, by simp⟩
    · refine ⟨before, behind ++ [last], by simp, ?_⟩
      exact List.forall_mem_append.2 ⟨hbehind, List.forall_mem_singleton.2 hlast⟩

theorem rule?_register (rule : Rule) (catalog : Catalog) (name : String) :
    (catalog.register rule).rule? name =
      if name = rule.name then some rule else catalog.rule? name :=
  Entries.get?_put ..

theorem ofRules_concat (rules : List Rule) (rule : Rule) :
    ofRules (rules ++ [rule]) = (ofRules rules).register rule := by
  rw [ofRules, List.foldl_append, List.foldl_cons, List.foldl_nil, ofRules]

/-! ## Runs of registrations -/

theorem rule?_ofRules_eq_some_iff {rules : List Rule} {name : String} {rule : Rule} :
    (ofRules rules).rule? name = some rule ↔ Latest rules rule ∧ rule.name = name := by
  induction rules using List.reverseRecOn with
  | nil =>
    constructor
    · intro h
      cases h
    · rintro ⟨⟨before, behind, hnil, -⟩, -⟩
      simp at hnil
  | append_singleton rules last ih =>
    rw [ofRules_concat, rule?_register, latest_concat]
    by_cases hname : name = last.name
    · rw [if_pos hname, Option.some_inj]
      constructor
      · rintro rfl
        exact ⟨.inl rfl, hname.symm⟩
      · rintro ⟨rfl | ⟨-, hother⟩, hrule⟩
        · rfl
        · exact absurd (hrule.trans hname).symm hother
    · rw [if_neg hname, ih]
      constructor
      · rintro ⟨hlatest, rfl⟩
        exact ⟨.inr ⟨hlatest, Ne.symm hname⟩, rfl⟩
      · rintro ⟨rfl | ⟨hlatest, -⟩, hrule⟩
        · exact absurd hrule.symm hname
        · exact ⟨hlatest, hrule⟩

theorem codes_ofRules (rules : List Rule) :
    (ofRules rules).codes = rules.flatMap (·.codes) := by
  induction rules using List.reverseRecOn with
  | nil => rfl
  | append_singleton rules last ih =>
    rw [ofRules_concat, register, ih, List.flatMap_append, List.flatMap_singleton]

theorem exists_latest_of_mem {rules : List Rule} {rule : Rule} (h : rule ∈ rules) :
    ∃ kept, Latest rules kept ∧ kept.name = rule.name := by
  induction rules using List.reverseRecOn with
  | nil => cases h
  | append_singleton rules last ih =>
    by_cases hname : last.name = rule.name
    · exact ⟨last, latest_concat.2 (.inl rfl), hname⟩
    rcases List.mem_append.1 h with hmem | hlast
    · obtain ⟨kept, hkept, hsame⟩ := ih hmem
      exact ⟨kept, latest_concat.2 (.inr ⟨hkept, hsame ▸ hname⟩), hsame⟩
    · rw [List.mem_singleton.1 hlast] at hname
      exact absurd rfl hname

/-! ## Lists of rules -/

-- A rule is listed when it is found under its own name.
theorem Indexed.mem_all_iff {catalog : Catalog} (h : catalog.Indexed) {rule : Rule} :
    rule ∈ catalog.all ↔ catalog.rule? rule.name = some rule := by
  rw [all, List.mem_mergeSort, rule?]
  constructor
  · intro hmem
    obtain ⟨⟨name, value⟩, hentry, rfl⟩ := List.mem_map.1 hmem
    have hname : name = value.name := List.map_inj_left.1 h.keys _ hentry
    rw [hname] at hentry
    exact Entries.get?_of_mem h.nodup hentry
  · intro hget
    exact List.mem_map_of_mem (Entries.mem_of_get? hget)

theorem Indexed.pairwise_all {catalog : Catalog} (h : catalog.Indexed) :
    catalog.all.Pairwise fun a b => a.name < b.name := by
  have hsorted : catalog.all.Pairwise fun a b => textLe a.name b.name = true := by
    unfold all
    refine List.pairwise_mergeSort (fun a b c hab hbc => ?_) (fun a b => ?_) _
    · exact textLe_trans a.name b.name c.name hab hbc
    · exact textLe_total a.name b.name
  have hdistinct : catalog.all.Pairwise fun a b => a.name ≠ b.name :=
    List.pairwise_map.1 h.nodup_names
  refine (hsorted.and hdistinct).imp ?_
  rintro a b ⟨hle, hne⟩
  exact lt_of_le_of_ne (textLe_iff.1 hle) hne

/-- A catalog that lists the codes of some rules: all of them, in increasing order, each once. -/
structure ListsCodesOf (catalog : Catalog) (rules : List Rule) : Prop where
  increasing : catalog.allCodes.Pairwise (· < ·)
  mem_iff : ∀ code, code ∈ catalog.allCodes ↔ ∃ rule ∈ rules, code ∈ rule.codes

theorem listsCodesOf_ofRules (rules : List Rule) : (ofRules rules).ListsCodesOf rules := by
  refine ⟨pairwise_sortCodes _, fun code => ?_⟩
  rw [allCodes, mem_sortCodes, codes_ofRules, List.mem_flatMap]

theorem mem_all_ofRules_iff {rules : List Rule} {rule : Rule} :
    rule ∈ (ofRules rules).all ↔ Latest rules rule := by
  rw [(indexed_ofRules rules).mem_all_iff, rule?_ofRules_eq_some_iff]
  exact and_iff_left rfl

/-- After any run of registrations a catalog lists, by name, the rule that was registered last under
each name, and finds the same rules by their names.  It lists the codes of all rules that were ever
registered.  These are the codes of the rules that it has exactly when each code of a rule that was
replaced is also a code of one that was not. -/
theorem all_ofRules_latest (rules : List Rule) :
    (ofRules rules).all.Pairwise (fun a b => a.name < b.name) ∧
    (∀ rule, rule ∈ (ofRules rules).all ↔ Latest rules rule) ∧
    (∀ rule ∈ rules, ∃ kept ∈ (ofRules rules).all, kept.name = rule.name) ∧
    (∀ name rule, (ofRules rules).rule? name = some rule ↔
      rule ∈ (ofRules rules).all ∧ rule.name = name) ∧
    (ofRules rules).ListsCodesOf rules ∧
    ((ofRules rules).ListsCodesOf (ofRules rules).all ↔
      ∀ rule ∈ rules, ¬ Latest rules rule → ∀ code ∈ rule.codes,
        ∃ kept, Latest rules kept ∧ code ∈ kept.codes) := by
  have hcodes := listsCodesOf_ofRules rules
  refine ⟨(indexed_ofRules rules).pairwise_all, fun _ => mem_all_ofRules_iff, ?_, ?_, hcodes, ?_⟩
  · intro rule hrule
    obtain ⟨kept, hkept, hname⟩ := exists_latest_of_mem hrule
    exact ⟨kept, mem_all_ofRules_iff.2 hkept, hname⟩
  · intro name rule
    rw [rule?_ofRules_eq_some_iff, mem_all_ofRules_iff]
  · constructor
    · intro hlists rule hrule _ code hcode
      obtain ⟨kept, hkept, hdeclared⟩ :=
        (hlists.mem_iff code).1 ((hcodes.mem_iff code).2 ⟨rule, hrule, hcode⟩)
      exact ⟨kept, mem_all_ofRules_iff.1 hkept, hdeclared⟩
    · intro hreplaced
      refine ⟨hcodes.increasing, fun code => ?_⟩
      rw [hcodes.mem_iff]
      constructor
      · rintro ⟨rule, hrule, hcode⟩
        by_cases hlatest : Latest rules rule
        · exact ⟨rule, mem_all_ofRules_iff.2 hlatest, hcode⟩
        · obtain ⟨kept, hkept, hdeclared⟩ := hreplaced rule hrule hlatest code hcode
          exact ⟨kept, mem_all_ofRules_iff.2 hkept, hdeclared⟩
      · rintro ⟨rule, hrule, hcode⟩
        exact ⟨rule, Catalog.mem_of_mem_all hrule, hcode⟩

/-- Two rules of one name, the second of which replaces the first. -/
def replacedPair : List Rule :=
  [{ name := "r", codes := ["old"] }, { name := "r", codes := ["new"] }]

/-- The code of the first rule stays listed, although no rule that is left declares it. -/
theorem replaced_code_stays :
    "old" ∈ (ofRules replacedPair).allCodes ∧
      (∀ rule ∈ (ofRules replacedPair).all, "old" ∉ rule.codes) ∧
      ¬ (ofRules replacedPair).ListsCodesOf (ofRules replacedPair).all := by
  have hlisted : "old" ∈ (ofRules replacedPair).allCodes :=
    ((listsCodesOf_ofRules replacedPair).mem_iff "old").2
      ⟨_, List.mem_cons_self .., List.mem_singleton.2 rfl⟩
  have hnone : ∀ rule ∈ (ofRules replacedPair).all, "old" ∉ rule.codes := by
    intro rule hrule
    have hfound := (indexed_ofRules replacedPair).mem_all_iff.1 hrule
    have hname : rule.name = "r" := by
      have hmem := mem_of_mem_all hrule
      simp only [replacedPair, List.mem_cons, List.not_mem_nil, or_false] at hmem
      rcases hmem with rfl | rfl <;> rfl
    rw [hname] at hfound
    obtain rfl := Option.some.inj hfound
    decide
  refine ⟨hlisted, hnone, fun hlists => ?_⟩
  obtain ⟨rule, hrule, hcode⟩ := (hlists.mem_iff "old").1 hlisted
  exact hnone rule hrule hcode

end Catalog

end HeadLint
