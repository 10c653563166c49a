import HeadLint.Proofs.Check.Census
import HeadLint.Proofs.Check.Charset
import HeadLint.Proofs.Check.Viewport
import HeadLint.Proofs.Lint.Provenance
import HeadLint.Proofs.LoadOrder.Arrangement
import Mathlib.Data.List.Forall2

/-!
Elements that may occur only once.  Some rules look up the children at the positions of the census,
others look for the children themselves and ask the census which of them is the first.  The census
and the children agree, so each rule reports on the children it should, and each position that it
looks up is that of a child.
-/

namespace HeadLint

/-! ## Positions in range -/

theorem position_of_inversions {children : List Element} :
    ∀ v ∈ inversions children, v.position < children.length := by
  intro v hv
  obtain ⟨i, a, b, ha, -, -, rfl⟩ := mem_inversions_iff.1 hv
  exact (List.getElem?_eq_some_iff.1 ha).1

namespace Head

theorem map_fst_each (head : Head) (kind : Element → Bool) :
    (head.each kind).map (·.1) = numbersOf kind head.children.zipIdx := by
  rw [each_eq, List.map_map]
  rfl

/-- Positions of children name one child each. -/
theorem forall₂_select {head : Head} {positions : List Nat}
    (h : ∀ i ∈ positions, i < head.children.length) :
    List.Forall₂ (fun i e => head.children[i]? = some e) positions (head.select positions) := by
  induction positions with
  | nil => exact .nil
  | cons i rest ih =>
    obtain ⟨hi, hrest⟩ := List.forall_mem_cons.1 h
    have hget : head.children[i]? = some head.children[i] := List.getElem?_eq_getElem hi
    unfold select
    rw [List.filterMap_cons, hget]
    exact .cons hget (ih hrest)

/-! ## Reports on positions -/

/-- A report with a code about the child at a position. -/
def About (head : Head) (code : String) (i : Nat) (d : Diagnostic) : Prop :=
  ∃ e, head.children[i]? = some e ∧ d.code = code ∧ d.Concerns e

/-- One report with a code about the head itself when there are no positions, none otherwise. -/
def Misses (head : Head) (code : String) (positions : List Nat) (found : List Diagnostic) : Prop :=
  (positions = [] → ∃ d, found = [d] ∧ d.code = code ∧ d.Concerns head.element) ∧
  (positions ≠ [] → found = [])

/-- A report with a code on each child but the first, with the number of children up to it. -/
def Numbers (head : Head) (code : String) (positions : List Nat) (found : List Diagnostic) : Prop :=
  List.Forall₂ (head.About code) positions.tail found ∧
  found.map (·.data) = (List.range' 2 (positions.length - 1)).map fun n => [("count", .int n)]

/-- One report with a code about the head itself when there are several positions, with how many
there are; none otherwise. -/
def Totals (head : Head) (code : String) (positions : List Nat) (found : List Diagnostic) : Prop :=
  (2 ≤ positions.length → ∃ d, found = [d] ∧ d.code = code ∧ d.Concerns head.element ∧
    d.data = [("count", .int positions.length)]) ∧
  (positions.length < 2 → found = [])

/-- Reports on children of which only the first counts.  The problems of the first are reported, one
by one and with their codes, and each further one is reported once. -/
def FirstCounts (head : Head) (check : Element → List Problem) (codes : List String)
    (again : String) (positions : List Nat) (found : List Diagnostic) : Prop :=
  match positions with
  | [] => found = []
  | first :: more =>
    ∃ e own extra, found = own ++ extra ∧
      head.children[first]? = some e ∧
      List.Forall₂ (fun p d => d.code = p.code ∧ d.code ∈ codes ∧ d.Concerns e) (check e) own ∧
      List.Forall₂ (head.About again) more extra

variable {head : Head} {kind : Element → Bool} {positions : List Nat}

-- Positions increase, so none of the further ones is the first again.
theorem firstCounts_each (hpositions : (head.each kind).map (·.1) = positions)
    (hincreasing : positions.Pairwise (· < ·)) {check : Element → List Problem}
    {codes : List String} {again : String} {reports : Nat × Element → List Diagnostic}
    (rule : RuleInfo)
    (hfirst : ∀ i e, positions.head? = some i →
      List.Forall₂ (fun p d => d.code = p.code ∧ d.code ∈ codes ∧ d.Concerns e) (check e)
        (reports (i, e)))
    (hfurther : ∀ i e, positions.head? ≠ some i → reports (i, e) = [rule.report again e]) :
    head.FirstCounts check codes again positions ((head.each kind).flatMap reports) := by
  have hget : ∀ child ∈ head.each kind, head.children[child.1]? = some child.2 :=
    fun child hchild => getElem?_of_each hchild
  cases heach : head.each kind with
  | nil =>
    rw [heach] at hpositions
    subst hpositions
    rfl
  | cons child rest =>
    rw [heach] at hpositions hget
    subst hpositions
    obtain ⟨hchild, hrest⟩ := List.forall_mem_cons.1 hget
    have hextra : rest.flatMap reports = rest.map fun further => rule.report again further.2 := by
      rw [List.map_eq_flatMap]
      apply List.flatMap_congr
      intro further hmem
      apply hfurther
      have hlater : child.1 < further.1 :=
        List.rel_of_pairwise_cons hincreasing (List.mem_map_of_mem hmem)
      exact fun heq => Nat.ne_of_lt hlater (Option.some.inj heq)
    refine ⟨child.2, reports child, rest.map fun further => rule.report again further.2, ?_, hchild,
      hfirst child.1 child.2 rfl, ?_⟩
    · rw [List.flatMap_cons, hextra]
    · rw [List.forall₂_map_left_iff, List.forall₂_map_right_iff, List.forall₂_same]
      intro further hmem
      exact ⟨further.2, hrest further hmem, rfl, rule.concerns_report _ _ (by simp)⟩

-- Reports on the problems of one element.
theorem forall₂_reportWith (rule : RuleInfo) {e : Element} {problems : List Problem}
    {codes : List String} (hcodes : ∀ p ∈ problems, p.code ∈ codes) {edits : Problem → List Edit}
    (hedits : ∀ p, ∀ edit ∈ edits p, edit.Concerns e) :
    List.Forall₂ (fun p d => d.code = p.code ∧ d.code ∈ codes ∧ d.Concerns e) problems
      (problems.map fun p => rule.reportWith p.code p.message e p.data (edits p)) := by
  rw [List.forall₂_map_right_iff, List.forall₂_same]
  intro p hp
  exact ⟨rfl, hcodes p hp, rule.concerns_reportWith _ _ _ (hedits p)⟩

/-! ## Rules -/

/-- A rule comes to an end on a head, with reports that satisfy a condition. -/
def Finds (head : Head) (options : Options) (rule : Rule) (P : List Diagnostic → Prop) : Prop :=
  ∃ found, rule.check head options = .ok found ∧ P found

/-- The rules on elements that may occur only once agree with the children of a head. -/
structure Counted (head : Head) (options : Options) : Prop where
  census : head.census.Exact head.children
  -- The reports of each rule, by position.
  requireTitle : head.Finds options Rules.requireTitle
    (head.Misses "missingTitle" head.census.titles)
  noDuplicateTitle : head.Finds options Rules.noDuplicateTitle
    (List.Forall₂ (head.About "duplicateTitle") head.census.titles.tail)
  noDuplicateBase : head.Finds options Rules.noDuplicateBase
    (head.Numbers "duplicateBase" head.census.bases)
  validCharset : head.Finds options Rules.validCharset
    (head.FirstCounts Charset.check ["invalidCharset"] "duplicateCharset" head.census.encodings)
  requireViewport : head.Finds options Rules.requireViewport
    (head.Misses "missingViewport" head.census.viewports)
  validViewport : head.Finds options Rules.validViewport fun found =>
    ∃ reports total, found = reports ++ total ∧
      head.FirstCounts Viewport.check Viewport.problemCodes "redundantViewport"
        head.census.viewports reports ∧
      head.Totals "viewportCount" head.census.viewports total
  problemCodes_apart : "redundantViewport" ∉ Viewport.problemCodes ∧
    "viewportCount" ∉ Viewport.problemCodes
  -- The census and a second pass over the children find the same, and what is looked up exists.
  each_encoding : (head.each Element.declaresEncoding).map (·.1) = head.census.encodings
  each_viewport : (head.each Element.isViewport).map (·.1) = head.census.viewports
  lookups : ∀ i ∈ head.census.titles ++ head.census.bases ++
    (inversions head.children).map (·.position), i < head.children.length
  first_viewport : head.each Element.isViewport ≠ [] → head.census.viewports ≠ []

variable {options : Options}

theorem misses_report (head : Head) (rule : RuleInfo) (code : String) (positions : List Nat) :
    head.Misses code positions
      (if positions.isEmpty then [rule.report code head.element] else []) := by
  cases positions with
  | nil => exact ⟨fun _ => ⟨_, rfl, rfl, rule.concerns_report _ _ (by simp)⟩, by simp⟩
  | cons i rest => exact ⟨by simp, fun _ => rfl⟩

theorem finds_noDuplicateTitle (h : ∀ i ∈ head.census.titles, i < head.children.length) :
    head.Finds options Rules.noDuplicateTitle
      (List.Forall₂ (head.About "duplicateTitle") head.census.titles.tail) := by
  refine ⟨_, rfl, ?_⟩
  have hselect := forall₂_select fun i hi => h i (List.mem_of_mem_tail hi)
  rw [List.drop_one, List.forall₂_map_right_iff]
  apply hselect.imp
  intro i e hget
  refine ⟨e, hget, rfl, RuleInfo.concerns_report _ _ _ ?_⟩
  exact List.forall_mem_singleton.2 (RuleInfo.concerns_removeElement ..)

theorem finds_noDuplicateBase (h : ∀ i ∈ head.census.bases, i < head.children.length) :
    head.Finds options Rules.noDuplicateBase
      (head.Numbers "duplicateBase" head.census.bases) := by
  refine ⟨_, rfl, ?_⟩
  have hselect := forall₂_select fun i hi => h i (List.mem_of_mem_tail hi)
  have hlength : head.census.bases.length - 1 = (head.select head.census.bases.tail).length := by
    rw [← hselect.length_eq, List.length_tail]
  rw [List.drop_one]
  constructor
  · rw [← List.zipIdx_map_fst 0 (head.select head.census.bases.tail),
      List.forall₂_map_right_iff] at hselect
    rw [List.forall₂_map_right_iff]
    apply hselect.imp
    intro i child hget
    refine ⟨child.1, hget, rfl, RuleInfo.concerns_report _ _ _ ?_⟩
    exact List.forall_mem_singleton.2 (RuleInfo.concerns_removeElement ..)
  · -- The numbers start with two, as the first base is not reported.
    have hnumbers : List.range' 2 (head.census.bases.length - 1) =
        (head.select head.census.bases.tail).zipIdx.map fun child => 2 + child.2 := by
      rw [hlength, ← List.map_add_range' (a := 2) 0 _ 1, ← List.zipIdx_map_snd, List.map_map]
      rfl
    rw [hnumbers, List.map_map, List.map_map]
    apply List.map_congr_left
    intro child _
    have hcount : (child.2 : Int) + 2 = (2 + child.2 : Nat) := by omega
    show [("count", Json.int (child.2 + 2))] = [("count", Json.int (2 + child.2 : Nat))]
    rw [hcount]

theorem finds_validCharset
    (heach : (head.each Element.declaresEncoding).map (·.1) = head.census.encodings)
    (hincreasing : head.census.encodings.Pairwise (· < ·)) :
    head.Finds options Rules.validCharset
      (head.FirstCounts Charset.check ["invalidCharset"] "duplicateCharset"
        head.census.encodings) := by
  have hcontains : ∀ i, (head.census.encodings.take 1).contains i = true ↔
      head.census.encodings.head? = some i := by
    intro i
    cases head.census.encodings with
    | nil => simp
    | cons first more => simp [eq_comm]
  refine ⟨_, rfl, firstCounts_each heach hincreasing Rules.validCharsetInfo ?_ ?_⟩
  · intro i e hi
    dsimp only
    rw [if_pos ((hcontains i).2 hi)]
    apply forall₂_reportWith
    · intro p hp
      exact List.mem_singleton.2 (Charset.code_eq_of_mem_check p hp)
    · exact fun _ => Rules.concerns_utf8Edits e
  · intro i e hi
    exact if_neg fun hfirst => hi ((hcontains i).1 hfirst)

theorem finds_validViewport
    (heach : (head.each Element.isViewport).map (·.1) = head.census.viewports)
    (hincreasing : head.census.viewports.Pairwise (· < ·)) :
    head.Finds options Rules.validViewport fun found =>
      ∃ reports total, found = reports ++ total ∧
        head.FirstCounts Viewport.check Viewport.problemCodes "redundantViewport"
          head.census.viewports reports ∧
        head.Totals "viewportCount" head.census.viewports total := by
  refine ⟨_, rfl, _, _, rfl, ?_, ?_, ?_⟩
  · apply firstCounts_each heach hincreasing Rules.validViewportInfo
    · intro i e hi
      dsimp only
      rw [if_pos (beq_iff_eq.2 hi)]
      apply forall₂_reportWith
      · exact Viewport.code_mem_problemCodes e
      · exact fun p => Rules.concerns_viewportEdits e p.code
    · intro i e hi
      exact if_neg fun hfirst => hi (beq_iff_eq.1 hfirst)
  · intro hmany
    exact ⟨_, if_pos (by omega), rfl, RuleInfo.concerns_report _ _ _ (by simp), rfl⟩
  · intro hfew
    exact if_neg (by omega)

/-- On every head the census has the children that the rules look for, each rule reports on the
children that its positions name, and no position is out of range. -/
theorem counted_of (element : Element) (options : Options) : (of element).Counted options := by
  have hexact : (of element).census.Exact (of element).children := Census.exact_of element.children
  have hencodings : ((of element).each Element.declaresEncoding).map (·.1) =
      (of element).census.encodings := by
    rw [map_fst_each, of, Census.of_eq]
    rfl
  have hviewports : ((of element).each Element.isViewport).map (·.1) =
      (of element).census.viewports := by
    rw [map_fst_each, of, Census.of_eq]
    rfl
  constructor
  · exact hexact
  · exact ⟨_, rfl, misses_report _ _ _ _⟩
  · exact finds_noDuplicateTitle hexact.titles.lt_length
  · exact finds_noDuplicateBase hexact.bases.lt_length
  · exact finds_validCharset hencodings hexact.encodings.increasing
  · exact ⟨_, rfl, misses_report _ _ _ _⟩
  · exact finds_validViewport hviewports hexact.viewports.increasing
  · decide
  · exact hencodings
  · exact hviewports
  · refine List.forall_mem_append.2 ⟨List.forall_mem_append.2 ⟨?_, ?_⟩, List.forall_mem_map.2 ?_⟩
    · exact hexact.titles.lt_length
    · exact hexact.bases.lt_length
    · exact position_of_inversions
  · intro hsome
    rw [← hviewports]
    exact fun hnone => hsome (List.map_eq_nil_iff.1 hnone)

end Head

end HeadLint
