import HeadLint.LoadOrder.Inversion
import Mathlib.Data.List.Basic

/-!
The best order of a head.  Only neighbours are compared, and yet a head without inversions is in its
best order as a whole: no child weighs more than one before it, and a stable sort by decreasing
weight moves nothing.
-/

namespace HeadLint

/-- The weight of an element is that of its category. -/
def Element.weight (e : Element) : Nat :=
  (Category.of e).weight

/-! ## Inversions by position -/

/-- The inversion of two categories at a position, if they are in the wrong order. -/
def Inversion.at? (position : Nat) (current next : Category) : Option Inversion :=
  if current.weight < next.weight then some ⟨position, current, next⟩ else none

theorem Inversion.at?_eq_some_iff {position : Nat} {current next : Category} {v : Inversion} :
    at? position current next = some v ↔
      v = ⟨position, current, next⟩ ∧ current.weight < next.weight := by
  unfold at?
  split <;> simp_all [eq_comm]

theorem inversionsFrom_eq (start : Nat) (categories : List Category) :
    inversionsFrom start categories =
      ((categories.zip categories.tail).zipIdx start).filterMap fun pair =>
        Inversion.at? pair.2 pair.1.1 pair.1.2 := by
  fun_induction inversionsFrom start categories with
  | case1 start current next rest later hweight ih =>
    simp only [List.tail_cons, List.zip_cons_cons, List.zipIdx_cons, List.filterMap_cons,
      Inversion.at?, if_pos hweight] at ih ⊢
    rw [← ih]
  | case2 start current next rest later hweight ih =>
    simp only [List.tail_cons, List.zip_cons_cons, List.zipIdx_cons, List.filterMap_cons,
      Inversion.at?, if_neg hweight] at ih ⊢
    rw [← ih]
  | case3 categories start hshort =>
    match categories, hshort with
    | [], _ => rfl
    | [_], _ => rfl
    | current :: next :: rest, hshort => exact absurd rfl (hshort current next rest)

theorem increasing_inversionsFrom (start : Nat) (categories : List Category) :
    (inversionsFrom start categories).Pairwise fun v w => v.position < w.position := by
  have hnumbers : ((categories.zip categories.tail).zipIdx start).Pairwise
      fun pair pair' => pair.2 < pair'.2 := by
    rw [← List.pairwise_map (f := Prod.snd) (R := (· < ·)), List.zipIdx_map_snd]
    exact List.pairwise_lt_range'
  rw [inversionsFrom_eq]
  refine hnumbers.filterMap _ ?_
  intro pair pair' hlt v hv w hw
  rw [(Inversion.at?_eq_some_iff.1 hv).1, (Inversion.at?_eq_some_iff.1 hw).1]
  exact hlt

-- Two categories next to each other, of which the later weighs more.
theorem mem_inversionsFrom_zero_iff {categories : List Category} {v : Inversion} :
    v ∈ inversionsFrom 0 categories ↔
      ∃ i c d, categories[i]? = some c ∧ categories[i + 1]? = some d ∧ c.weight < d.weight ∧
        v = ⟨i, c, d⟩ := by
  simp only [inversionsFrom_eq, List.mem_filterMap, Prod.exists, List.mem_zipIdx_iff_getElem?,
    List.getElem?_zip_eq_some, List.getElem?_tail, Inversion.at?_eq_some_iff]
  constructor
  · rintro ⟨c, d, i, ⟨hc, hd⟩, hv, hweight⟩
    exact ⟨i, c, d, hc, hd, hweight, hv⟩
  · rintro ⟨i, c, d, hc, hd, hweight, hv⟩
    exact ⟨c, d, i, ⟨hc, hd⟩, hv, hweight⟩

/-- An inversion among the children of a head: the child at a position and the next one, which
weighs more, with the categories of both. -/
def Inversion.Among (children : List Element) (v : Inversion) : Prop :=
  ∃ i a b, children[i]? = some a ∧ children[i + 1]? = some b ∧ a.weight < b.weight ∧
    v = ⟨i, Category.of a, Category.of b⟩

theorem mem_inversions_iff {children : List Element} {v : Inversion} :
    v ∈ inversions children ↔ v.Among children := by
  rw [inversions, mem_inversionsFrom_zero_iff]
  simp only [List.getElem?_map, Option.map_eq_some_iff]
  constructor
  · rintro ⟨i, _, _, ⟨a, ha, rfl⟩, ⟨b, hb, rfl⟩, hweight, hv⟩
    exact ⟨i, a, b, ha, hb, hweight, hv⟩
  · rintro ⟨i, a, b, ha, hb, hweight, hv⟩
    exact ⟨i, _, _, ⟨a, ha, rfl⟩, ⟨b, hb, rfl⟩, hweight, hv⟩

/-! ## Heads without inversions -/

-- Neighbours that are in order, from one to the next.
theorem inversionsFrom_eq_nil_iff (start : Nat) (categories : List Category) :
    inversionsFrom start categories = [] ↔
      (categories.map Category.weight).IsChain (· ≥ ·) := by
  fun_induction inversionsFrom start categories with
  | case1 start current next rest later hweight ih =>
    rw [List.map_cons, List.map_cons, List.isChain_cons_cons]
    exact iff_of_false (List.cons_ne_nil _ _) fun h => absurd h.1 (Nat.not_le.2 hweight)
  | case2 start current next rest later hweight ih =>
    rw [List.map_cons, List.map_cons, List.isChain_cons_cons, ih, List.map_cons]
    exact (and_iff_right (Nat.not_lt.1 hweight)).symm
  | case3 categories start hshort =>
    match categories, hshort with
    | [], _ => simp
    | [_], _ => simp
    | current :: next :: rest, hshort => exact absurd rfl (hshort current next rest)

theorem inversions_eq_nil_iff {children : List Element} :
    inversions children = [] ↔ children.Pairwise fun a b => b.weight ≤ a.weight := by
  rw [inversions, inversionsFrom_eq_nil_iff, List.isChain_iff_pairwise, List.map_map,
    List.pairwise_map]
  rfl

/-! ## The best order -/

/-- The children of a head in their best order: by decreasing weight, and among children of one
weight as they stand. -/
def arranged (children : List Element) : List Element :=
  children.mergeSort fun a b => decide (b.weight ≤ a.weight)

/-- A stable sort of the children of a head by decreasing weight. -/
structure Arrangement (children sorted : List Element) : Prop where
  perm : sorted.Perm children
  decreasing : sorted.Pairwise fun a b => b.weight ≤ a.weight
  stable : ∀ w, (sorted.filter fun e => e.weight == w) = children.filter fun e => e.weight == w

theorem heavier_trans (a b c : Element) (hab : decide (b.weight ≤ a.weight) = true)
    (hbc : decide (c.weight ≤ b.weight) = true) : decide (c.weight ≤ a.weight) = true := by
  rw [decide_eq_true_eq] at *
  exact Nat.le_trans hbc hab

theorem heavier_total (a b : Element) :
    (decide (b.weight ≤ a.weight) || decide (a.weight ≤ b.weight)) = true := by
  rw [Bool.or_eq_true, decide_eq_true_eq, decide_eq_true_eq]
  exact Nat.le_total _ _

theorem arrangement_arranged (children : List Element) :
    Arrangement children (arranged children) := by
  have hperm : (arranged children).Perm children := List.mergeSort_perm _ _
  refine ⟨hperm, ?_, fun w => ?_⟩
  · apply (List.pairwise_mergeSort heavier_trans heavier_total children).imp
    exact of_decide_eq_true
  · -- The children of one weight are in order already, so the sort keeps them in this order.
    have hequal : (children.filter fun e => e.weight == w).Pairwise
        fun a b => decide (b.weight ≤ a.weight) = true := by
      apply List.pairwise_of_forall_mem_list
      intro a ha b hb
      have hsame : b.weight = a.weight :=
        (eq_of_beq (List.mem_filter.1 hb).2).trans (eq_of_beq (List.mem_filter.1 ha).2).symm
      exact decide_eq_true (Nat.le_of_eq hsame)
    have hkept := List.sublist_mergeSort heavier_trans heavier_total hequal List.filter_sublist
    have hfilter := hkept.filter fun e => e.weight == w
    rw [List.filter_filter] at hfilter
    simp only [Bool.and_self] at hfilter
    exact (hfilter.eq_of_length (hperm.filter _).length_eq.symm).symm

theorem arranged_eq_self_iff {children : List Element} :
    arranged children = children ↔ children.Pairwise fun a b => b.weight ≤ a.weight := by
  constructor
  · intro h
    rw [← h]
    exact (arrangement_arranged children).decreasing
  · intro h
    exact List.mergeSort_of_pairwise (h.imp decide_eq_true)

/-- The inversions of a head are all its neighbours of which the later weighs more, from left to
right.  There are none exactly when no child weighs more than one before it, which is when the head
is in its best order; and in a head without inversions children may be left out. -/
theorem inversions_arranged (children : List Element) :
    ((inversions children).Pairwise fun v w => v.position < w.position) ∧
      (∀ v, v ∈ inversions children ↔ v.Among children) ∧
      (inversions children = [] ↔ children.Pairwise fun a b => b.weight ≤ a.weight) ∧
      (inversions children = [] ↔ arranged children = children) ∧
      Arrangement children (arranged children) ∧ inversions (arranged children) = [] ∧
      ∀ kept : List Element, kept.Sublist children →
        inversions children = [] → inversions kept = [] := by
  have harranged := arrangement_arranged children
  refine ⟨increasing_inversionsFrom _ _, fun v => mem_inversions_iff, inversions_eq_nil_iff,
    inversions_eq_nil_iff.trans arranged_eq_self_iff.symm, harranged,
    inversions_eq_nil_iff.2 harranged.decreasing, ?_⟩
  intro kept hkept hnone
  exact inversions_eq_nil_iff.2 ((inversions_eq_nil_iff.1 hnone).sublist hkept)

/-- A title, a deferred script and an icon. -/
def titledHead : List Element := [
  { tag := "title" },
  { tag := "script", attrs := [("src", some "a.js"), ("defer", none)] },
  { tag := "link", attrs := [("rel", some "icon")] }]

theorem inversions_arranged_titledHead :
    inversions titledHead = [] ∧ arranged titledHead = titledHead ∧
      inversions (titledHead.eraseIdx 1) = [] := by
  have hnone : inversions titledHead = [] := by decide +kernel
  obtain ⟨-, -, -, harranged, -, -, hkept⟩ := inversions_arranged titledHead
  exact ⟨hnone, harranged.1 hnone, hkept _ (List.eraseIdx_sublist _ _) hnone⟩

-- In the opposite order each neighbour should come after the next one.
example : inversions titledHead.reverse =
    [⟨0, .other, .deferScript⟩, ⟨1, .deferScript, .title⟩] := by
  decide +kernel

end HeadLint
