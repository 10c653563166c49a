import HeadLint.LoadOrder.Category
import Mathlib.Data.List.Permutation

/-!
Where the rows of the category table overlap.  Rows are told apart by the tag, rows of links by what
they relate to, and rows of scripts by their attributes; two pairs of rows are not told apart, and
only for these two does the order of the table matter.
-/

namespace HeadLint.Category

open Text

/-! ## What tells the rows apart -/

/-- The elements that a category takes. -/
def takes : Category → Element → Bool
  | .pragma, e => e.loadsAsPragma
  | .title, e => e.loadsAsTitle
  | .preconnect, e => e.loadsAsPreconnect
  | .asyncScript, e => e.loadsAsAsyncScript
  | .importStyles, e => e.loadsAsImportStyles
  | .syncScript, e => e.loadsAsSyncScript
  | .syncStyles, e => e.loadsAsSyncStyles
  | .preload, e => e.loadsAsPreload
  | .deferScript, e => e.loadsAsDeferScript
  | .prefetch, e => e.loadsAsPrefetch
  | .other, _ => false

/-- The tags of the elements that a category takes. -/
def tags : Category → List String
  | .pragma => ["base", "meta"]
  | .title => ["title"]
  | .preconnect | .preload | .prefetch => ["link"]
  | .asyncScript | .syncScript | .deferScript => ["script"]
  | .importStyles => ["style"]
  | .syncStyles => ["style", "link"]
  | .other => []

/-- The relations of the links that a category takes. -/
def relations : Category → List String
  | .preconnect => ["preconnect"]
  | .syncStyles => ["stylesheet"]
  | .preload => ["preload", "modulepreload"]
  | .prefetch => ["prefetch", "dns-prefetch", "prerender"]
  | _ => []

/-- The pairs of categories that share elements, in the order of the table. -/
def overlaps : List (Category × Category) :=
  [(.asyncScript, .deferScript), (.importStyles, .syncStyles)]

variable {e : Element} {c c' : Category}

theorem mem_all (c : Category) : c ∈ all := by
  cases c <;> decide

theorem name_mem_tags (h : takes c e = true) : e.name ∈ tags c := by
  cases c <;>
    simp only [takes, Element.loadsAsPragma, Element.loadsAsTitle, Element.loadsAsPreconnect,
      Element.loadsAsAsyncScript, Element.loadsAsImportStyles, Element.loadsAsSyncScript,
      Element.loadsAsSyncStyles, Element.loadsAsPreload, Element.loadsAsDeferScript,
      Element.loadsAsPrefetch, Bool.and_eq_true, Bool.or_eq_true, beq_iff_eq] at h <;>
    grind [tags]

theorem rel_mem_relations (h : takes c e = true) (hlink : e.name = "link") :
    e.keyword "rel" ∈ relations c := by
  have htag := name_mem_tags h
  rw [hlink] at htag
  cases c with
  | preconnect | preload | prefetch | syncStyles =>
    simpa [takes, Element.loadsAsPreconnect, Element.loadsAsPreload, Element.loadsAsPrefetch,
      Element.loadsAsSyncStyles, relations, hlink] using h
  | pragma | title | asyncScript | importStyles | syncScript | deferScript | other =>
    exact absurd htag (by decide)

-- No two categories share a relation.
theorem relations_apart : ∀ c ∈ all, ∀ c' ∈ all, c ≠ c' → ∀ r ∈ relations c, r ∉ relations c' := by
  decide

-- Apart from links, only rows of scripts and of style sheets share a tag.
theorem tags_apart : ∀ c ∈ all, ∀ c' ∈ all, c ≠ c' → ∀ t ∈ tags c, t ∈ tags c' →
    t = "link" ∨ t = "script" ∨ (c, c') ∈ overlaps ∨ (c', c) ∈ overlaps := by
  decide

-- Of the rows of scripts, one overlaps with neither of the other two.
theorem scripts_apart : ∀ c ∈ all, ∀ c' ∈ all, c ≠ c' → "script" ∈ tags c → "script" ∈ tags c' →
    c = .syncScript ∨ c' = .syncScript ∨ (c, c') ∈ overlaps ∨ (c', c) ∈ overlaps := by
  decide

theorem eq_syncScript (hsync : takes .syncScript e = true) (h : takes c e = true)
    (hscript : e.name = "script") : c = .syncScript := by
  have htag := name_mem_tags h
  rw [hscript] at htag
  -- A module says so in its type.
  have hmodule : containsText "module" "module" = true := by decide
  cases c with
  | syncScript => rfl
  | asyncScript => grind [takes, Element.loadsAsSyncScript, Element.loadsAsAsyncScript]
  | deferScript => grind [takes, Element.loadsAsSyncScript, Element.loadsAsDeferScript]
  | pragma | title | preconnect | importStyles | syncStyles | preload | prefetch | other =>
    exact absurd htag (by decide)

/-- Two categories that take the same element are one of the pairs that overlap. -/
theorem overlaps_of_takes (h : takes c e = true) (h' : takes c' e = true) (hne : c ≠ c') :
    (c, c') ∈ overlaps ∨ (c', c) ∈ overlaps := by
  have htag := name_mem_tags h
  have htag' := name_mem_tags h'
  rcases tags_apart c (mem_all c) c' (mem_all c') hne e.name htag htag' with
    hlink | hscript | hoverlap
  · have hrel := rel_mem_relations h hlink
    exact absurd (rel_mem_relations h' hlink)
      (relations_apart c (mem_all c) c' (mem_all c') hne _ hrel)
  · rw [hscript] at htag htag'
    rcases scripts_apart c (mem_all c) c' (mem_all c') hne htag htag' with
      rfl | rfl | hoverlap
    · exact absurd (eq_syncScript h h' hscript).symm hne
    · exact absurd (eq_syncScript h' h hscript) hne
    · exact hoverlap
  · exact hoverlap

/-! ## The categories that take an element -/

/-- Which categories may take an element together: none, one, or one of the two pairs that
overlap. -/
def Shape (categories : List Category) : Prop :=
  categories = [] ∨ (∃ c, categories = [c]) ∨ categories = [.asyncScript, .deferScript] ∨
    categories = [.importStyles, .syncStyles]

theorem table_eq : table = all.dropLast.map fun c => (c, takes c) :=
  rfl

theorem matching_eq_filter (e : Element) : matching e = all.filter (takes · e) := by
  have hall : all = all.dropLast ++ [.other] := rfl
  unfold matching
  rw [table_eq, List.filter_map, List.map_map, hall, List.filter_append]
  simp [Function.comp_def, takes]

theorem pairwise_matching (e : Element) :
    (matching e).Pairwise fun c c' => (c, c') ∈ overlaps := by
  -- The table goes by decreasing weight, and so does each of the pairs.
  have hall : all.Pairwise fun c c' => c'.weight < c.weight := by decide
  have hpairs : ∀ pair ∈ overlaps, pair.2.weight < pair.1.weight := by decide
  rw [matching_eq_filter]
  apply (hall.filter _).imp_of_mem
  intro c c' hc hc' hweight
  have hne : c ≠ c' := by
    intro heq
    rw [heq] at hweight
    exact Nat.lt_irrefl _ hweight
  rcases overlaps_of_takes (List.mem_filter.1 hc).2 (List.mem_filter.1 hc').2 hne with h | h
  · exact h
  · have hreverse : c.weight < c'.weight := hpairs _ h
    omega

theorem shape_of_pairwise {categories : List Category}
    (h : categories.Pairwise fun c c' => (c, c') ∈ overlaps) : Shape categories := by
  -- The second of a pair is not the first of another, so there is no third category.
  have hends : ∀ pair ∈ overlaps, ∀ pair' ∈ overlaps, pair.2 ≠ pair'.1 := by decide
  match categories, h with
  | [], _ => exact .inl rfl
  | [c], _ => exact .inr (.inl ⟨c, rfl⟩)
  | [c, c'], h =>
    have hpair : (c, c') ∈ overlaps := List.rel_of_pairwise_cons h (List.mem_cons_self ..)
    simpa [Shape, overlaps] using hpair
  | c :: c' :: c'' :: rest, h =>
    have hfirst : (c, c') ∈ overlaps := List.rel_of_pairwise_cons h (List.mem_cons_self ..)
    have hsecond : (c', c'') ∈ overlaps :=
      List.rel_of_pairwise_cons h.of_cons (List.mem_cons_self ..)
    exact absurd rfl (hends _ hfirst _ hsecond)

/-- An element that a category takes, alone if it can. -/
def sample : Category → Element
  | .pragma => { tag := "base" }
  | .title => { tag := "title" }
  | .preconnect => { tag := "link", attrs := [("rel", some "preconnect")] }
  | .asyncScript => { tag := "script", attrs := [("src", some "a.js"), ("async", none)] }
  | .importStyles => { tag := "style", text := "@import url(a.css);" }
  | .syncScript => { tag := "script" }
  | .syncStyles => { tag := "style" }
  | .preload => { tag := "link", attrs := [("rel", some "preload")] }
  | .deferScript => { tag := "script", attrs := [("src", some "a.js"), ("defer", none)] }
  | .prefetch => { tag := "link", attrs := [("rel", some "prefetch")] }
  | .other => { tag := "noscript" }

/-- A script that asks for both ways of late loading. -/
def asyncDeferScript : Element :=
  { tag := "script", attrs := [("src", some "a.js"), ("async", none), ("defer", none)] }

theorem matching_asyncDeferScript : matching asyncDeferScript = [.asyncScript, .deferScript] := by
  decide +kernel

theorem matching_sample_importStyles :
    matching (sample .importStyles) = [.importStyles, .syncStyles] := by
  decide +kernel

theorem matching_sample_other : matching (sample .other) = [] := by
  decide +kernel

theorem matching_sample (himport : c ≠ .importStyles) (hother : c ≠ .other) :
    matching (sample c) = [c] := by
  have hall : ∀ c ∈ all, c ≠ .importStyles → c ≠ .other → matching (sample c) = [c] := by
    decide +kernel
  exact hall c (mem_all c) himport hother

-- A style sheet that imports others is a style sheet.
theorem exists_matching_single_iff :
    (∃ e, matching e = [c]) ↔ c ≠ .importStyles ∧ c ≠ .other := by
  constructor
  · rintro ⟨e, he⟩
    have htakes : takes c e = true := by
      have hmem : c ∈ matching e := by
        rw [he]
        exact List.mem_cons_self ..
      rw [matching_eq_filter] at hmem
      exact (List.mem_filter.1 hmem).2
    constructor
    · rintro rfl
      have hstyle : takes .syncStyles e = true := by
        have hname := (Bool.and_eq_true_iff.1 htakes).1
        simp only [takes, Element.loadsAsSyncStyles, hname, Bool.true_or]
      have hmem : .syncStyles ∈ matching e := by
        rw [matching_eq_filter]
        exact List.mem_filter.2 ⟨mem_all _, hstyle⟩
      rw [he] at hmem
      exact absurd hmem (by decide)
    · rintro rfl
      cases htakes
  · rintro ⟨himport, hother⟩
    exact ⟨sample c, matching_sample himport hother⟩

/-! ## The order of the table -/

section Order

variable {rows : List (Category × (Element → Bool))}

/-- The row of one category comes before the row of another. -/
def Before (rows : List (Category × (Element → Bool))) (c c' : Category) : Prop :=
  [c, c'].Sublist (rows.map (·.1))

/-- The categories of all rows that take an element, in the order of the rows. -/
def takers (rows : List (Category × (Element → Bool))) (e : Element) : List Category :=
  (rows.filter fun row => row.2 e).map (·.1)

theorem firstMatch_eq_head (rows : List (Category × (Element → Bool))) (e : Element) :
    firstMatch rows e = (takers rows e).head?.getD .other := by
  unfold firstMatch takers
  rw [List.head?_map, List.head?_filter]
  cases rows.find? fun row => row.2 e <;> rfl

theorem takers_sublist (rows : List (Category × (Element → Bool))) (e : Element) :
    (takers rows e).Sublist (rows.map (·.1)) :=
  List.filter_sublist.map _

theorem takers_perm (h : rows.Perm table) (e : Element) : (takers rows e).Perm (matching e) :=
  (h.filter _).map _

-- Two rows stand in one order only.
theorem not_before_of_before (hnodup : (rows.map (·.1)).Nodup) (h : Before rows c c') :
    ¬ Before rows c' c := by
  unfold Before at *
  generalize rows.map (·.1) = categories at *
  induction categories with
  | nil => cases h
  | cons first rest ih =>
    rw [List.nodup_cons] at hnodup
    intro h'
    cases h with
    | cons _ h =>
      cases h' with
      | cons _ h' => exact ih hnodup.2 h h'
      | cons_cons _ h' => exact hnodup.1 (h.subset (by simp))
    | cons_cons _ h =>
      cases h' with
      | cons _ h' => exact hnodup.1 (h'.subset (by simp))
      | cons_cons _ h' => exact hnodup.1 (h.subset (by simp))

theorem nodup_rows (h : rows.Perm table) : (rows.map (·.1)).Nodup := by
  have htable : (table.map (·.1)).Nodup := by decide
  exact (h.map _).nodup_iff.2 htable

-- Of two rows that take an element, the first decides.
theorem firstMatch_iff_before (h : rows.Perm table) (hpair : matching e = [c, c']) (hne : c ≠ c') :
    firstMatch rows e = c ↔ Before rows c c' := by
  have hperm := takers_perm h e
  have hsublist := takers_sublist rows e
  rw [hpair] at hperm
  rw [firstMatch_eq_head]
  rcases List.perm_pair.1 hperm with heq | heq
  · rw [heq] at hsublist ⊢
    exact iff_of_true rfl hsublist
  · rw [heq] at hsublist ⊢
    exact iff_of_false (fun hhead => hne hhead.symm)
      (not_before_of_before (nodup_rows h) hsublist)

theorem of_eq_head (e : Element) : of e = (matching e).head?.getD .other :=
  firstMatch_eq_head table e

-- Rows that share no element may stand in any order.
theorem firstMatch_of_single (h : rows.Perm table) (hsingle : (matching e).length ≤ 1) :
    firstMatch rows e = of e := by
  have hperm := takers_perm h e
  rw [firstMatch_eq_head, of_eq_head]
  match hmatching : matching e, hsingle with
  | [], _ =>
    rw [hmatching] at hperm
    rw [hperm.eq_nil]
  | [c], _ =>
    rw [hmatching] at hperm
    rw [hperm.eq_singleton]

/-- At most two rows of the table take the same element, in two places only; and the first match
over the rows in another order is the same for all elements exactly when these two pairs of rows
keep their order. -/
theorem firstMatch_perm_iff :
    (∀ e, Shape (matching e)) ∧
      ((∃ e, matching e = []) ∧ (∀ c, (∃ e, matching e = [c]) ↔ c ≠ .importStyles ∧ c ≠ .other) ∧
        (∃ e, matching e = [.asyncScript, .deferScript]) ∧
        ∃ e, matching e = [.importStyles, .syncStyles]) ∧
      ∀ rows : List (Category × (Element → Bool)), rows.Perm table →
        ((∀ e, firstMatch rows e = of e) ↔
          Before rows .asyncScript .deferScript ∧ Before rows .importStyles .syncStyles) := by
  have hshape : ∀ e, Shape (matching e) := fun e => shape_of_pairwise (pairwise_matching e)
  refine ⟨hshape, ⟨⟨_, matching_sample_other⟩, fun c => exists_matching_single_iff,
    ⟨_, matching_asyncDeferScript⟩, _, matching_sample_importStyles⟩, ?_⟩
  intro rows hrows
  constructor
  · intro hsame
    have hof : ∀ {e c c'}, matching e = [c, c'] → of e = c := by
      intro e c c' hpair
      rw [of_eq_head, hpair]
      rfl
    have hscript := (hsame asyncDeferScript).trans (hof matching_asyncDeferScript)
    have hstyle := (hsame (sample .importStyles)).trans (hof matching_sample_importStyles)
    exact ⟨(firstMatch_iff_before hrows matching_asyncDeferScript (by decide)).1 hscript,
      (firstMatch_iff_before hrows matching_sample_importStyles (by decide)).1 hstyle⟩
  · rintro ⟨hscript, hstyle⟩ e
    rcases hshape e with hnone | ⟨c, hone⟩ | hpair | hpair
    · exact firstMatch_of_single hrows (by rw [hnone]; decide)
    · exact firstMatch_of_single hrows (by rw [hone]; exact Nat.le_refl 1)
    · rw [(firstMatch_iff_before hrows hpair (by decide)).2 hscript, of_eq_head, hpair]
      rfl
    · rw [(firstMatch_iff_before hrows hpair (by decide)).2 hstyle, of_eq_head, hpair]
      rfl

end Order

/-- The rows of the table by tag. -/
def regrouped : List (Category × (Element → Bool)) :=
  [.asyncScript, .deferScript, .syncScript, .importStyles, .syncStyles, .prefetch, .preload,
    .preconnect, .title, .pragma].map fun c => (c, takes c)

theorem firstMatch_regrouped :
    regrouped.Perm table ∧ Before regrouped .asyncScript .deferScript ∧
      Before regrouped .importStyles .syncStyles ∧ ∀ e, firstMatch regrouped e = of e := by
  have hperm : regrouped.Perm table := by
    rw [table_eq]
    apply List.Perm.map
    decide
  have hscript : Before regrouped .asyncScript .deferScript := by
    unfold Before
    decide
  have hstyle : Before regrouped .importStyles .syncStyles := by
    unfold Before
    decide
  exact ⟨hperm, hscript, hstyle, (firstMatch_perm_iff.2.2 regrouped hperm).2 ⟨hscript, hstyle⟩⟩

end HeadLint.Category
