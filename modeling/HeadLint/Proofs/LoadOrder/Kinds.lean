import HeadLint.Element.Kinds
import HeadLint.Proofs.Check.Census
import HeadLint.Proofs.Element
import HeadLint.Proofs.LoadOrder.Overlap

/-!
Categories and kinds.  The loading order sorts elements into categories, and the checks look for
elements of certain kinds; both ask for the tag and for keywords, each in its own way, and they mean
the same elements.
-/

namespace HeadLint

open Text

/-! ## Kinds by keywords -/

namespace Element

variable {e : Element}

theorem isPreload_eq (e : Element) : e.isPreload = e.loadsAsPreload := by
  unfold isPreload loadsAsPreload
  cases hrel : e.filled? "rel" with
  | none =>
    rw [keyword_of_filled?_none hrel]
    rfl
  | some rel => rw [keyword_of_filled? hrel]

theorem isViewport_eq (e : Element) :
    e.isViewport = (e.name == "meta" && e.keyword "name" == "viewport") := by
  unfold isViewport
  cases hname : e.filled? "name" with
  | none =>
    rw [keyword_of_filled?_none hname]
    rfl
  | some name => rw [keyword_of_filled? hname]

theorem rel_of_resourceUrl? (hlink : e.name = "link") (h : e.resourceUrl? ≠ none) :
    e.keyword "rel" = "stylesheet" := by
  unfold resourceUrl? at h
  rw [hlink, if_neg (by decide), if_pos (by decide)] at h
  cases hrel : e.filled? "rel" with
  | none =>
    rw [hrel] at h
    exact absurd rfl h
  | some rel =>
    rw [hrel] at h
    dsimp only at h
    split at h
    · rename_i hsheet
      rw [keyword_of_filled? hrel]
      exact eq_of_beq hsheet
    · exact absurd rfl h

end Element

namespace Category

variable {e : Element} {c : Category}

/-! ## The category among those that take an element -/

theorem takes_of (h : of e ≠ .other) : takes (of e) e = true := by
  rw [of_eq_head] at h ⊢
  cases hmatching : matching e with
  | nil =>
    rw [hmatching] at h
    exact absurd rfl h
  | cons first rest =>
    have hmem : first ∈ matching e := by
      rw [hmatching]
      exact List.mem_cons_self ..
    rw [matching_eq_filter] at hmem
    exact (List.mem_filter.1 hmem).2

-- Only a row that overlaps with a later one can take an element away from it.
theorem of_eq_or_overlaps (h : takes c e = true) : of e = c ∨ (of e, c) ∈ overlaps := by
  have hmem : c ∈ matching e := by
    rw [matching_eq_filter]
    exact List.mem_filter.2 ⟨mem_all c, h⟩
  have hpairwise := pairwise_matching e
  rw [of_eq_head]
  cases hmatching : matching e with
  | nil =>
    rw [hmatching] at hmem
    cases hmem
  | cons first rest =>
    rw [hmatching] at hmem hpairwise
    rcases List.mem_cons.1 hmem with rfl | hrest
    · exact .inl rfl
    · exact .inr (List.rel_of_pairwise_cons hpairwise hrest)

theorem of_eq_iff_takes (hother : c ≠ .other) (hfirst : ∀ pair ∈ overlaps, pair.2 ≠ c) :
    of e = c ↔ takes c e = true := by
  constructor
  · rintro rfl
    exact takes_of hother
  · intro h
    rcases of_eq_or_overlaps h with heq | hpair
    · exact heq
    · exact absurd rfl (hfirst _ hpair)

/-! ## Kinds -/

/-- The `http-equiv` values that come early and have no kind of their own. -/
def plainPragmas : List String :=
  ["accept-ch", "content-security-policy", "delegate-ch", "x-dns-prefetch-control"]

theorem mem_earlyPragmas_iff {word : String} :
    word ∈ Element.earlyPragmas ↔
      word = "content-type" ∨ word = "origin-trial" ∨ word = "default-style" ∨
        word ∈ plainPragmas := by
  have hperm : Element.earlyPragmas.Perm
      ("content-type" :: "origin-trial" :: "default-style" :: plainPragmas) := by
    decide
  rw [hperm.mem_iff]
  simp only [List.mem_cons]

theorem takes_pragma_iff :
    takes .pragma e = true ↔
      e.name = "base" ∨ e.declaresEncoding = true ∨ e.isViewport = true ∨ e.isTrial = true ∨
        e.isDefaultStyle = true ∨
        e.name = "meta" ∧ ∃ value, e.attribute? "http-equiv" = some value ∧
          lowered value ∈ plainPragmas := by
  rw [← Element.keyword_mem_iff (by decide), Element.isViewport_eq]
  simp only [takes, Element.loadsAsPragma, Element.declaresEncoding, Element.isTrial,
    Element.isDefaultStyle, Bool.or_eq_true, Bool.and_eq_true, beq_iff_eq, List.contains_iff_mem,
    mem_earlyPragmas_iff, ← and_or_left]
  exact iff_of_eq (by ac_rfl)

theorem of_eq_syncStyles (hlink : e.name = "link") (h : e.resourceUrl? ≠ none) :
    of e = .syncStyles := by
  have htakes : takes .syncStyles e = true := by
    simp [takes, Element.loadsAsSyncStyles, hlink, Element.rel_of_resourceUrl? hlink h]
  rcases of_eq_or_overlaps htakes with heq | hpair
  · exact heq
  · -- Only style elements import others.
    have himport : of e = .importStyles := by simpa [overlaps] using hpair
    have htag := name_mem_tags (takes_of (e := e) (by rw [himport]; decide))
    rw [himport, hlink] at htag
    exact absurd htag (by decide)

theorem of_mem_of_script (hscript : e.name = "script") :
    of e ∈ [.asyncScript, .syncScript, .deferScript, .other] := by
  have htags : ∀ c ∈ all, "script" ∈ tags c → c ∈ [asyncScript, .syncScript, .deferScript] := by
    decide
  by_cases hother : of e = .other
  · rw [hother]
    decide
  · have htag := name_mem_tags (takes_of hother)
    rw [hscript] at htag
    exact List.mem_append_left [.other] (htags _ (mem_all _) htag)

theorem of_eq_title_iff {children : List Element} {i : Nat} (hget : children[i]? = some e) :
    of e = .title ↔ i ∈ (Census.of children).titles := by
  rw [of_eq_iff_takes (by decide) (by decide), (Census.exact_of children).titles.mem_iff]
  simp [hget, takes, Element.loadsAsTitle]

/-- The categories of preloads, titles and settings have the elements of these kinds and no others,
and an element that loads a resource is in a category of style sheets or of scripts. -/
theorem of_iff_kind (e : Element) :
    (of e = .preload ↔ e.isPreload = true) ∧
      (∀ (children : List Element) (i : Nat), children[i]? = some e →
        (of e = .title ↔ i ∈ (Census.of children).titles)) ∧
      (of e = .pragma ↔
        e.name = "base" ∨ e.declaresEncoding = true ∨ e.isViewport = true ∨ e.isTrial = true ∨
          e.isDefaultStyle = true ∨
          e.name = "meta" ∧ ∃ value, e.attribute? "http-equiv" = some value ∧
            lowered value ∈
              ["accept-ch", "content-security-policy", "delegate-ch", "x-dns-prefetch-control"]) ∧
      (e.name = "link" → e.resourceUrl? ≠ none → of e = .syncStyles) ∧
      (e.name = "script" → e.resourceUrl? ≠ none →
        of e ∈ [.asyncScript, .syncScript, .deferScript, .other]) := by
  refine ⟨?_, fun children i => of_eq_title_iff, ?_, of_eq_syncStyles,
    fun hscript _ => of_mem_of_script hscript⟩
  · rw [of_eq_iff_takes (by decide) (by decide), Element.isPreload_eq]
    rfl
  · rw [of_eq_iff_takes (by decide) (by decide)]
    exact takes_pragma_iff

/-- A title, a style sheet, and data that a script element loads. -/
def loadingHead : List Element := [
  { tag := "TITLE" },
  { tag := "Link", attrs := [("REL", some "StyleSheet"), ("href", some "a.css")] },
  { tag := "script", attrs := [("src", some "a.json"), ("type", some "application/json")] }]

theorem of_iff_kind_loadingHead :
    ∃ title sheet data, loadingHead = [title, sheet, data] ∧ of title = .title ∧
      sheet.name = "link" ∧ sheet.resourceUrl? ≠ none ∧ of sheet = .syncStyles ∧
      data.name = "script" ∧ data.resourceUrl? ≠ none ∧
      of data ∈ [.asyncScript, .syncScript, .deferScript, .other] := by
  have hlink : ∀ e ∈ loadingHead[1]?, e.name = "link" ∧ e.resourceUrl? ≠ none := by decide +kernel
  have hscript : ∀ e ∈ loadingHead[2]?, e.name = "script" ∧ e.resourceUrl? ≠ none := by
    decide +kernel
  obtain ⟨hname, hurl⟩ := hlink _ rfl
  obtain ⟨hname', hurl'⟩ := hscript _ rfl
  exact ⟨_, _, _, rfl, ((of_iff_kind _).2.1 loadingHead 0 rfl).2 (by decide +kernel), hname, hurl,
    (of_iff_kind _).2.2.2.1 hname hurl, hname', hurl', (of_iff_kind _).2.2.2.2 hname' hurl'⟩

end Category

end HeadLint
