import HeadLint.Element.Basic
import HeadLint.Proofs.Text.Case

/-!
Attributes of elements: their texts and keywords, and elements with a changed attribute.
-/

namespace HeadLint

open Text

namespace Element

/-! ## Texts and keywords -/

section Texts

variable {e : Element} {attr value : String}

theorem filled?_of_attribute? (h : e.attribute? attr = some value) (hne : value ≠ "") :
    e.filled? attr = some value := by
  rw [filled?, h, Option.filter_some, if_pos (by simpa using hne)]

theorem hasAttribute_of_attribute? (h : e.attribute? attr = some value) :
    e.hasAttribute attr = true := by
  rw [hasAttribute, Option.join_eq_some_iff.1 h]
  rfl

theorem hasAttribute_of_filled? (h : e.filled? attr = some value) : e.hasAttribute attr = true :=
  hasAttribute_of_attribute? (Option.filter_eq_some_iff.1 h).1

theorem keyword_of_filled? (h : e.filled? attr = some value) :
    e.keyword attr = lowered value := by
  rw [keyword, (Option.filter_eq_some_iff.1 h).1]

-- An attribute that is absent, not text or empty has no keyword.
theorem keyword_of_filled?_none (h : e.filled? attr = none) : e.keyword attr = "" := by
  rw [filled?, Option.filter_eq_none_iff] at h
  unfold keyword
  split
  · rename_i value hvalue
    have hempty : value = "" := by simpa using h value hvalue
    subst hempty
    decide
  · rfl

theorem keyword_mem_iff {words : List String} (hwords : "" ∉ words) :
    e.keyword attr ∈ words ↔ ∃ value, e.attribute? attr = some value ∧ lowered value ∈ words := by
  unfold keyword
  cases e.attribute? attr with
  | none => simpa using hwords
  | some value => simp

theorem keyword_ne_empty (h : e.filled? attr = some value) : e.keyword attr ≠ "" := by
  have hne : value ≠ "" := by simpa using (Option.filter_eq_some_iff.1 h).2
  rw [keyword_of_filled? h, lowered]
  intro hempty
  rw [← String.toList_eq_nil_iff, String.toList_ofList, lower_eq_nil_iff] at hempty
  exact hne (String.toList_eq_nil_iff.1 hempty)

end Texts

end Element

/-! ## A changed attribute -/

/-- Attributes with a text as the value of the first one of that name, case ignored. -/
def setValue (name value : String) : Entries (Option String) → Entries (Option String)
  | [] => []
  | (key, old) :: rest =>
    if lowered key == lowered name then (key, some value) :: rest
    else (key, old) :: setValue name value rest

/-- An element with a text as the value of an attribute that it has; all else stays. -/
def Element.withValue (e : Element) (name value : String) : Element :=
  { e with attrs := setValue name value e.attrs }

namespace Element

theorem findAttribute?_withValue {e : Element} {name : String} (value : String)
    (h : e.hasAttribute name = true) :
    (e.withValue name value).findAttribute? name = some (some value) := by
  obtain ⟨old, hold⟩ := Option.isSome_iff_exists.1 h
  have hset : ∀ attrs : Entries (Option String),
      (attrs.find? fun attr => lowered attr.1 == lowered name).map (·.2) = some old →
        ((setValue name value attrs).find? fun attr => lowered attr.1 == lowered name).map (·.2) =
          some (some value) := by
    intro attrs
    induction attrs with
    | nil => intro hnone; cases hnone
    | cons attr rest ih =>
      obtain ⟨key, found⟩ := attr
      intro hfind
      rw [setValue]
      by_cases hkey : (lowered key == lowered name) = true
      · simp only [hkey, if_true, List.find?_cons, Option.map_some]
      · rw [Bool.not_eq_true] at hkey
        simp only [hkey, Bool.false_eq_true, if_false, List.find?_cons] at hfind ⊢
        exact ih hfind
  exact hset e.attrs hold

theorem findAttribute?_withValue_of_ne (e : Element) {name other : String} (value : String)
    (h : lowered other ≠ lowered name) :
    (e.withValue name value).findAttribute? other = e.findAttribute? other := by
  have hset : ∀ attrs : Entries (Option String),
      (setValue name value attrs).find? (fun attr => lowered attr.1 == lowered other) =
        attrs.find? fun attr => lowered attr.1 == lowered other := by
    intro attrs
    induction attrs with
    | nil => rfl
    | cons attr rest ih =>
      obtain ⟨key, old⟩ := attr
      rw [setValue]
      by_cases hkey : (lowered key == lowered name) = true
      · have hother : (lowered key == lowered other) = false := by
          rw [eq_of_beq hkey, beq_eq_false_iff_ne]
          exact Ne.symm h
        simp only [hkey, if_true, List.find?_cons, hother]
      · rw [if_neg hkey, List.find?_cons, List.find?_cons, ih]
  rw [findAttribute?, findAttribute?, withValue, hset]

theorem attribute?_withValue {e : Element} {name : String} (value : String)
    (h : e.hasAttribute name = true) : (e.withValue name value).attribute? name = some value := by
  rw [attribute?, findAttribute?_withValue value h]
  rfl

theorem attribute?_withValue_of_ne (e : Element) {name other : String} (value : String)
    (h : lowered other ≠ lowered name) :
    (e.withValue name value).attribute? other = e.attribute? other := by
  rw [attribute?, findAttribute?_withValue_of_ne e value h, attribute?]

end Element

end HeadLint
