import HeadLint.Check.Census
import Mathlib.Data.List.Basic

/-!
The census of a head has the positions of the children of each kind, all of them and in increasing
order.
-/

namespace HeadLint

/-- The positions of all children of a kind, in increasing order. -/
structure Positions (kind : Element → Bool) (children : List Element) (positions : List Nat) :
    Prop where
  increasing : positions.Pairwise (· < ·)
  mem_iff : ∀ i, i ∈ positions ↔ ∃ e, children[i]? = some e ∧ kind e = true

/-- The children of a kind among numbered children, by their numbers. -/
def numbersOf (kind : Element → Bool) (children : List (Element × Nat)) : List Nat :=
  (children.filter fun child => kind child.1).map (·.2)

theorem positions_numbersOf (kind : Element → Bool) (children : List Element) :
    Positions kind children (numbersOf kind children.zipIdx) := by
  constructor
  · have hsublist : (numbersOf kind children.zipIdx).Sublist (children.zipIdx.map (·.2)) :=
      List.filter_sublist.map _
    rw [List.zipIdx_map_snd] at hsublist
    exact List.Pairwise.sublist hsublist List.pairwise_lt_range'
  · intro i
    unfold numbersOf
    simp only [List.mem_map, List.mem_filter, List.mem_zipIdx_iff_getElem?]
    constructor
    · rintro ⟨⟨e, j⟩, ⟨hget, hkind⟩, rfl⟩
      exact ⟨e, hget, hkind⟩
    · rintro ⟨e, hget, hkind⟩
      exact ⟨(e, i), ⟨hget, hkind⟩, rfl⟩

theorem Positions.lt_length {kind : Element → Bool} {children : List Element}
    {positions : List Nat} (h : Positions kind children positions) :
    ∀ i ∈ positions, i < children.length := by
  intro i hi
  obtain ⟨e, hget, -⟩ := (h.mem_iff i).1 hi
  exact (List.getElem?_eq_some_iff.1 hget).1

namespace Census

theorem note_numbersOf (kind : Element → Bool) (child : Element × Nat)
    (rest : List (Element × Nat)) (positions : List Nat) :
    note (kind child.1) child.2 positions ++ numbersOf kind rest =
      positions ++ numbersOf kind (child :: rest) := by
  unfold note numbersOf
  by_cases h : kind child.1 = true
  · rw [if_pos h, List.filter_cons, if_pos h, List.map_cons, List.append_assoc,
      List.singleton_append]
  · rw [if_neg h, List.filter_cons, if_neg h]

-- Each further child adds its number to the lists of its kinds.
theorem foldl_add (children : List (Element × Nat)) (census : Census) :
    children.foldl add census =
      { titles := census.titles ++ numbersOf (·.name == "title") children
        bases := census.bases ++ numbersOf (·.name == "base") children
        encodings := census.encodings ++ numbersOf Element.declaresEncoding children
        viewports := census.viewports ++ numbersOf Element.isViewport children } := by
  induction children generalizing census with
  | nil => simp [numbersOf]
  | cons child rest ih =>
    rw [List.foldl_cons, ih]
    simp only [← note_numbersOf]
    rfl

theorem of_eq (children : List Element) :
    of children =
      { titles := numbersOf (·.name == "title") children.zipIdx
        bases := numbersOf (·.name == "base") children.zipIdx
        encodings := numbersOf Element.declaresEncoding children.zipIdx
        viewports := numbersOf Element.isViewport children.zipIdx } := by
  unfold of
  rw [foldl_add]
  simp only [List.nil_append]

/-- A census with the positions of all children of each kind. -/
structure Exact (children : List Element) (census : Census) : Prop where
  titles : Positions (·.name == "title") children census.titles
  bases : Positions (·.name == "base") children census.bases
  encodings : Positions Element.declaresEncoding children census.encodings
  viewports : Positions Element.isViewport children census.viewports

theorem exact_of (children : List Element) : (of children).Exact children := by
  rw [of_eq]
  constructor <;> apply positions_numbersOf

end Census

end HeadLint
