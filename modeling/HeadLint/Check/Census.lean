import HeadLint.Element.Kinds

/-!
Where the elements that may occur only once stand among the children of a head.
-/

namespace HeadLint

/-- The positions of the children of four kinds, in increasing order. -/
structure Census where
  titles : List Nat := []
  bases : List Nat := []
  encodings : List Nat := []
  viewports : List Nat := []
deriving DecidableEq

namespace Census

/-- Adds a position to a list when a condition holds. -/
def note (condition : Bool) (position : Nat) (positions : List Nat) : List Nat :=
  if condition then positions ++ [position] else positions

/-- Takes one more child into account. -/
def add (census : Census) (child : Element × Nat) : Census :=
  let (e, position) := child
  { titles := note (e.name == "title") position census.titles
    bases := note (e.name == "base") position census.bases
    encodings := note e.declaresEncoding position census.encodings
    viewports := note e.isViewport position census.viewports }

/-- The census of a list of children. -/
def of (children : List Element) : Census :=
  children.zipIdx.foldl add {}

end Census

end HeadLint
