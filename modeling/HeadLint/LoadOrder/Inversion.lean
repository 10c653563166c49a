import HeadLint.LoadOrder.Category

/-!
Neighbours in the wrong order.
-/

namespace HeadLint

/-- Two neighbours of which the later weighs more: the child at `position`, of category `current`,
should come after its successor, of category `next`. -/
structure Inversion where
  position : Nat
  current : Category
  next : Category
deriving DecidableEq

/-- The inversions of a list of categories whose first stands at `position`. -/
def inversionsFrom (position : Nat) : List Category → List Inversion
  | current :: next :: rest =>
    let later := inversionsFrom (position + 1) (next :: rest)
    if current.weight < next.weight then ⟨position, current, next⟩ :: later else later
  | _ => []

/-- The inversions among the children of a head, from left to right. -/
def inversions (children : List Element) : List Inversion :=
  inversionsFrom 0 (children.map Category.of)

end HeadLint
