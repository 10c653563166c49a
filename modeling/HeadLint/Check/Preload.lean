import HeadLint.Check.Problem
import HeadLint.Element.Kinds
import HeadLint.Url.Resolve

/-!
Preloads that have no effect, because a script or a style sheet of the same head loads the same
resource.  Two addresses are of the same resource when they have one normal form; which form that is
can be chosen, and is `Url.normalized?` unless another one is given.
-/

namespace HeadLint.Preload

/-- The normal form of an address, if it has one. -/
abbrev NormalForm := Option String → Option String

/-- The resources that scripts and style sheets load, in normal form, each with the name of the
first element that loads it. -/
def discoverable (children : List Element) (normal : NormalForm := Url.normalized?) :
    Entries String :=
  children.foldl
    (fun found e =>
      match normal e.resourceUrl? with
      | some url => if url.isEmpty || Entries.has url found then found else found ++ [(url, e.name)]
      | none => found)
    []

/-- What is wrong with a preload, given what is discoverable anyway. -/
def problem? (found : Entries String) (e : Element) (normal : NormalForm := Url.normalized?) :
    Option Problem :=
  if e.isPreload then do
    let url ← normal (e.attribute? "href")
    let tagName ← Entries.get? url found
    let href := (e.attribute? "href").getD ""
    some {
      code := "unnecessaryPreload"
      message :=
        s!"This preload has little to no effect. \"{href}\" is already discoverable by a " ++
          s!"<{tagName}> element."
      data := [("href", .str href), ("tagName", .str tagName)] }
  else none

/-- The preloads without effect, with their positions, in document order. -/
def find (children : List Element) (normal : NormalForm := Url.normalized?) :
    List (Nat × Element × Problem) :=
  let found := discoverable children normal
  children.zipIdx.filterMap fun (e, i) =>
    (problem? found e normal).map fun problem => (i, e, problem)

end HeadLint.Preload
