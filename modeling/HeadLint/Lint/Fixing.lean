import HeadLint.Lint.Linter

/-!
Repeated mending: lint, make the first edit that can be made, and lint again.
-/

namespace HeadLint

/-- One round: the codes that were reported, the edit that was made, and the text after it. -/
structure Round where
  codes : List String
  applied : Option String
  html : String

namespace Linter

/-- The edits of a report that are taken into account: all of them, or only the automatic one. -/
def candidates (automatic : Bool) (d : Diagnostic) : List Edit :=
  if automatic then d.fix?.toList else d.edits

/-- The first edit that has a range. -/
def firstEdit? (automatic : Bool) (found : List Diagnostic) : Option Edit :=
  (found.flatMap (candidates automatic)).find? (·.span.isSome)

/-- At most so many rounds; they end when there is no edit to make. -/
def rounds (linter : Linter) (source : OptionSource) (automatic : Bool) :
    Nat → String → Except LintFailure (List Round)
  | 0, _ => .ok []
  | count + 1, html =>
    match linter.lint source html with
    | .error failure => .error failure
    | .ok found =>
      let codes := found.map (·.code)
      let step? : Option (Edit × List Char) := do
        let edit ← firstEdit? automatic found
        let text ← (edit.applied html.toList).toOption
        some (edit, text)
      match step? with
      | none => .ok [⟨codes, none, html⟩]
      | some (edit, text) =>
        let next := String.ofList text
        (linter.rounds source automatic count next).map (⟨codes, some edit.id, next⟩ :: ·)

end Linter

end HeadLint
