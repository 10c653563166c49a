import HeadLint.Json.Value
import HeadLint.Lint.Edit

/-!
Diagnostics: what a rule reports about an element.
-/

namespace HeadLint

/-- One report.  The severity is empty until the linter assigns it. -/
structure Diagnostic where
  rule : String
  code : String
  tag : String
  severity : Option String := none
  message : String
  data : Entries Json := []
  span : Option Span := none
  edits : List Edit := []
deriving Inhabited

namespace Diagnostic

/-- The edit that may be made without asking, if there is one. -/
def fix? (d : Diagnostic) : Option Edit :=
  d.edits.find? (·.automatic)

/-- Where a report stands in the order of reports: at the start of its span, or before all others
when it has none. -/
def position (d : Diagnostic) : Int :=
  match d.span with
  | some span => span.start
  | none => -1

end Diagnostic

end HeadLint
