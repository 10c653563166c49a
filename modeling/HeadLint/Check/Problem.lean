import HeadLint.Json.Value

/-!
What a check of one element finds, before a rule turns it into a diagnostic.
-/

namespace HeadLint

/-- One thing that is wrong with an element. -/
structure Problem where
  code : String
  message : String
  data : Entries Json := []
deriving Inhabited

/-- Optional text as a value. -/
def Json.ofText? : Option String → Json
  | some s => .str s
  | none => .null

end HeadLint
