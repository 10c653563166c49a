import HeadLint.Decimal.Binary64
import HeadLint.Entries

/-!
JSON values.  An object is the list of its members in order; a repeated name keeps its first place
and its last value.
-/

namespace HeadLint

/-- A JSON value; whole numbers are exact, all others double precision. -/
inductive Json where
  | null
  | bool (b : Bool)
  | int (n : Int)
  | float (x : Binary64)
  | str (s : String)
  | arr (items : List Json)
  | obj (members : List (String × Json))
deriving Inhabited

namespace Json

/-- The text of a string value. -/
def str? : Json → Option String
  | .str s => some s
  | _ => none

/-- The member of an object, when the value is an object that has it. -/
def member? (name : String) : Json → Option Json
  | .obj members => Entries.get? name members
  | _ => none

/-- Whether a value counts as nothing: null, false, zero, and everything empty. -/
def isNothing : Json → Bool
  | .null => true
  | .bool b => !b
  | .int n => n == 0
  | .float (.finite _ m _) => m == 0
  | .float _ => false
  | .str s => s.isEmpty
  | .arr items => items.isEmpty
  | .obj members => members.isEmpty

end Json

end HeadLint
