import HeadLint.Calendar
import HeadLint.Check.Census
import HeadLint.Decimal.Literal
import HeadLint.Lint.Diagnostic
import HeadLint.Lint.Template

/-!
Rules.  A rule has a name, message templates, the codes it may report, and a check of one head.
-/

namespace HeadLint

open Text

/-- A head under examination: the element itself and the census of its children. -/
structure Head where
  element : Element
  census : Census

namespace Head

/-- A head with its census. -/
def of (element : Element) : Head :=
  ⟨element, Census.of element.children⟩

/-- The children of the head element, which the rules look at. -/
def children (head : Head) : List Element :=
  head.element.children

/-- The children that satisfy a condition, with their positions. -/
def each (head : Head) (p : Element → Bool) : List (Nat × Element) :=
  head.children.zipIdx.filterMap fun (e, i) => if p e then some (i, e) else none

/-- The children at given positions. -/
def select (head : Head) (positions : List Nat) : List Element :=
  positions.filterMap fun i => head.children[i]?

end Head

/-- What rules are told besides the head: the origin of the site, if it is known, and the time. -/
structure Options where
  expectedOrigin : Option String := none
  now : Instant

/-- The description of a rule. -/
structure RuleInfo where
  name : String
  messages : Entries String := []
  description : String := ""
  category : String := ""
  kind : String := "problem"
  codes : List String := []
deriving Inhabited

/-- The order of texts by code points, for sorting. -/
def textLe (a b : String) : Bool :=
  !decide (b < a)

/-- Of two texts one comes first. -/
theorem textLe_total (a b : String) : (textLe a b || textLe b a) = true := by
  by_cases h : b < a
  · have : ¬ a < b := fun h' => String.lt_irrefl a (String.lt_trans h' h)
    simp [textLe, this]
  · simp [textLe, h]

/-- The order of texts is transitive. -/
theorem textLe_trans (a b c : String) (hab : textLe a b = true) (hbc : textLe b c = true) :
    textLe a c = true := by
  simp only [textLe, Bool.not_eq_true', decide_eq_false_iff_not, String.not_lt] at *
  exact String.le_trans hab hbc

/-- Codes in increasing order, each once. -/
def sortCodes (codes : List String) : List String :=
  (codes.mergeSort textLe).eraseDups

namespace RuleInfo

/-- The template of a message; an unknown message is its own template. -/
def template (rule : RuleInfo) (id : String) : String :=
  (Entries.get? id rule.messages).getD id

/-- A message with its fields filled in, or why that is not possible. -/
def describe (rule : RuleInfo) (id : String) (data : Entries Json) :
    Except Template.Failure String :=
  Template.fill (rule.template id) data

/-- A message with its fields filled in; a template that cannot be filled in stays as it is. -/
def say (rule : RuleInfo) (id : String) (data : Entries Json) : String :=
  match rule.describe id data with
  | .ok text => text
  | .error _ => rule.template id

/-- A report about an element with a given message. -/
def reportWith (rule : RuleInfo) (code message : String) (e : Element)
    (data : Entries Json := []) (edits : List Edit := []) : Diagnostic :=
  { rule := rule.name, code, tag := e.name, message, data, span := e.span, edits }

/-- A report about an element with the message that belongs to the code. -/
def report (rule : RuleInfo) (code : String) (e : Element)
    (data : Entries Json := []) (edits : List Edit := []) : Diagnostic :=
  rule.reportWith code (rule.say code data) e data edits

/-- The replacement of an attribute's value, with a given message. -/
def replacement (id message : String) (e : Element) (attr replacement : String) : Edit :=
  { id, message, action := .replaceValue, attr := some (lowered attr), replacement
    span := e.attributeSpan? attr }

/-- The removal of an element, with a given message. -/
def removal (id message : String) (e : Element) (includeLine automatic : Bool := false) : Edit :=
  { id, message, action := .removeElement, includeLine, automatic, span := e.span }

/-- The replacement of an attribute's value, with the message of this name. -/
def replaceValue (rule : RuleInfo) (id : String) (e : Element) (attr text : String) : Edit :=
  replacement id (rule.say id []) e attr text

/-- The removal of an element, with the message of this name. -/
def removeElement (rule : RuleInfo) (id : String) (e : Element)
    (includeLine automatic : Bool := false) (data : Entries Json := []) : Edit :=
  removal id (rule.say id data) e includeLine automatic

end RuleInfo

/-- A rule: its description and its check. -/
structure Rule extends RuleInfo where
  check : Head → Options → Except DigitOverflow (List Diagnostic) := fun _ _ => .ok []

end HeadLint
