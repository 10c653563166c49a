import HeadLint.Entries
import HeadLint.Span
import HeadLint.Text.Lower

/-!
Elements of a document head, and the look-up of their attributes.
-/

namespace HeadLint

open Text

/-- An element with its attributes, its direct text and its child elements.  The value of an
attribute is missing when it is not text.  Spans are known for an element that was read from
markup; `attrSpans` has the ranges of attribute values, under lower-case names. -/
structure Element where
  tag : String
  attrs : Entries (Option String) := []
  text : String := ""
  children : List Element := []
  span : Option Span := none
  attrSpans : Entries Span := []
deriving Inhabited

namespace Element

/-- The tag in lower case. -/
def name (e : Element) : String :=
  lowered e.tag

/-- The value of the first attribute with this name, case ignored; the inner option is empty when
the value is not text. -/
def findAttribute? (e : Element) (name : String) : Option (Option String) :=
  (e.attrs.find? fun attr => lowered attr.1 == lowered name).map (·.2)

/-- The text of an attribute; nothing when it is absent or not text. -/
def attribute? (e : Element) (name : String) : Option String :=
  (e.findAttribute? name).join

/-- Whether an attribute is present, with whatever value. -/
def hasAttribute (e : Element) (name : String) : Bool :=
  (e.findAttribute? name).isSome

/-- The range of an attribute's value in the source. -/
def attributeSpan? (e : Element) (name : String) : Option Span :=
  Entries.get? (lowered name) e.attrSpans

/-- The text of an attribute in lower case, empty when there is none. -/
def keyword (e : Element) (name : String) : String :=
  match e.attribute? name with
  | some value => lowered value
  | none => ""

/-- The text of an attribute, if it is there and not empty. -/
def filled? (e : Element) (name : String) : Option String :=
  (e.attribute? name).filter fun value => !value.isEmpty

end Element

end HeadLint
