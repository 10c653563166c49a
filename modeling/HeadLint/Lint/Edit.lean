import HeadLint.Span

/-!
Suggested changes of the source text.
-/

namespace HeadLint

/-- What an edit does. -/
inductive Action where
  | replaceValue
  | removeElement
deriving DecidableEq, Inhabited

/-- The name of an action in reports. -/
def Action.name : Action → String
  | .replaceValue => "replace_value"
  | .removeElement => "remove_element"

/-- A suggested change: the replacement of an attribute's value, or the removal of an element,
possibly with the line it stands on.  An automatic one may be made without asking. -/
structure Edit where
  id : String
  message : String
  action : Action
  attr : Option String := none
  replacement : String := ""
  includeLine : Bool := false
  automatic : Bool := false
  span : Option Span := none
deriving DecidableEq, Inhabited

namespace Edit

/-- Indentation. -/
def isIndent (c : Char) : Bool :=
  c == ' ' || c == '\t'

/-- What may stand between the end of an element and the end of its line. -/
def isLineRest (c : Char) : Bool :=
  c == ' ' || c == '\t' || c == '\r'

/-- The place of a position in a text of so many characters: a negative position counts from the
end of the text, and one beyond an end of the text stands there. -/
def place (length : Nat) (position : Int) : Nat :=
  if position < 0 then (length + position).toNat else min position.toNat length

/-- The characters from a position on.  A negative position counts from the end of the text, and
behind that end the text is read once more from its start. -/
def textFrom (source : List Char) (position : Int) : List Char :=
  if position < 0 then source.drop (source.length + position).toNat ++ source
  else source.drop position.toNat

/-- Whether a position opens its line, given the text before it in reverse. -/
def opensLine (before : List Char) : Bool :=
  match before.dropWhile isIndent with
  | [] => true
  | c :: _ => c == '\n'

/-- Widens a range over the indentation before it and the line end after it, if there is nothing
else on its lines; otherwise the range stays as it is.  There is no answer when a position that is
looked at lies outside the text. -/
def lineBounds? (source : List Char) (start stop : Int) : Option (Int × Int) :=
  let length : Int := source.length
  let before := (source.take start.toNat).reverse
  if length < start then none
  else if !opensLine before then some (start, stop)
  else if stop < -length then none
  else
    let after := textFrom source stop
    let lineStart := start - (before.takeWhile isIndent).length
    let lineEnd := stop + (after.takeWhile isLineRest).length
    match after.dropWhile isLineRest with
    | [] => some (if stop ≤ length then (lineStart, lineEnd) else (start, stop))
    | c :: _ => some (if c == '\n' then (lineStart, lineEnd + 1) else (start, stop))

/-- The range that an edit replaces, for a span of the source. -/
def bounds? (edit : Edit) (span : Span) (source : List Char) : Option (Int × Int) :=
  if edit.action = .removeElement ∧ edit.includeLine then lineBounds? source span.start span.stop
  else some (span.start, span.stop)

/-- What an edit puts in the place of its range. -/
def insertion (edit : Edit) : List Char :=
  match edit.action with
  | .replaceValue => edit.replacement.toList
  | .removeElement => []

/-- A text with a range of it replaced. -/
def splice (source insertion : List Char) (start stop : Int) : List Char :=
  source.take (place source.length start) ++ insertion ++ source.drop (place source.length stop)

/-- Why an edit cannot be made: it has no range, or its range lies outside the text. -/
inductive Fault where
  | noRange
  | outsideText
deriving DecidableEq

/-- The source with the edit made. -/
def applied (edit : Edit) (source : List Char) : Except Fault (List Char) :=
  match edit.span with
  | none => .error .noRange
  | some span =>
    match edit.bounds? span source with
    | none => .error .outsideText
    | some (start, stop) => .ok (splice source edit.insertion start stop)

/-- The account of an edit that has no range. -/
def noRangeMessage (edit : Edit) : String :=
  s!"Patch '{edit.id}' has no resolved source range"

end Edit

end HeadLint
