import HeadLint.Decimal.Literal
import HeadLint.Text.Blank
import HeadLint.Text.Search

/-!
Whole numbers written as text.  White space around the number, a plus sign, leading zeros, single
underscores between digits and a fraction of zeros do not count.
-/

namespace HeadLint.Decimal

open Text

/-- Why a text is not a whole number: it is malformed, or it has too many digits. -/
inductive WholeFault where
  | malformed
  | tooLong
deriving DecidableEq

/-- A whole number in its plain form: an optional minus sign and digits, of which a zero is the
first only if it is the last.  With its sign it must not be longer than the greatest number of
digits. -/
def readPlain (s : List Char) : Except WholeFault Int :=
  let negative := s.head? == some '-'
  let body := if negative then s.drop 1 else s
  let digits := body.takeWhile isAsciiDigit
  if digits.head? == some '0' then
    if body.length == 1 then .ok 0 else .error .malformed
  else if DigitOverflow.limit < digits.length + (if negative then 1 else 0) then .error .tooLong
  else if digits.isEmpty || digits.length < body.length then .error .malformed
  else
    let n : Int := ofDigits 10 (digits.filterMap asciiDigit?)
    .ok (if negative then -n else n)

/-- White space that may stand around a number: all of it but the four separators before the
space. -/
def isMargin (c : Char) : Bool :=
  isBlank c && !(28 ≤ c.toNat && c.toNat ≤ 31)

/-- A text without margins. -/
def dropMargins (s : List Char) : List Char :=
  ((s.dropWhile isMargin).reverse.dropWhile isMargin).reverse

/-- A text without a plus sign in front; no minus sign may follow that. -/
def dropPlus? : List Char → Option (List Char)
  | '+' :: '-' :: _ => none
  | '+' :: rest => some rest
  | s => some s

/-- A zero, or an underscore among zeros. -/
def isLeadingZero (c : Char) : Bool :=
  c == '0' || c == '_'

/-- A text without zeros in front.  Of a run of zeros that nothing or a point follows, the last
character stays. -/
def dropZeros? (s : List Char) : Option (List Char) :=
  match s with
  | [] => none
  | first :: _ =>
    if first == '0' then
      match s.dropWhile isLeadingZero with
      | [] => some (s.drop (s.length - 1))
      | c :: rest =>
        if c == '.' then some (s.drop (s.length - rest.length - 2))
        else if isAsciiDigit c then some (c :: rest)
        else none
    else if isAsciiDigit first || first == '-' then some s
    else none

/-- A text without a fraction of zeros, which may also be a point alone. -/
def dropFraction (s : List Char) : List Char :=
  match cutFirst '.' s with
  | (before, some after) => if after.all (· == '0') then before else s
  | (_, none) => s

/-- A text without its underscores, if they stand one by one and inside. -/
def dropUnderscores (s : List Char) : List Char :=
  if s.head? == some '_' || s.getLast? == some '_' || occursIn ['_', '_'] s then s
  else s.filter (· != '_')

/-- The plain form of a number that is written with all that does not count. -/
def plainForm? (s : List Char) : Option (List Char) := do
  let s ← dropPlus? (dropMargins s)
  let s ← dropZeros? s
  some (dropUnderscores (dropFraction s))

/-- Reads a whole text as a whole number. -/
def readWhole (s : List Char) : Except WholeFault Int :=
  match readPlain s, plainForm? s with
  | .error .malformed, some plain => readPlain plain
  | result, _ => result

end HeadLint.Decimal
