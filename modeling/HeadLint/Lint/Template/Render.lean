import HeadLint.Decimal.Fixed
import HeadLint.Json.Display
import HeadLint.Lint.Template.Spec

/-!
Values as a specification wants them shown.  Text is cut and filled up; numbers are brought into a
base or a number of places, grouped, signed and filled up.
-/

namespace HeadLint.Template

open Text

/-- The greatest width that a field can have. -/
def maxWidth : Nat := 100000000

/-- A text in the width of a specification. -/
def fillUp (spec : Spec) (s : List Char) : List Char :=
  let missing := spec.width.getD 0 - s.length
  let before :=
    match spec.align with
    | .left | .inner => 0
    | .right => missing
    | .center => missing / 2
  List.replicate before spec.fill ++ s ++ List.replicate (missing - before) spec.fill

/-- What a specification must not ask of a text. -/
def textFault? (spec : Spec) : Option Fault :=
  match spec.sign with
  | some sign => some (if sign == ' ' then .spacedText else .signedText)
  | none =>
    if spec.dropsNegativeZero then some .zeroedText
    else if spec.alternate then some .alternateText
    else if spec.align == .inner then some .innerText
    else none

/-- A text by a specification: cut to the precision and filled up to the width. -/
def renderText (spec : Spec) (s : List Char) : Except Failure (List Char) :=
  if spec.type != 's' then .error (.fault (.unknownType spec.type "str"))
  else
    match textFault? spec with
    | some fault => .error (.fault fault)
    | none =>
      if maxWidth < spec.width.getD 0 then .error .tooLong
      else .ok (fillUp spec (s.take (spec.precision.getD s.length)))

/-- A number in parts: its sign, the mark of its base, its leading digits, and the rest. -/
structure Numeral where
  negative : Bool := false
  mark : List Char := []
  digits : List Char := []
  rest : List Char := []

/-- The sign of a number, as a specification wants it. -/
def signText (spec : Spec) (negative : Bool) : List Char :=
  if negative then ['-'] else spec.sign.toList.filter (· != '-')

/-- Puts a mark between groups of so many digits, counted from the right. -/
def separate (size : Nat) (mark : Char) (digits : List Char) : List Char :=
  (digits.foldr (fun c (count, done) =>
    (count + 1, if count != 0 && count % size == 0 then c :: mark :: done else c :: done))
    (0, [])).2

/-- Digits filled up with zeros on the left and grouped, so that they take at least a given
width.  A group mark is never the first character. -/
def groupDigits (spec : Spec) (least : Nat) (digits : List Char) : List Char :=
  match spec.grouping with
  | none => Binary64.padLeft least digits
  | some mark =>
    separate spec.groupSize mark
      (Binary64.padLeft (least - (least - 1) / (spec.groupSize + 1)) digits)

/-- A number in the width of a specification.  Zeros behind the sign count as digits of the
number. -/
def renderNumeral (spec : Spec) (n : Numeral) : Except Failure (List Char) :=
  let width := spec.width.getD 0
  let sign := signText spec n.negative
  let others := sign.length + n.mark.length + n.rest.length
  let least := if spec.fill == '0' && spec.align == .inner then width - others else 0
  if maxWidth < width then .error .tooLong
  else
    let digits := if n.digits.isEmpty then [] else groupDigits spec least n.digits
    let body := digits ++ n.rest
    let front := sign ++ n.mark
    let missing := width - (front.length + body.length)
    if spec.align == .inner then .ok (front ++ List.replicate missing spec.fill ++ body)
    else .ok (fillUp spec (front ++ body))

/-- The base of a type of whole numbers. -/
def baseOf (type : Char) : Nat :=
  if type == 'b' then 2
  else if type == 'o' then 8
  else if type == 'x' || type == 'X' then 16
  else 10

/-- The mark of a base. -/
def baseMark (type : Char) : List Char :=
  if baseOf type == 10 then [] else ['0', type]

/-- What a specification must not ask of a whole number. -/
def wholeFault? (spec : Spec) : Option Fault :=
  if spec.precision.isSome then some .preciseWhole
  else if spec.dropsNegativeZero then some .zeroedWhole
  else if spec.type == 'c' && spec.sign.isSome then some .signedCharacter
  else if spec.type == 'c' && spec.alternate then some .alternateCharacter
  else none

/-- The parts of a whole number; as a character it has to be the code of one. -/
def wholeNumeral (spec : Spec) (n : Int) : Except Failure Numeral :=
  match wholeFault? spec with
  | some fault => .error (.fault fault)
  | none =>
    if spec.type == 'c' then
      if n < 0 ∨ 0x10FFFF < n then .error .outOfRange
      else .ok { rest := [Char.ofNat n.toNat] }
    else
      let digits := Nat.toDigits (baseOf spec.type) n.natAbs
      .ok {
        negative := n < 0
        mark := if spec.alternate then baseMark spec.type else []
        digits := if spec.type == 'X' then digits.map Char.toUpper else digits }

/-- A hundred times a number, in double precision. -/
def timesHundred : Binary64 → Binary64
  | .finite negative m e =>
    let (num, den) := Binary64.ratio m e
    Binary64.ofRatio negative (100 * num) den
  | x => x

/-- The figures of a positive number for a type of numbers with a fraction, and how they are
written. -/
def figuresFor (spec : Spec) (m : Nat) (e : Int) : Binary64.Figures × Binary64.FigureLayout :=
  let exponentMark := if spec.type == 'E' || spec.type == 'G' then 'E' else 'e'
  let precision := spec.precision.getD 6
  let hasPlace := spec.type == '\x00'
  let positional := fun (x : Binary64.Figures) (limit : Int) => -4 < x.point && x.point ≤ limit
  if spec.type == 'e' || spec.type == 'E' then
    (Binary64.significantFigures m e (precision + 1),
      ⟨true, precision + 1, spec.alternate, false, exponentMark⟩)
  else if spec.type == 'f' || spec.type == 'F' || spec.type == '%' then
    let x := Binary64.fixedFigures m e precision
    (x, ⟨false, x.digits.length, spec.alternate, false, exponentMark⟩)
  else if hasPlace && spec.precision.isNone then
    let x := Binary64.shortestFigures m e
    (x, ⟨!positional x 16, x.digits.length, spec.alternate, true, exponentMark⟩)
  else
    let count := max 1 precision
    let x := Binary64.significantFigures m e count
    let limit : Int := if hasPlace then (count : Int) - 1 else count
    (x, ⟨!positional x limit, if spec.alternate then count else x.digits.length, spec.alternate,
      hasPlace, exponentMark⟩)

/-- The parts of a double-precision number. -/
def floatNumeral (spec : Spec) (x : Binary64) : Numeral :=
  let percent := if spec.type == '%' then ['%'] else []
  let word := fun (s : String) =>
    if ['E', 'F', 'G'].contains spec.type then s.toList.map Char.toUpper else s.toList
  match if spec.type == '%' then timesHundred x else x with
  | .nan => { rest := word "nan" ++ percent }
  | .infinite negative => { negative, rest := word "inf" ++ percent }
  | .finite negative m e =>
    let (figures, layout) := figuresFor spec m e
    let text := figures.layOut layout
    { negative := negative && !(spec.dropsNegativeZero && figures.digits.all (· == '0'))
      digits := text.takeWhile isAsciiDigit
      rest := text.dropWhile isAsciiDigit ++ percent }

/-- The greatest precision of a number with a fraction. -/
def maxPrecision : Nat := 2147483647

/-- A double-precision number by a specification. -/
def renderFloat (spec : Spec) (x : Binary64) : Except Failure (List Char) :=
  let precision := spec.precision.getD 0
  if maxPrecision < precision then .error (.fault .precisionTooBig)
  else if maxWidth < precision then .error .tooLong
  else renderNumeral spec (floatNumeral spec x)

/-- Types of whole numbers. -/
def wholeTypes : List Char := ['b', 'c', 'd', 'o', 'x', 'X', 'n']

/-- Types of numbers with a fraction. -/
def fractionTypes : List Char := ['e', 'E', 'f', 'F', 'g', 'G', '%']

/-- A whole number by a specification.  For a type with a fraction it becomes a double-precision
number, unless it is too great for one. -/
def renderWhole (kind : String) (spec : Spec) (n : Int) : Except Failure (List Char) :=
  if wholeTypes.contains spec.type then do renderNumeral spec (← wholeNumeral spec n)
  else if fractionTypes.contains spec.type then
    match Binary64.ofInt n with
    | .finite negative m e => renderFloat spec (.finite negative m e)
    | _ => .error .outOfRange
  else .error (.fault (.unknownType spec.type kind))

/-- The name of the kind of a value. -/
def kindName : Json → String
  | .null => "NoneType"
  | .bool _ => "bool"
  | .int _ => "int"
  | .float _ => "float"
  | .str _ => "str"
  | .arr _ => "list"
  | .obj _ => "dict"

/-- A specification for a kind of values, in the terms of a failure. -/
def readSpec (value : Json) (align : Align) (type : Char) (text : List Char) :
    Except Failure Spec :=
  (Spec.read (kindName value) align type text).mapError .fault

/-- A value by the text of a specification.  Without one it is shown as in any message; null, lists
and objects admit none. -/
def render (value : Json) (spec : List Char) : Except Failure (List Char) :=
  if spec.isEmpty then .ok value.display.toList
  else
    match value with
    | .str s => do renderText (← readSpec value .left 's' spec) s.toList
    | .int n => do renderWhole (kindName value) (← readSpec value .right 'd' spec) n
    | .bool b => do renderWhole (kindName value) (← readSpec value .right 'd' spec) b.toInt
    | .float x => do
      let spec ← readSpec value .right '\x00' spec
      if fractionTypes.contains spec.type || spec.type == 'n' || spec.type == '\x00' then
        renderFloat spec x
      else .error (.fault (.unknownType spec.type (kindName value)))
    | .null | .arr _ | .obj _ => .error .wrongKind

end HeadLint.Template
