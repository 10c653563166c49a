import HeadLint.Lint.Template.Fault

/-!
Specifications of how a field is shown: fill and alignment, sign, width, grouping, precision and a
letter for the type, in this order and each of them optional.
-/

namespace HeadLint.Template

/-- Where a value stands in a wider field; `inner` puts the filling between a sign and its
digits. -/
inductive Align where
  | left
  | right
  | center
  | inner
deriving DecidableEq

/-- The alignment that a character stands for. -/
def Align.ofChar? (c : Char) : Option Align :=
  if c == '<' then some .left
  else if c == '>' then some .right
  else if c == '^' then some .center
  else if c == '=' then some .inner
  else none

/-- How a field is shown. -/
structure Spec where
  fill : Char := ' '
  align : Align
  sign : Option Char := none
  dropsNegativeZero : Bool := false
  alternate : Bool := false
  width : Option Nat := none
  grouping : Option Char := none
  precision : Option Nat := none
  type : Char
deriving DecidableEq

namespace Spec

/-- A fill character and an alignment, or an alignment alone, and what follows. -/
def readAlign : List Char → (Option Char × Option Align) × List Char
  | [] => ((none, none), [])
  | [c] =>
    match Align.ofChar? c with
    | some align => ((none, some align), [])
    | none => ((none, none), [c])
  | c :: d :: rest =>
    match Align.ofChar? d, Align.ofChar? c with
    | some align, _ => ((some c, some align), rest)
    | none, some align => ((none, some align), d :: rest)
    | none, none => ((none, none), c :: d :: rest)

/-- A sign option, and what follows. -/
def readSign : List Char → Option Char × List Char
  | c :: rest => if c == ' ' || c == '+' || c == '-' then (some c, rest) else (none, c :: rest)
  | [] => (none, [])

/-- A given character, if it is there, and what follows. -/
def readFlag (mark : Char) : List Char → Bool × List Char
  | c :: rest => if c == mark then (true, rest) else (false, c :: rest)
  | [] => (false, [])

/-- A grouping mark, and what follows; there must not be two of different kinds. -/
def readGrouping (s : List Char) : Except Fault (Option Char × List Char) :=
  let (comma, s) := readFlag ',' s
  let (underscore, s) := readFlag '_' s
  if underscore && (comma || s.head? == some ',') then .error .twoGroupings
  else .ok (if comma then some ',' else if underscore then some '_' else none, s)

/-- A point with a precision, and what follows. -/
def readPrecision : List Char → Except Fault (Option Nat × List Char)
  | '.' :: rest => do
    match ← readNumber rest with
    | (some n, after) => .ok (some n, after)
    | (none, _) => .error .noPrecision
  | s => .ok (none, s)

/-- Types whose digits can be grouped in threes. -/
def groupedTypes : List Char := ['d', 'e', 'f', 'g', 'E', 'G', '%', 'F', '\x00']

/-- Types whose digits can be grouped in fours, by underscores only. -/
def fourGroupedTypes : List Char := ['b', 'o', 'x', 'X']

/-- Whether a grouping mark goes with a type. -/
def allowsGrouping (mark type : Char) : Bool :=
  groupedTypes.contains type || (mark == '_' && fourGroupedTypes.contains type)

/-- Reads a specification for a kind of values, given their usual alignment and type.  A zero before
the width fills with zeros, behind the sign where the usual alignment is to the right. -/
def read (kind : String) (align : Align) (type : Char) (text : List Char) :
    Except Fault Spec := do
  let ((fill, aligned), s) := readAlign text
  let (sign, s) := readSign s
  let (dropsNegativeZero, s) := readFlag 'z' s
  let (alternate, s) := readFlag '#' s
  let (zero, s) := if fill.isNone then readFlag '0' s else (false, s)
  let (width, s) ← readNumber s
  let (grouping, s) ← readGrouping s
  let (precision, s) ← readPrecision s
  if 1 < s.length then .error (.invalidSpec (String.ofList text) kind)
  else
    let type := s.head?.getD type
    let usual := if zero && align == .right then .inner else align
    match grouping.filter fun mark => !allowsGrouping mark type with
    | some mark => .error (.groupedType mark type)
    | none =>
      .ok {
        fill := fill.getD (if zero then '0' else ' ')
        align := aligned.getD usual
        sign, dropsNegativeZero, alternate, width, grouping, precision, type }

/-- The number of digits in a group. -/
def groupSize (spec : Spec) : Nat :=
  if fourGroupedTypes.contains spec.type then 4 else 3

end Spec

end HeadLint.Template
