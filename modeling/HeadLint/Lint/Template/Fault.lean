import HeadLint.Text.Digit

/-!
What can be wrong with a message template and with the way a field of it asks to be shown.
-/

namespace HeadLint.Template

/-- What is wrong with a template: with its braces, with the path or the conversion of a field, or
with the specification of how a field is shown. -/
inductive Fault where
  | loneClose
  | loneOpen
  | nestedOpen
  | unclosedField
  | noConversion
  | looseConversion
  | unclosedSpec
  | tooDeep
  | tooManyDigits
  | emptyStep
  | looseStep
  | unclosedItem
  | unknownConversion (c : Char)
  | invalidSpec (spec kind : String)
  | unknownType (type : Char) (kind : String)
  | groupedType (mark type : Char)
  | twoGroupings
  | noPrecision
  | signedText
  | spacedText
  | zeroedText
  | alternateText
  | innerText
  | preciseWhole
  | zeroedWhole
  | signedCharacter
  | alternateCharacter
  | precisionTooBig
deriving DecidableEq

/-- A character as it is named in an account: itself if its code lies after the space and before
`bound`, and its code otherwise. -/
def nameChar (bound : Nat) (c : Char) : String :=
  if 32 < c.toNat && c.toNat < bound then c.toString
  else "\\x" ++ String.ofList (Nat.toDigits 16 c.toNat)

/-- The account of a fault. -/
def Fault.message : Fault → String
  | .loneClose => "Single '\x7d' encountered in format string"
  | .loneOpen => "Single '\x7b' encountered in format string"
  | .nestedOpen => "unexpected '\x7b' in field name"
  | .unclosedField => "expected '\x7d' before end of string"
  | .noConversion => "end of string while looking for conversion specifier"
  | .looseConversion => "expected ':' after conversion specifier"
  | .unclosedSpec => "unmatched '\x7b' in format spec"
  | .tooDeep => "Max string recursion exceeded"
  | .tooManyDigits => "Too many decimal digits in format string"
  | .emptyStep => "Empty attribute in format string"
  | .looseStep => "Only '.' or '[' may follow ']' in format field specifier"
  | .unclosedItem => "Missing ']' in format string"
  | .unknownConversion c => "Unknown conversion specifier " ++ nameChar 127 c
  | .invalidSpec spec kind => s!"Invalid format specifier '{spec}' for object of type '{kind}'"
  | .unknownType type kind =>
    "Unknown format code '" ++ nameChar 128 type ++ s!"' for object of type '{kind}'"
  | .groupedType mark type =>
    "Cannot specify '" ++ mark.toString ++ "' with '" ++ nameChar 128 type ++ "'."
  | .twoGroupings => "Cannot specify both ',' and '_'."
  | .noPrecision => "Format specifier missing precision"
  | .signedText => "Sign not allowed in string format specifier"
  | .spacedText => "Space not allowed in string format specifier"
  | .zeroedText => "Negative zero coercion (z) not allowed in string format specifier"
  | .alternateText => "Alternate form (#) not allowed in string format specifier"
  | .innerText => "'=' alignment not allowed in string format specifier"
  | .preciseWhole => "Precision not allowed in integer format specifier"
  | .zeroedWhole => "Negative zero coercion (z) not allowed in integer format specifier"
  | .signedCharacter => "Sign not allowed with integer format specifier 'c'"
  | .alternateCharacter => "Alternate form (#) not allowed with integer format specifier 'c'"
  | .precisionTooBig => "precision too big"

/-- Why a template is not filled in: a field has no value; the template has a fault; a value lacks
an attribute, is of a kind that does not admit what is asked of it, or lies out of range; or the
text would be too long to be kept. -/
inductive Failure where
  | absent
  | fault (fault : Fault)
  | noAttribute
  | wrongKind
  | outOfRange
  | tooLong
deriving DecidableEq

/-- The greatest number that a template may write down. -/
def maxNumber : Nat := 9223372036854775807

/-- The decimal number at the start of a text, in the digits of any script, and what follows it;
`none` when there are no digits. -/
def readNumber (s : List Char) : Except Fault (Option Nat × List Char) :=
  let digits := s.takeWhile fun c => (Text.digit? c).isSome
  let n := Text.ofDigits 10 (digits.filterMap Text.digit?)
  if maxNumber < n then .error .tooManyDigits
  else .ok (if digits.isEmpty then none else some n, s.drop digits.length)

end HeadLint.Template
