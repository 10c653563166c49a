import HeadLint.Decimal.Binary64
import HeadLint.Text.Digit

/-!
Decimal literals: a sign, a whole part, a fraction and a power of ten, and the number that such a
literal denotes.
-/

namespace HeadLint

/-- A whole number in decimal that is too long to be converted; its digits are counted. -/
structure DigitOverflow where
  count : Nat
deriving DecidableEq

namespace DigitOverflow

/-- The greatest number of digits that are converted. -/
def limit : Nat := 4300

/-- The account of a number that is too long. -/
def message (overflow : DigitOverflow) : String :=
  s!"Exceeds the limit ({limit} digits) for integer string conversion: " ++
    s!"value has {overflow.count} digits; use sys.set_int_max_str_digits() to increase the limit"

/-- The overflow of a numeral of so many digits, if it is too long. -/
def of? (count : Nat) : Option DigitOverflow :=
  if limit < count then some ⟨count⟩ else none

end DigitOverflow

/-- A decimal numeral, taken apart. -/
structure Decimal where
  negative : Bool := false
  whole : List Nat := []
  fraction : List Nat := []
  exponent : Int := 0

namespace Decimal

open Text

/-- The double-precision number nearest to a decimal. -/
def toBinary64 (x : Decimal) : Binary64 :=
  Binary64.ofDecimal x.negative (ofDigits 10 (x.whole ++ x.fraction))
    (x.exponent - x.fraction.length)

/-- The leading digits of a text, by the reading `digit`, and what follows them. -/
def spanDigits (digit : Char → Option Nat) : List Char → List Nat × List Char
  | [] => ([], [])
  | c :: rest =>
    match digit c with
    | some d => let (ds, after) := spanDigits digit rest; (d :: ds, after)
    | none => ([], c :: rest)

/-- An optional sign; `true` for a minus. -/
def readSign : List Char → Bool × List Char
  | '-' :: rest => (true, rest)
  | '+' :: rest => (false, rest)
  | s => (false, s)

/-- An exponent that ends the text, or nothing. -/
def readExponent? : List Char → Option Int
  | [] => some 0
  | c :: rest =>
    if c == 'e' || c == 'E' then
      let (negative, rest) := readSign rest
      match spanDigits digit? rest with
      | (d :: ds, []) =>
        let n : Int := ofDigits 10 (d :: ds)
        some (if negative then -n else n)
      | _ => none
    else none

/-- Reads a whole text as a decimal: an optional sign, digits with an optional point among, before
or after them, and an optional exponent.  Digits of any script count. -/
def read? (s : List Char) : Option Decimal :=
  let (negative, s) := readSign s
  let (whole, s) := spanDigits digit? s
  let (fraction, s) :=
    match s with
    | '.' :: rest => spanDigits digit? rest
    | _ => ([], s)
  if whole.isEmpty && fraction.isEmpty then none
  else (readExponent? s).map fun e => ⟨negative, whole, fraction, e⟩

end Decimal

end HeadLint
