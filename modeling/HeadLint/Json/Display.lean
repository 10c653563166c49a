import HeadLint.Decimal.Shortest
import HeadLint.Json.Value
import HeadLint.Text.Hidden

/-!
Values as they appear inside messages: a string stands for itself, and inside a list or an object
it is quoted.  A whole number is shown in full.  One of more digits than are converted
(`DigitOverflow.limit`) has no text to be shown as; the reader lets none in, and such values are set
aside here.
-/

namespace HeadLint.Json

open Text

/-- A number in hexadecimal, filled up with zeros to a width. -/
def hexText (width n : Nat) : List Char :=
  let digits := (Nat.toDigits 16 n)
  List.replicate (width - digits.length) '0' ++ digits

/-- A character by its code, in as many hexadecimal digits as needed of two, four and eight. -/
def escapeChar (c : Char) : List Char :=
  if c.toNat < 0x100 then '\\' :: 'x' :: hexText 2 c.toNat
  else if c.toNat < 0x10000 then '\\' :: 'u' :: hexText 4 c.toNat
  else '\\' :: 'U' :: hexText 8 c.toNat

/-- A character inside quotation marks. -/
def quoteChar (mark c : Char) : List Char :=
  if c == mark || c == '\\' then ['\\', c]
  else if c == '\n' then ['\\', 'n']
  else if c == '\r' then ['\\', 'r']
  else if c == '\t' then ['\\', 't']
  else if isHidden c then escapeChar c
  else [c]

/-- A string in single quotes, or in double quotes when it has single ones and no double ones. -/
def quoted (s : String) : String :=
  let mark := if s.toList.contains '\x27' && !s.toList.contains '"' then '"' else '\x27'
  String.ofList (mark :: s.toList.flatMap (quoteChar mark) ++ [mark])

mutual

/-- A value inside a list or an object. -/
def displayInner : Json → String
  | .null => "None"
  | .bool b => if b then "True" else "False"
  | .int n => toString n
  | .float x => x.toText
  | .str s => quoted s
  | .arr items => "[" ++ ", ".intercalate (displayItems items) ++ "]"
  | .obj members => "\x7b" ++ ", ".intercalate (displayMembers members) ++ "\x7d"

/-- The items of a list, each as it is shown. -/
def displayItems : List Json → List String
  | [] => []
  | v :: rest => displayInner v :: displayItems rest

/-- The members of an object, each as its quoted name and its value. -/
def displayMembers : List (String × Json) → List String
  | [] => []
  | (name, v) :: rest => (quoted name ++ ": " ++ displayInner v) :: displayMembers rest

end

/-- A value inside a message. -/
def display : Json → String
  | .str s => s
  | v => displayInner v

end HeadLint.Json
