import HeadLint.Decimal.Literal
import HeadLint.Markup.NamedReferences
import HeadLint.Text.Digit

/-!
Character references.  In running text a reference is recognised by the lexer and replaced here;
in an attribute value all references are replaced at once, and a name may be followed by other
letters.
-/

namespace HeadLint.Markup

open Text

/-- What the code points from U+0080 to U+009F mean when they are written as numbers. -/
def windowsChars : List Nat := [
  0x20AC, 0x81, 0x201A, 0x192, 0x201E, 0x2026, 0x2020, 0x2021, 0x2C6, 0x2030, 0x160, 0x2039, 0x152,
  0x8D, 0x17D, 0x8F, 0x90, 0x2018, 0x2019, 0x201C, 0x201D, 0x2022, 0x2013, 0x2014, 0x2DC, 0x2122,
  0x161, 0x203A, 0x153, 0x9D, 0x17E, 0x178
]

/-- The code point meant by a number from 0x80 to 0x9F; any other number means itself. -/
def windowsCode (n : Nat) : Nat :=
  if 0x80 ≤ n ∧ n < 0xA0 then windowsChars.getD (n - 0x80) n else n

/-- A code point as a character; what is none is replaced. -/
def charOf (n : Nat) : Char :=
  if (0xD800 ≤ n ∧ n < 0xE000) ∨ 0x10FFFF < n then '\uFFFD' else Char.ofNat n

/-- The text of a numeric reference in running text. -/
def textOfNumber (n : Nat) : List Char :=
  [if n == 0 then '\uFFFD' else charOf (windowsCode n)]

/-- The text of a name. -/
def textOfName? (name : List Char) : Option (List Char) :=
  let name := String.ofList name
  (namedReferences.find? fun row => row.1 == name).map fun row => row.2.toList

/-- The text of a named reference in running text; an unknown name stays, without its
semicolon. -/
def textOfReference (name : List Char) : List Char :=
  (textOfName? name).getD ('&' :: name)

/-- Code points that a number must not mean: most controls, and those that are no characters. -/
def isForbidden (n : Nat) : Bool :=
  (1 ≤ n && n ≤ 8) || n == 0xB || (0xE ≤ n && n ≤ 0x1F) || n == 0x7F ||
    (0xFDD0 ≤ n && n ≤ 0xFDEF) || (n % 0x10000 == 0xFFFE) || (n % 0x10000 == 0xFFFF)

/-- The text of a numeric reference in an attribute value. -/
def valueOfNumber (n : Nat) : List Char :=
  if n == 0 then ['\uFFFD']
  else if 0x80 ≤ n ∧ n < 0xA0 then [charOf (windowsCode n)]
  else if (0xD800 ≤ n ∧ n < 0xE000) ∨ 0x10FFFF < n then ['\uFFFD']
  else if isForbidden n then []
  else [charOf n]

/-- The text of the longest start of a name, from `length` characters down to two, that may be
written without a semicolon, and the rest of the name. -/
def longestLegacy? (name : List Char) : Nat → Option (List Char)
  | 0 => none
  | length + 1 =>
    if length < 1 then none
    else if legacyNames.contains (String.ofList (name.take (length + 1))) then
      (textOfName? (name.take (length + 1))).map (· ++ name.drop (length + 1))
    else longestLegacy? name length

/-- The text of a named reference in an attribute value, with or without its semicolon. -/
def valueOfName (name : List Char) (closed : Bool) : List Char :=
  let tail := if closed then [';'] else []
  let known :=
    if closed || legacyNames.contains (String.ofList name) then textOfName? name else none
  match known with
  | some text => text
  | none =>
    match longestLegacy? name (if closed then name.length else name.length - 1) with
    | some text => text ++ tail
    | none => '&' :: name ++ tail

/-- Characters that end a name in an attribute value. -/
def endsName (c : Char) : Bool :=
  c == '\t' || c == '\n' || c == '\x0c' || c == ' ' || c == '<' || c == '&' || c == '#' || c == ';'

/-- The greatest length of a name. -/
def maxNameLength : Nat := 32

/-- A semicolon, if there is one. -/
def cutSemicolon : List Char → Bool × List Char
  | ';' :: rest => (true, rest)
  | s => (false, s)

/-- The reference after an ampersand, as its text and what follows it. -/
def readReference? (s : List Char) : Option (List Char × List Char) :=
  let number := fun (base : Nat) (digit : Char → Option Nat) (s : List Char) =>
    match Decimal.spanDigits digit s with
    | ([], _) => none
    | (ds, rest) => some (valueOfNumber (ofDigits base ds), (cutSemicolon rest).2)
  match s with
  | '#' :: 'x' :: rest => number 16 hexDigit? rest
  | '#' :: 'X' :: rest => number 16 hexDigit? rest
  | '#' :: rest => number 10 asciiDigit? rest
  | _ =>
    let name := (s.takeWhile fun c => !endsName c).take maxNameLength
    if name.isEmpty then none
    else
      let (closed, rest) := cutSemicolon (s.drop name.length)
      some (valueOfName name closed, rest)

/-- Replaces the references of an attribute value; the first `skip` characters belong to a
reference already replaced. -/
def unescapeFrom : Nat → List Char → List Char
  | _, [] => []
  | skip + 1, _ :: rest => unescapeFrom skip rest
  | 0, c :: rest =>
    if c == '&' then
      match readReference? rest with
      | some (text, after) => text ++ unescapeFrom (rest.length - after.length) rest
      | none => c :: unescapeFrom 0 rest
    else c :: unescapeFrom 0 rest

/-- An attribute value with its references replaced. -/
def unescape (s : List Char) : List Char :=
  unescapeFrom 0 s

/-- The first decimal reference of an attribute value that has too many digits. -/
def firstOverflow? : List Char → Option DigitOverflow
  | [] => none
  | c :: rest =>
    let digits :=
      if c == '&' && rest.head? == some '#' then (rest.drop 1).takeWhile isAsciiDigit else []
    match DigitOverflow.of? digits.length with
    | some overflow => some overflow
    | none => firstOverflow? rest

end HeadLint.Markup
