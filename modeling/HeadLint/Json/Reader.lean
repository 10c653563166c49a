import HeadLint.Decimal.Literal
import HeadLint.Json.Value

/-!
Reading JSON.  The reader walks over the text once, with a stack of the arrays and objects that are
open and a note of what may come next.  Every fault carries the offset of the character at which it
shows.  Beyond the standard, `NaN`, `Infinity` and `-Infinity` are numbers.

A text is a sequence of characters, so it has no place for half of a surrogate pair.  Texts in which
one is escaped are set aside: they are read, with the replacement character in its place.
-/

namespace HeadLint.Json

open Text

/-- What is wrong with a malformed text. -/
inductive Cause where
  | value
  | propertyName
  | colon
  | comma
  | extraData
  | unterminatedString
  | controlCharacter
  | escape
  | unicodeEscape
  | byteOrderMark
deriving DecidableEq

/-- The account of a cause, without the place. -/
def Cause.message : Cause → String
  | .value => "Expecting value"
  | .propertyName => "Expecting property name enclosed in double quotes"
  | .colon => "Expecting ':' delimiter"
  | .comma => "Expecting ',' delimiter"
  | .extraData => "Extra data"
  | .unterminatedString => "Unterminated string starting at"
  | .controlCharacter => "Invalid control character at"
  | .escape => "Invalid \\escape"
  | .unicodeEscape => "Invalid \\uXXXX escape"
  | .byteOrderMark => "Unexpected UTF-8 BOM (decode using utf-8-sig)"

/-- Why reading failed: the text is malformed at an offset, or a whole number in it has more digits
than are converted. -/
inductive Fault where
  | malformed (cause : Cause) (offset : Nat)
  | tooManyDigits (overflow : DigitOverflow)
deriving DecidableEq

/-- Line and column of an offset, both counted from one; only a line feed ends a line. -/
def lineAndColumn (source : List Char) (offset : Nat) : Nat × Nat :=
  let before := source.take offset
  (before.count '\n' + 1, (before.reverse.takeWhile (· != '\n')).length + 1)

/-- The account of a malformed text, with line, column and offset. -/
def malformedMessage (source : List Char) (cause : Cause) (offset : Nat) : String :=
  let (line, column) := lineAndColumn source offset
  s!"{cause.message}: line {line} column {column} (char {offset})"

/-- White space between JSON tokens. -/
def isSpace (c : Char) : Bool :=
  c == ' ' || c == '\t' || c == '\n' || c == '\r'

/-- The four hexadecimal digits at the start of a text that has at least one more character. -/
def hexUnit? : List Char → Option Nat
  | a :: b :: c :: d :: _ :: _ => do
    some (ofDigits 16 [← hexDigit? a, ← hexDigit? b, ← hexDigit? c, ← hexDigit? d])
  | _ => none

/-- The first half of a code point written as two units. -/
def isHighSurrogate (n : Nat) : Bool := 0xD800 ≤ n && n < 0xDC00

/-- The second half of a code point written as two units. -/
def isLowSurrogate (n : Nat) : Bool := 0xDC00 ≤ n && n < 0xE000

/-- The character of a single code unit; a surrogate that stands alone is replaced, since it is not a
character. -/
def unitChar (n : Nat) : Char :=
  if isHighSurrogate n || isLowSurrogate n then '\uFFFD' else Char.ofNat n

/-- The escape after a backslash at offset `pos`: its character, and how many characters after the
backslash it takes.  Two code units that form a pair are one character. -/
def readEscape (quote pos : Nat) : List Char → Except Fault (Char × Nat)
  | [] => .error (.malformed .unterminatedString quote)
  | e :: rest =>
    match e with
    | '"' => .ok ('"', 1)
    | '\\' => .ok ('\\', 1)
    | '/' => .ok ('/', 1)
    | 'b' => .ok ('\x08', 1)
    | 'f' => .ok ('\x0c', 1)
    | 'n' => .ok ('\n', 1)
    | 'r' => .ok ('\r', 1)
    | 't' => .ok ('\t', 1)
    | 'u' =>
      match hexUnit? rest with
      | none => .error (.malformed .unicodeEscape (pos + 1))
      | some n =>
        match isHighSurrogate n, rest.drop 4 with
        | true, '\\' :: 'u' :: tail =>
          if tail.length < 5 then .ok (unitChar n, 5)
          else
            match hexUnit? tail with
            | none => .error (.malformed .unicodeEscape (pos + 7))
            | some m =>
              if isLowSurrogate m then
                .ok (Char.ofNat (0x10000 + (n - 0xD800) * 0x400 + (m - 0xDC00)), 11)
              else .ok (unitChar n, 5)
        | _, _ => .ok (unitChar n, 5)
    | _ => .error (.malformed .escape pos)

/-- The characters of a string from offset `pos` on, and the offset after its closing quote; the
first `skip` characters are passed over.  The string was opened at offset `quote`. -/
def readString (quote : Nat) : Nat → Nat → List Char → Except Fault (List Char × Nat)
  | _, _, [] => .error (.malformed .unterminatedString quote)
  | skip + 1, pos, _ :: rest => readString quote skip (pos + 1) rest
  | 0, pos, c :: rest =>
    if c == '"' then .ok ([], pos + 1)
    else if c == '\\' then do
      let (ch, extra) ← readEscape quote pos rest
      let (s, after) ← readString quote extra (pos + 1) rest
      .ok (ch :: s, after)
    else if c.toNat < 0x20 then .error (.malformed .controlCharacter pos)
    else do
      let (s, after) ← readString quote 0 (pos + 1) rest
      .ok (c :: s, after)

/-- The digits after a point, when there is a point with a digit after it. -/
def readFraction? : List Char → Option (List Nat × List Char)
  | '.' :: rest =>
    match Decimal.spanDigits asciiDigit? rest with
    | ([], _) => none
    | found => some found
  | _ => none

/-- The exponent, when there is a mark with digits after it. -/
def readPower? : List Char → Option (Int × List Char)
  | c :: rest =>
    if c == 'e' || c == 'E' then
      let (negative, rest) := Decimal.readSign rest
      match Decimal.spanDigits asciiDigit? rest with
      | ([], _) => none
      | (ds, after) =>
        let n : Int := ofDigits 10 ds
        some (if negative then -n else n, after)
    else none
  | [] => none

/-- A number at the start of a text, as long as can be, and what follows it.  Without fraction and
exponent it is a whole number. -/
def readNumber (s : List Char) : Option (Except Fault Json × List Char) :=
  let (negative, digits) :=
    match s with
    | '-' :: rest => (true, rest)
    | _ => (false, s)
  let (whole, rest) :=
    match digits with
    | '0' :: rest => ([0], rest)
    | _ => Decimal.spanDigits asciiDigit? digits
  if whole.isEmpty then none
  else
    let (fraction, rest₁) := (readFraction? rest).getD ([], rest)
    let (power, rest₂) := (readPower? rest₁).getD (0, rest₁)
    if rest₂.length < rest.length then
      some (.ok (.float (Decimal.toBinary64 ⟨negative, whole, fraction, power⟩)), rest₂)
    else
      match DigitOverflow.of? whole.length with
      | some overflow => some (.error (.tooManyDigits overflow), rest)
      | none =>
        let n : Int := ofDigits 10 whole
        some (.ok (.int (if negative then -n else n)), rest)

/-- The words that stand for a value. -/
def keywords : List (String × Json) := [
  ("null", .null), ("true", .bool true), ("false", .bool false), ("NaN", .float .nan),
  ("Infinity", .float (.infinite false)), ("-Infinity", .float (.infinite true))
]

/-- An array or object that is not yet closed; items stand in reverse. -/
inductive Frame where
  | items (done : List Json)
  | members (done : List (String × Json))
  | member (done : List (String × Json)) (name : String)

/-- What may come next. -/
inductive Expect where
  | value
  | itemOrClose
  | nameOrClose
  | name
  | colon
  | commaOrClose
  | nothing (result : Json)

/-- What is wrong when something else comes, or nothing. -/
def Expect.cause : Expect → Cause
  | .value | .itemOrClose => .value
  | .nameOrClose | .name => .propertyName
  | .colon => .colon
  | .commaOrClose => .comma
  | .nothing _ => .extraData

/-- Where reading stands: what is open, innermost first, and what may come next. -/
structure State where
  stack : List Frame := []
  expect : Expect := .value

/-- A finished value goes into the innermost open frame, or is the result. -/
def State.deliver (v : Json) : List Frame → State
  | [] => ⟨[], .nothing v⟩
  | .items done :: outer => ⟨.items (v :: done) :: outer, .commaOrClose⟩
  | .member done name :: outer => ⟨.members (Entries.put name v done) :: outer, .commaOrClose⟩
  | .members done :: outer => ⟨.members done :: outer, .commaOrClose⟩

/-- A value that starts at offset `pos`: the state after its first token, and how many characters
after the first that token takes. -/
def readValue (pos : Nat) (stack : List Frame) (s : List Char) : Except Fault (State × Nat) :=
  match s with
  | '[' :: _ => .ok (⟨.items [] :: stack, .itemOrClose⟩, 0)
  | '\x7b' :: _ => .ok (⟨.members [] :: stack, .nameOrClose⟩, 0)
  | '"' :: rest => do
    let (text, after) ← readString pos 0 (pos + 1) rest
    .ok (State.deliver (.str (String.ofList text)) stack, after - pos - 1)
  | _ =>
    match keywords.find? fun k => k.1.toList.isPrefixOf s with
    | some (word, v) => .ok (State.deliver v stack, word.length - 1)
    | none =>
      match readNumber s with
      | some (found, after) => do
        .ok (State.deliver (← found) stack, s.length - after.length - 1)
      | none => .error (.malformed .value pos)

/-- A member name that starts at offset `pos`. -/
def readName (pos : Nat) (done : List (String × Json)) (outer : List Frame) (rest : List Char) :
    Except Fault (State × Nat) := do
  let (text, after) ← readString pos 0 (pos + 1) rest
  .ok (⟨.member done (String.ofList text) :: outer, .colon⟩, after - pos - 1)

/-- One token at offset `pos`, where the text does not start with white space. -/
def step (pos : Nat) (st : State) (s : List Char) : Except Fault (State × Nat) :=
  match st.expect, st.stack, s with
  | .itemOrClose, .items done :: outer, ']' :: _ =>
    .ok (State.deliver (.arr done.reverse) outer, 0)
  | .itemOrClose, stack, s => readValue pos stack s
  | .value, stack, s => readValue pos stack s
  | .nameOrClose, .members done :: outer, '\x7d' :: _ => .ok (State.deliver (.obj done) outer, 0)
  | .nameOrClose, .members done :: outer, '"' :: rest => readName pos done outer rest
  | .name, .members done :: outer, '"' :: rest => readName pos done outer rest
  | .colon, stack, ':' :: _ => .ok (⟨stack, .value⟩, 0)
  | .commaOrClose, .items done :: outer, ']' :: _ =>
    .ok (State.deliver (.arr done.reverse) outer, 0)
  | .commaOrClose, .items done :: outer, ',' :: _ => .ok (⟨.items done :: outer, .value⟩, 0)
  | .commaOrClose, .members done :: outer, '\x7d' :: _ => .ok (State.deliver (.obj done) outer, 0)
  | .commaOrClose, .members done :: outer, ',' :: _ => .ok (⟨.members done :: outer, .name⟩, 0)
  | expect, _, _ => .error (.malformed expect.cause pos)

/-- Reads on from offset `pos`; the first `skip` characters belong to a token already read. -/
def readFrom : Nat → Nat → State → List Char → Except Fault Json
  | _, pos, st, [] =>
    match st.expect with
    | .nothing v => .ok v
    | expect => .error (.malformed expect.cause pos)
  | skip + 1, pos, st, _ :: rest => readFrom skip (pos + 1) st rest
  | 0, pos, st, c :: rest =>
    if isSpace c then readFrom 0 (pos + 1) st rest
    else
      match step pos st (c :: rest) with
      | .error fault => .error fault
      | .ok (st, extra) => readFrom extra (pos + 1) st rest

/-- The value that a text denotes. -/
def read (s : List Char) : Except Fault Json :=
  if s.head? = some '\uFEFF' then .error (.malformed .byteOrderMark 0) else readFrom 0 0 {} s

end HeadLint.Json
