import HeadLint.Markup.Reference
import HeadLint.Text.Blank
import HeadLint.Text.Lower
import HeadLint.Text.Search

/-!
Start tags.  A tag is read leniently: slashes count as space, quotes may be missing, and a value
with an opening quote that is never closed is read as far as makes sense.
-/

namespace HeadLint.Markup

open Text

/-- The characters of a tag name after its first letter. -/
def isTagNameChar (c : Char) : Bool :=
  !(c == '\t' || c == '\n' || c == '\r' || c == '\x0c' || c == ' ' || c == '/' || c == '>' ||
    c == '\x00')

/-- Space between the parts of a tag; a slash counts, unless the tag ends after it. -/
def skipGap : List Char → List Char
  | [] => []
  | c :: rest =>
    if isBlank c || (c == '/' && rest.head? != some '>') then skipGap rest else c :: rest

/-- What an attribute name may stand behind. -/
def canPrecedeName (c : Char) : Bool :=
  c == '\x27' || c == '"' || c == '/' || isBlank c

/-- What an attribute name may start with. -/
def canStartName (c : Char) : Bool :=
  !(isBlank c || c == '/' || c == '>')

/-- What an attribute name may go on with. -/
def canContinueName (c : Char) : Bool :=
  !(isBlank c || c == '/' || c == '=' || c == '>')

/-- The characters of a value without quotes. -/
def isBareChar (c : Char) : Bool :=
  !(isBlank c || c == '>')

/-- The value behind an attribute name and what follows it.  If an opening quote is not closed, the
value is empty when white space stands before the quote; behind several equals signs it starts with
the last of them; and otherwise there is no value. -/
def readValue (s : List Char) : Option (List Char) × List Char :=
  let signs := trimStart s
  match signs.takeWhile (· == '=') with
  | [] => (none, s)
  | _ :: more =>
    let behind := signs.dropWhile (· == '=')
    let body := trimStart behind
    let bare := (some (body.takeWhile isBareChar), body.dropWhile isBareChar)
    match body with
    | q :: rest =>
      if q == '"' || q == '\x27' then
        match cutFirst q rest with
        | (value, some after) => (some value, after)
        | (_, none) =>
          if body.length < behind.length then (some [], body)
          else if more.isEmpty then (none, s)
          else (some ('=' :: body.takeWhile isBareChar), body.dropWhile isBareChar)
      else bare
    | [] => bare

/-- An attribute at the start of a text, and what follows it and the space behind it. -/
def readAttribute (s : List Char) : (List Char × Option (List Char)) × List Char :=
  let name := s.take 1 ++ (s.drop 1).takeWhile canContinueName
  let (value, rest) := readValue ((s.drop 1).dropWhile canContinueName)
  ((name, value), skipGap rest)

/-- The attributes at the start of a text, which stands behind the character `previous`, and what
follows them; the first `skip` characters belong to one already read. -/
def readAttributes : Nat → Char → List Char → List (List Char × Option (List Char)) × List Char
  | _, _, [] => ([], [])
  | skip + 1, _, c :: rest => readAttributes skip c rest
  | 0, previous, c :: rest =>
    if canPrecedeName previous && canStartName c then
      let (found, after) := readAttribute (c :: rest)
      let (more, last) := readAttributes (rest.length - after.length) c rest
      (found :: more, last)
    else ([], c :: rest)

/-- How a start tag ends. -/
inductive TagEnd where
  | plain
  | selfClosing
  | broken
deriving DecidableEq

/-- A start tag: its name and attributes in lower case, values with references replaced, and how
it ends. -/
structure StartTag where
  name : String
  attributes : List (String × Option String)
  ending : TagEnd
deriving DecidableEq

/-- The ending of a start tag and what follows it; a tag may also break off before the end of the
text. -/
def readTagEnd? : List Char → Option (TagEnd × List Char)
  | '>' :: rest => some (.plain, rest)
  | '/' :: '>' :: rest => some (.selfClosing, rest)
  | [] => none
  | c :: rest => if isAsciiLetter c || c == '=' || c == '/' then none else some (.broken, c :: rest)

/-- An attribute as it is kept. -/
def cookAttribute : List Char × Option (List Char) → String × Option String
  | (name, value) =>
    (String.ofList (lower name), value.map fun v => String.ofList (unescape v))

/-- The start tag behind a less-than sign, and what follows it; nothing when the tag is not
complete.  A number in one of its values may be too long. -/
def readStartTag? (s : List Char) : Option (Except DigitOverflow StartTag × List Char) :=
  let name := s.takeWhile isTagNameChar
  let rest := s.dropWhile isTagNameChar
  let gap := skipGap rest
  let previous := ((name ++ rest.take (rest.length - gap.length)).getLast?).getD ' '
  let (attributes, last) := readAttributes 0 previous gap
  (readTagEnd? last).map fun (ending, after) =>
    match attributes.findSome? fun (_, value) => value.bind firstOverflow? with
    | some overflow => (.error overflow, after)
    | none => (.ok ⟨String.ofList (lower name), attributes.map cookAttribute, ending⟩, after)

end HeadLint.Markup
