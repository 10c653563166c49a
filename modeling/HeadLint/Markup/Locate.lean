import HeadLint.Span
import HeadLint.Text.Blank
import HeadLint.Text.SameLetter
import HeadLint.Text.Search

/-!
Source ranges.  Given where the start tag of an element stands, the ranges of its attribute values
and of the whole element are found in the text itself.
-/

namespace HeadLint.Markup

open Text

/-- The span from offset `start` to offset `stop`, with line and column. -/
def spanOf (source : List Char) (start stop : Nat) : Span :=
  let before := source.take start
  { start, stop
    line := before.count '\n' + 1
    column := (before.reverse.takeWhile (· != '\n')).length }

/-- Elements that end with their start tag. -/
def standaloneTags : List String :=
  ["area", "base", "br", "col", "embed", "hr", "img", "input", "link", "meta", "param", "source",
    "track", "wbr"]

/-- Elements in which no element is nested. -/
def flatTags : List String := ["script", "style", "title", "textarea"]

/-- The characters of a tag name. -/
def isOpenNameChar (c : Char) : Bool :=
  !(isBlank c || c == '/' || c == '>')

/-- The characters of an attribute name. -/
def isAttrNameChar (c : Char) : Bool :=
  !(isBlank c || c == '"' || c == '\x27' || c == '>' || c == '/' || c == '=')

/-- The marks that may enclose a value. -/
def isQuote (c : Char) : Bool :=
  c == '"' || c == '\x27'

/-- The characters of a value that is not enclosed. -/
def isLooseChar (c : Char) : Bool :=
  !isBlank c && c != '>'

/-- The range of a value between quotes, and the offset after it; `start` is that of the text. -/
def quotedRange? (start : Nat) : List Char → Option ((Nat × Nat) × Nat)
  | [] => none
  | q :: inside =>
    if isQuote q then
      match cutFirst q inside with
      | (value, some _) => some ((start + 1, start + 1 + value.length), start + value.length + 2)
      | (_, none) => none
    else none

/-- The range of a value without quotes, and the offset after it. -/
def looseRange? (start : Nat) (s : List Char) : Option ((Nat × Nat) × Nat) :=
  let length := (s.takeWhile isLooseChar).length
  if length == 0 then none else some ((start, start + length), start + length)

/-- The range of the value behind an attribute name, and the offset after it; `offset` is that of
the text.  Without closing quote the value is taken as one without quotes. -/
def valueRange? (offset : Nat) (s : List Char) : Option ((Nat × Nat) × Nat) :=
  match trimStart s with
  | '=' :: rest =>
    let body := trimStart rest
    let start := offset + (s.length - body.length)
    (quotedRange? start body).or (looseRange? start body)
  | _ => none

/-- An attribute that was found: its name in lower case, the range of its value, and the offset
after it. -/
structure FoundAttribute where
  name : String
  range : Option (Nat × Nat)
  after : Nat

/-- The name and the range, when there is one. -/
def FoundAttribute.entries (found : FoundAttribute) : List (String × Nat × Nat) :=
  (found.range.map fun range => (found.name, range)).toList

/-- The attribute at the start of a text. -/
def attributeRange (offset : Nat) (s : List Char) : FoundAttribute :=
  let name := s.takeWhile isAttrNameChar
  let behind := offset + name.length
  let value? := valueRange? behind (s.drop name.length)
  ⟨String.ofList (lower name), value?.map (·.1), (value?.map (·.2)).getD behind⟩

/-- Ranges of attribute values from `offset` on, and the offset at which no attribute follows; the
first `skip` characters belong to an attribute already found. -/
def attributeRanges : Nat → Nat → List Char → List (String × Nat × Nat) × Nat
  | _, offset, [] => ([], offset)
  | skip + 1, offset, _ :: rest => attributeRanges skip (offset + 1) rest
  | 0, offset, c :: rest =>
    if isBlank c || c == '/' then attributeRanges 0 (offset + 1) rest
    else if isAttrNameChar c then
      let found := attributeRange offset (c :: rest)
      let more := attributeRanges (found.after - offset - 1) (offset + 1) rest
      (found.entries ++ more.1, more.2)
    else ([], offset)

/-- The first range of each name. -/
def firstRanges (ranges : List (String × Nat × Nat)) : List (String × Nat × Nat) :=
  ranges.foldl
    (fun kept range => if kept.any fun k => k.1 == range.1 then kept else kept ++ [range]) []

/-- The offset after the next greater-than sign, or the end of the text. -/
def startTagEnd (source : List Char) (offset : Nat) : Nat :=
  offset + ((source.drop offset).takeWhile (· != '>')).length +
    if (source.drop offset).contains '>' then 1 else 0

/-- What follows the end tag of a name, case ignored, at the start of a text. -/
def flatTag? (name s : List Char) : Option (List Char) := do
  let s ← after? ['<', '/'] s
  let s ← dropWord name s
  after? ['>'] (trimStart s)

/-- The offset after the first end tag of a name. -/
def flatEnd? (name : List Char) (offset : Nat) : List Char → Option Nat
  | [] => none
  | c :: rest =>
    match flatTag? name (c :: rest) with
    | some after => some (offset + ((c :: rest).length - after.length))
    | none => flatEnd? name (offset + 1) rest

/-- What a tag of the searched name does to the depth of nesting. -/
inductive Nesting where
  | opens
  | closes
  | keeps
deriving DecidableEq

/-- The text between the name of a tag, case ignored, and its greater-than sign, given what follows
its opening. -/
def tagInside? (name s : List Char) : Option (List Char) := do
  let behind ← dropWord name s
  let next ← behind.head?
  if (isBlank next || next == '/' || next == '>') && behind.contains '>' then
    some (behind.takeWhile (· != '>'))
  else none

/-- A tag of the searched name at the start of a text, and its length.  A start tag whose last
character is a slash opens nothing. -/
def nestedTag? (name : List Char) : List Char → Option (Nesting × Nat)
  | '<' :: '/' :: rest =>
    (tagInside? name rest).map fun inside => (.closes, name.length + inside.length + 3)
  | '<' :: rest =>
    (tagInside? name rest).map fun inside =>
      (if inside.getLast? == some '/' then .keeps else .opens, name.length + inside.length + 2)
  | _ => none

/-- The depth after a tag; nothing when the tag closes the element that is searched. -/
def Nesting.depthAfter (depth : Nat) : Nesting → Option Nat
  | .opens => some (depth + 1)
  | .keeps => some depth
  | .closes => if depth ≤ 1 then none else some (depth - 1)

/-- The offset after the end tag that brings the depth back to zero; the first `skip` characters
belong to a tag already counted. -/
def nestedEnd? (name : List Char) : Nat → Nat → Nat → List Char → Option Nat
  | _, _, _, [] => none
  | skip + 1, depth, offset, _ :: rest => nestedEnd? name skip depth (offset + 1) rest
  | 0, depth, offset, c :: rest =>
    match nestedTag? name (c :: rest) with
    | none => nestedEnd? name 0 depth (offset + 1) rest
    | some (nesting, length) =>
      match nesting.depthAfter depth with
      | none => some (offset + length)
      | some depth => nestedEnd? name (length - 1) depth (offset + 1) rest

/-- The end of an element whose start tag ends at `tagEnd`.  Without an end tag it ends there. -/
def elementEnd (source : List Char) (name : String) (tagEnd : Nat) : Nat :=
  if standaloneTags.contains name || slice (tagEnd - 2) tagEnd source == ['/', '>'] then tagEnd
  else if flatTags.contains name then
    (flatEnd? name.toList tagEnd (source.drop tagEnd)).getD tagEnd
  else (nestedEnd? name.toList 0 1 tagEnd (source.drop tagEnd)).getD tagEnd

/-- The span of the element of a name whose start tag stands at `start`, and the spans of its
attribute values; nothing when the text there reads otherwise. -/
def locate? (source : List Char) (name : String) (start : Nat) :
    Option (Span × List (String × Span)) := do
  let body ← after? ['<'] (source.drop start)
  let run := body.takeWhile isOpenNameChar
  if run.isEmpty || String.ofList (lower run) != lowered name then none
  else
    let behind := start + 1 + run.length
    let (ranges, last) := attributeRanges 0 behind (source.drop behind)
    let stop := elementEnd source (lowered name) (startTagEnd source last)
    some (spanOf source start stop,
      (firstRanges ranges).map fun (attr, lo, hi) => (attr, spanOf source lo hi))

end HeadLint.Markup
