import HeadLint.Markup.StartTag
import HeadLint.Text.SameLetter

/-!
Tokens of markup.  The lexer reads a text once from left to right.  It first takes constructs only
if they are complete; from the first that is not, it reads the rest on the footing that nothing
more will come, and takes what stays incomplete as text.
-/

namespace HeadLint.Markup

open Text

/-- What markup consists of.  A start tag carries its offset; a declaration stands for everything
that is neither text nor tag nor comment. -/
inductive Token where
  | startTag (tag : StartTag) (offset : Nat)
  | endTag (name : String)
  | text (content : List Char)
  | comment (content : List Char)
  | declaration (content : List Char)
deriving DecidableEq

/-- Why a text cannot be read: it has a marked section without meaning, or a numeric reference
that is too long. -/
inductive Fault where
  | unknownSection
  | tooManyDigits (overflow : DigitOverflow)
deriving DecidableEq

/-- What the lexer finds at one place: tokens with the number of characters they take; a construct
that is not complete; a stop, after which the rest is no longer markup if nothing more will come; or
a fault. -/
inductive Reading where
  | found (tokens : List Token) (length : Nat)
  | incomplete
  | stop (tokens : List Token) (length : Nat)
  | failed (fault : Fault)

/-- The text up to a given character, and what follows that character. -/
def cutAt? (c : Char) (s : List Char) : Option (List Char × List Char) :=
  match cutFirst c s with
  | (before, some after) => some (before, after)
  | (_, none) => none

/-- The first place at which `close` finds an end mark: the text before it and what follows it. -/
def cutWhere? (close : List Char → Option (List Char)) : List Char → Option (List Char × List Char)
  | [] => none
  | c :: rest =>
    match close (c :: rest) with
    | some after => some ([], after)
    | none => (cutWhere? close rest).map fun (before, after) => (c :: before, after)

/-- What follows a text given character by character, with any white space between them. -/
def afterSpaced? : List Char → List Char → Option (List Char)
  | [], s => some s
  | c :: word, s =>
    match trimStart s with
    | a :: rest => if a == c then afterSpaced? word rest else none
    | [] => none

/-- The end of a comment: two dashes, any white space and a greater-than sign. -/
def commentEnd? : List Char → Option (List Char)
  | '-' :: '-' :: rest => afterSpaced? ['>'] rest
  | _ => none

/-- The end of a marked section: closing brackets and a greater-than sign. -/
def sectionEnd? (marks : List Char) : List Char → Option (List Char)
  | ']' :: rest => afterSpaced? marks rest
  | _ => none

/-- How much of `s` lies before its end `rest`. -/
def consumed (s rest : List Char) : Nat :=
  s.length - rest.length

/-- A comment, given what follows its opening. -/
def readComment (s body : List Char) : Reading :=
  match cutWhere? commentEnd? body with
  | some (content, rest) => .found [.comment content] (consumed s rest)
  | none => .incomplete

/-- A comment of the loose kind, which ends at the first greater-than sign. -/
def readLooseComment (s body : List Char) : Reading :=
  match cutAt? '>' body with
  | some (content, rest) => .found [.comment content] (consumed s rest)
  | none => .incomplete

/-- A processing instruction. -/
def readInstruction (s body : List Char) : Reading :=
  match cutAt? '>' body with
  | some (content, rest) => .found [.declaration content] (consumed s rest)
  | none => .incomplete

/-- The characters of the name of a marked section after its first letter. -/
def isSectionNameChar (c : Char) : Bool :=
  isAsciiLetter c || isAsciiDigit c || c == '-' || c == '_' || c == '.'

/-- Marked sections that end with two brackets. -/
def standardSections : List String := ["temp", "cdata", "ignore", "include", "rcdata"]

/-- Marked sections that end with one bracket. -/
def conditionalSections : List String := ["if", "else", "endif"]

/-- The content of a marked section, without the opening of a character-data section. -/
def sectionContent (content : List Char) : List Char :=
  if lower (content.take 6) == "cdata[".toList then content.drop 6 else content

/-- A marked section, given what follows its opening bracket. -/
def readSection (s body : List Char) : Reading :=
  let close := fun (marks : List Char) =>
    match cutWhere? (sectionEnd? marks) body with
    | some (content, rest) => .found [.declaration (sectionContent content)] (consumed s rest)
    | none => Reading.incomplete
  match body with
  | [] => .incomplete
  | c :: _ =>
    if isAsciiLetter c then
      let name := body.takeWhile isSectionNameChar
      if (trimStart (body.dropWhile isSectionNameChar)).isEmpty then .incomplete
      else
        let name := String.ofList (lower name)
        if standardSections.contains name then close [']', '>']
        else if conditionalSections.contains name then close ['>']
        else .failed .unknownSection
    else .failed .unknownSection

/-- Whether a text starts with the keyword of a document type. -/
def startsDoctype (body : List Char) : Bool :=
  lower (body.take 7) == "doctype".toList

/-- A declaration, given what follows the exclamation mark. -/
def readDeclaration (s body : List Char) : Reading :=
  match body with
  | '[' :: rest => readSection s rest
  | _ =>
    if startsDoctype body then
      match cutAt? '>' (body.drop 7) with
      | some (content, rest) => .found [.declaration (content.drop 1)] (consumed s rest)
      | none => .incomplete
    else readLooseComment s body

/-- The characters of the name in a proper end tag after its first letter. -/
def isEndNameChar (c : Char) : Bool :=
  isAsciiLetter c || isAsciiDigit c || c == '-' || c == '.' || c == ':' || c == '_'

/-- A proper end tag, given what follows its slash: a name in lower case, with any white space
around it, and a greater-than sign. -/
def readProperEnd? (body : List Char) : Option (String × List Char) :=
  match trimStart body with
  | [] => none
  | c :: rest =>
    if isAsciiLetter c then
      match trimStart (rest.dropWhile isEndNameChar) with
      | '>' :: after => some (String.ofList (lower (c :: rest.takeWhile isEndNameChar)), after)
      | _ => none
    else none

/-- An end tag, given what follows its slash.  Anything between the name and the end of the tag is
ignored, an empty tag too, and without a name it is a comment. -/
def readEndTag (s body : List Char) : Reading :=
  if !body.contains '>' then .incomplete
  else
    match readProperEnd? body, body with
    | some (name, rest), _ => .found [.endTag name] (consumed s rest)
    | none, c :: _ =>
      if isAsciiLetter c then
        let name := body.takeWhile isTagNameChar
        match cutAt? '>' (skipGap (body.dropWhile isTagNameChar)) with
        | some (_, rest) => .found [.endTag (String.ofList (lower name))] (consumed s rest)
        | none => .incomplete
      else if c == '>' then .found [] 3
      else readLooseComment s body
    | none, [] => .incomplete

/-- A construct that opens with a less-than sign. -/
def readTag (offset : Nat) (s : List Char) : Reading :=
  match s with
  | '<' :: '/' :: body => readEndTag s body
  | '<' :: '!' :: '-' :: '-' :: body => readComment s body
  | '<' :: '?' :: body => readInstruction s body
  | '<' :: '!' :: body => readDeclaration s body
  | '<' :: c :: rest =>
    if isAsciiLetter c then
      match readStartTag? (c :: rest) with
      | some (.error overflow, _) => .failed (.tooManyDigits overflow)
      | some (.ok tag, after) =>
        let length := consumed s after
        if tag.ending == .broken then .found [.text (s.take length)] length
        else .found [.startTag tag offset] length
      | none => .incomplete
    else .found [.text ['<']] 1
  | _ => .stop [] 0

/-- A numeric reference, given what follows its number sign; it needs a character after its digits,
of which a semicolon belongs to it.  Otherwise the signs are text if a semicolon comes later.  Only
decimal digits can be too many. -/
def readNumeric (body : List Char) : Reading :=
  let (base, mark, digits, rest) :=
    match body with
    | 'x' :: rest | 'X' :: rest =>
      let (digits, rest) := Decimal.spanDigits hexDigit? rest
      (16, 1, digits, rest)
    | _ =>
      let (digits, rest) := Decimal.spanDigits asciiDigit? body
      (10, 0, digits, rest)
  match digits, rest with
  | _ :: _, c :: _ =>
    if (hexDigit? c).isSome then
      if body.contains ';' then .stop [.text ['&', '#']] 2 else .stop [] 0
    else
      match if base == 10 then DigitOverflow.of? digits.length else none with
      | some overflow => .failed (.tooManyDigits overflow)
      | none =>
        .found [.text (textOfNumber (ofDigits base digits))]
          (2 + mark + digits.length + if c == ';' then 1 else 0)
  | _, _ => if body.contains ';' then .stop [.text ['&', '#']] 2 else .stop [] 0

/-- The characters of a name in a reference after its first letter. -/
def isReferenceChar (c : Char) : Bool :=
  isAsciiLetter c || isAsciiDigit c || c == '-' || c == '.'

/-- The name of a reference at the start of a text, when a character follows that can end it; a
name that runs to the end of the text ends before its last dash or point. -/
def readReferenceName? (s : List Char) : Option (List Char) :=
  let run := s.takeWhile isReferenceChar
  if run.length < s.length then some run
  else
    match run.reverse.dropWhile fun c => c != '-' && c != '.' with
    | _ :: before => if before.isEmpty then none else some before.reverse
    | [] => none

/-- A named reference, given what follows the ampersand.  One that the end of the text cuts off is
no reference; of an ampersand with a single letter only the letter stays. -/
def readNamed (final : Bool) (body : List Char) : Reading :=
  match body with
  | [] => .stop [] 0
  | c :: rest =>
    if isAsciiLetter c then
      match readReferenceName? body with
      | some name =>
        let closed := (body.drop name.length).head? == some ';'
        .found [.text (textOfReference name)] (1 + name.length + if closed then 1 else 0)
      | none => if final && rest.isEmpty then .stop [] 1 else .stop [] 0
    else .found [.text ['&']] 1

/-- What stands at one place outside of raw text; `final` says that nothing more will come. -/
def readToken (final : Bool) (offset : Nat) (s : List Char) : Reading :=
  match s with
  | '<' :: _ => readTag offset s
  | '&' :: '#' :: body => readNumeric body
  | '&' :: body => readNamed final body
  | _ =>
    let run := s.takeWhile fun c => c != '<' && c != '&'
    .found [.text run] run.length

/-- An incomplete construct as text: up to the next greater-than sign, or before the next less-than
sign, or the first character alone. -/
def leftover (s : List Char) : List Char :=
  let tail := s.drop 1
  if tail.contains '>' then s.take 1 ++ tail.takeWhile (· != '>') ++ ['>']
  else if tail.contains '<' then s.take 1 ++ tail.takeWhile (· != '<')
  else s.take 1

/-- The elements whose content is raw text. -/
def rawTextTags : List String := ["script", "style"]

/-- The end tag of a raw-text element, case ignored, and what follows it. -/
def rawEnd? (name : List Char) : List Char → Option (List Char)
  | '<' :: '/' :: rest => do
    let rest ← dropWord name (trimStart rest)
    afterSpaced? ['>'] rest
  | _ => none

/-- Raw text up to the next end tag of its element, with that tag and the number of characters of
both.  A look-alike of the tag is text, and then the element stays open (`false`). -/
def readRaw? (name : List Char) (s : List Char) : Option (List Token × Bool × Nat) :=
  (cutWhere? (rawEnd? name) s).map fun (content, rest) =>
    let length := consumed s rest
    match readProperEnd? ((s.drop content.length).drop 2) with
    | some (found, _) => ([.text content, .endTag found], true, length)
    | none => ([.text (s.take length)], false, length)

/-- How the rest of a text is read: as markup, as raw text of an element, or as plain text.  The
flag says that nothing more will come. -/
inductive Mode where
  | markup (final : Bool)
  | raw (final : Bool) (name : String)
  | plain

/-- The mode after tokens of markup: a raw-text element may have been opened. -/
def modeAfter (final : Bool) : List Token → Mode
  | [.startTag tag _] =>
    if tag.ending == .plain && rawTextTags.contains tag.name then .raw final tag.name
    else .markup final
  | _ => .markup final

/-- What a reading means when nothing more will come: tokens, their length and the mode after
them. -/
def settle (s : List Char) : Reading → Except Fault (List Token × Nat × Mode)
  | .found tokens length => .ok (tokens, length, modeAfter true tokens)
  | .incomplete => let text := leftover s; .ok ([.text text], text.length, .markup true)
  | .stop tokens length => .ok (tokens ++ [.text (s.drop length)], s.length, .plain)
  | .failed fault => .error fault

/-- The tokens at one place, their length and the mode after them.  The end of the text can change
the meaning of what is not complete, so that is read again on this footing. -/
def lexStep (mode : Mode) (offset : Nat) (s : List Char) :
    Except Fault (List Token × Nat × Mode) :=
  match mode with
  | .plain => .ok ([.text s], s.length, .plain)
  | .raw final name =>
    match readRaw? name.toList s with
    | some (tokens, closed, length) =>
      .ok (tokens, length, if closed then .markup final else .raw final name)
    | none => .ok ([], s.length, .plain)
  | .markup true => settle s (readToken true offset s)
  | .markup false =>
    match readToken false offset s with
    | .found tokens length => .ok (tokens, length, modeAfter false tokens)
    | .stop tokens (length + 1) => .ok (tokens, length + 1, .markup true)
    | .stop _ 0 | .incomplete => settle s (readToken true offset s)
    | .failed fault => .error fault

/-- Reads on at `offset`; the first `skip` characters belong to tokens already read. -/
def lexFrom : Nat → Nat → Mode → List Char → Except Fault (List Token)
  | _, _, _, [] => .ok []
  | skip + 1, offset, mode, _ :: rest => lexFrom skip (offset + 1) mode rest
  | 0, offset, mode, c :: rest => do
    let (tokens, length, next) ← lexStep mode offset (c :: rest)
    let more ← lexFrom (length - 1) (offset + 1) next rest
    .ok (tokens ++ more)

/-- The tokens of a text, or its first fault. -/
def lex (s : List Char) : Except Fault (List Token) :=
  lexFrom 0 0 (.markup false) s

end HeadLint.Markup
