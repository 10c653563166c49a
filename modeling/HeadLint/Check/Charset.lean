import HeadLint.Check.Problem
import HeadLint.Element.Kinds
import HeadLint.Text.Blank
import HeadLint.Text.SameLetter

/-!
The declared character encoding.  It stands in a `charset` attribute, or in a `content` attribute
behind `text/html; charset=`.
-/

namespace HeadLint.Charset

open Text

/-- What follows `text/html;`, any white space and `charset=` at the start of a text. -/
def afterMark? (s : List Char) : Option (List Char) := do
  let rest ← dropWord "text/html;".toList s
  dropWord "charset=".toList (trimStart rest)

/-- The offset just after the first mark, and the text there; `offset` is that of the text
itself. -/
def findMark? (offset : Nat) : List Char → Option (Nat × List Char)
  | [] => none
  | c :: rest =>
    match afterMark? (c :: rest) with
    | some value => some (offset + ((c :: rest).length - value.length), value)
    | none => findMark? (offset + 1) rest

/-- The range of the encoding name: from the first mark to the end of its line, without the white
space at both ends. -/
def findRange? (content : List Char) : Option (Nat × Nat) := do
  let (start, value) ← findMark? 0 content
  let raw := value.takeWhile (· != '\n')
  some (start + (raw.length - (trimStart raw).length), start + (trimEnd raw).length)

/-- The encoding that an element declares, in either form. -/
def declared? (e : Element) : Option String :=
  match e.filled? "charset" with
  | some charset => some charset
  | none => do
    let content ← e.attribute? "content"
    let (start, stop) ← findRange? content.toList
    some (String.ofList (slice start stop content.toList))

/-- A declared encoding other than UTF-8 is a problem. -/
def check (e : Element) : List Problem :=
  match declared? e with
  | none => []
  | some charset =>
    if charset.isEmpty || lowered charset == "utf-8" then []
    else
      [{ code := "invalidCharset"
         message :=
           s!"Documents are required to use UTF-8 encoding. Found \"{charset}\". Learn more: " ++
             "https://html.spec.whatwg.org/multipage/semantics.html#character-encoding-declaration"
         data := [("charset", .str charset)] }]

end HeadLint.Charset
