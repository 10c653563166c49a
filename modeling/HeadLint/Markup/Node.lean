import HeadLint.Entries
import HeadLint.Markup.Token

/-!
The element tree of a document.  Tokens are taken in order, with the elements that are open on a
stack; no end tag is ever implied, except for void elements.

A linter takes its trees from a parser that is not part of it.  The rules below stand for that
parser: they are assumed, from its documented behaviour, and what is proved about trees is proved
about the trees that these rules build.
-/

namespace HeadLint.Markup

/-- An element as it stands in markup: name, attributes, the offset of its start tag, its direct
text and its child elements. -/
structure Node where
  name : String
  attributes : Entries String
  offset : Nat
  text : List Char
  children : List Node
deriving Inhabited

/-- An element that is open; its children stand in reverse. -/
structure OpenNode where
  name : String
  attributes : Entries String := []
  offset : Nat := 0
  text : List Char := []
  children : List Node := []

/-- The element, once it is closed. -/
def OpenNode.close (n : OpenNode) : Node :=
  ⟨n.name, n.attributes, n.offset, n.text, n.children.reverse⟩

/-- Elements without content. -/
def voidTags : List String :=
  ["area", "base", "basefont", "bgsound", "br", "col", "command", "embed", "frame", "hr", "image",
    "img", "input", "isindex", "keygen", "link", "menuitem", "meta", "nextid", "param", "source",
    "spacer", "track", "wbr"]

/-- Elements that keep white space as it is. -/
def preservingTags : List String := ["pre", "textarea"]

/-- A tree under construction: the open elements, innermost first, above the document; text that is
not yet placed; and the names of void elements whose end tag, should it come, is to be ignored.  It
stands for the state of a parser that is not part of this library. -/
structure Builder where
  stack : List OpenNode := []
  root : OpenNode := { name := "" }
  pending : List Char := []
  closedVoids : List String := []

namespace Builder

/-- Changes the innermost open element. -/
def modifyTop (f : OpenNode → OpenNode) (b : Builder) : Builder :=
  match b.stack with
  | top :: rest => { b with stack := f top :: rest }
  | [] => { b with root := f b.root }

/-- White space of markup. -/
def isAsciiSpace (c : Char) : Bool :=
  c == ' ' || c == '\n' || c == '\t' || c == '\x0c' || c == '\r'

/-- A string as it is kept: where white space does not matter, one of white space only becomes a
line feed if it has one, and a space otherwise. -/
def collapse (preserve : Bool) (s : List Char) : List Char :=
  if !preserve && s.all isAsciiSpace then (if s.contains '\n' then ['\n'] else [' ']) else s

/-- Whether white space is kept at the current place. -/
def preserves (b : Builder) : Bool :=
  b.stack.any fun n => preservingTags.contains n.name

/-- Adds a string to the text of the innermost open element. -/
def addString (s : List Char) (b : Builder) : Builder :=
  let s := collapse b.preserves s
  b.modifyTop fun n => { n with text := n.text ++ s }

/-- Places the pending text. -/
def flush (b : Builder) : Builder :=
  if b.pending.isEmpty then b else { b.addString b.pending with pending := [] }

/-- Closes the innermost open element. -/
def pop (b : Builder) : Builder :=
  match b.stack with
  | [] => b
  | top :: rest =>
    let b := { b with stack := rest }
    b.modifyTop fun n => { n with children := top.close :: n.children }

/-- Closes `count` elements. -/
def popMany : Nat → Builder → Builder
  | 0, b => b
  | count + 1, b => popMany count b.pop

/-- Closes everything up to and including the innermost open element of a name, if there is
one. -/
def popTo (name : String) (b : Builder) : Builder :=
  match b.stack.findIdx? (·.name == name) with
  | some index => b.popMany (index + 1)
  | none => b

/-- Attributes of a tag: of several with one name the first counts, and one without a value is
empty. -/
def keepFirst (attributes : List (String × Option String)) : Entries String :=
  attributes.foldl
    (fun kept (name, value) =>
      if Entries.has name kept then kept else kept ++ [(name, value.getD "")])
    []

/-- An end tag.  One that follows a void element is ignored. -/
def close (name : String) (b : Builder) : Builder :=
  if b.closedVoids.contains name then { b with closedVoids := b.closedVoids.erase name }
  else b.flush.popTo name

/-- A start tag.  A self-closing tag closes its element again, and so does that of a void element,
whose end tag is then ignored, should it come.  The slash of a self-closing tag is no such end tag:
it closes its own element, even behind a void element of the same name. -/
def openTag (tag : StartTag) (offset : Nat) (b : Builder) : Builder :=
  let b := b.flush
  let node : OpenNode :=
    { name := tag.name, attributes := keepFirst tag.attributes, offset }
  let b := { b with stack := node :: b.stack }
  if tag.ending == .selfClosing then b.popTo tag.name
  else if voidTags.contains tag.name then
    let b := b.popTo tag.name
    { b with closedVoids := tag.name :: b.closedVoids }
  else b

/-- Takes one token in. -/
def add (b : Builder) : Token → Builder
  | .startTag tag offset => b.openTag tag offset
  | .endTag name => b.close name
  | .text s => { b with pending := b.pending ++ s }
  | .comment _ => b.flush
  | .declaration s => b.flush.addString s

/-- The elements at the top of the document, after everything is closed. -/
def finish (b : Builder) : List Node :=
  let b := b.flush
  (b.popMany b.stack.length).root.children.reverse

end Builder

/-- The elements at the top of a document with given tokens. -/
def Node.ofTokens (tokens : List Token) : List Node :=
  (tokens.foldl Builder.add {}).finish

mutual

/-- All elements of a name in a tree, in document order. -/
def Node.named (wanted : String) : Node → List Node
  | ⟨name, attributes, offset, text, children⟩ =>
    let inner := Node.namedAmong wanted children
    if name == wanted then ⟨name, attributes, offset, text, children⟩ :: inner else inner

/-- All elements of a name in a list of trees, in document order. -/
def Node.namedAmong (wanted : String) : List Node → List Node
  | [] => []
  | n :: rest => Node.named wanted n ++ Node.namedAmong wanted rest

end

end HeadLint.Markup
