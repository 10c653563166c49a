import HeadLint.Element.Basic
import HeadLint.Markup.Locate
import HeadLint.Markup.Node

/-!
Documents: the heads of a text, as element trees with source ranges.
-/

namespace HeadLint

open Markup

/-- A document with all its heads, nested ones included. -/
structure Document where
  source : String
  heads : List Element
deriving Inhabited

namespace Document

/-- A mark of byte order at the start of a text is not part of the markup. -/
def markLength (source : List Char) : Nat :=
  if source.head? = some '\uFEFF' then 1 else 0

mutual

/-- An element with its ranges in the source; `shift` is the length of the mark of byte order. -/
def locateNode (source : List Char) (shift : Nat) : Node → Element
  | ⟨name, attributes, offset, text, children⟩ =>
    let found := locate? source name (offset + shift)
    { tag := name
      attrs := attributes.map fun (key, value) => (key, some value)
      text := String.ofList text
      children := locateNodes source shift children
      span := found.map (·.1)
      attrSpans := (found.map (·.2)).getD [] }

/-- The elements of a list, with their ranges in the source. -/
def locateNodes (source : List Char) (shift : Nat) : List Node → List Element
  | [] => []
  | n :: rest => locateNode source shift n :: locateNodes source shift rest

end

/-- Reads a document, or finds the first fault of its markup. -/
def parse (source : String) : Except Fault Document := do
  let chars := source.toList
  let shift := markLength chars
  let tokens ← lex (chars.drop shift)
  let heads := Node.namedAmong "head" (Node.ofTokens tokens)
  .ok ⟨source, locateNodes chars shift heads⟩

/-- What is wrong with a document as a whole. -/
def errors (d : Document) : List String :=
  if d.heads.isEmpty then ["missing_head"] else []

end Document

end HeadLint
