import HeadLint.Element.Basic
import HeadLint.Text.Search

/-!
The kinds of head elements that have rules of their own.
-/

namespace HeadLint.Element

open Text

/-- The elements that belong in a head. -/
def headTags : List String :=
  ["base", "link", "meta", "noscript", "script", "style", "template", "title"]

/-- Whether a tag names an element that belongs in a head. -/
def isHeadTag (tag : String) : Bool :=
  headTags.contains (lowered tag)

/-- A `meta` element whose `http-equiv` speaks of a content security policy. -/
def isPolicy (e : Element) : Bool :=
  e.name == "meta" && containsText "content-security-policy" (e.keyword "http-equiv")

/-- A `meta` element that carries an origin-trial token. -/
def isTrial (e : Element) : Bool :=
  e.name == "meta" && e.keyword "http-equiv" == "origin-trial"

/-- A `meta` element with viewport settings. -/
def isViewport (e : Element) : Bool :=
  e.name == "meta" &&
    match e.filled? "name" with
    | some name => lowered name == "viewport"
    | none => false

/-- A `meta` element that names the preferred style sheet. -/
def isDefaultStyle (e : Element) : Bool :=
  e.name == "meta" && e.keyword "http-equiv" == "default-style"

/-- A `meta` element that declares the character encoding, in either of the two forms. -/
def declaresEncoding (e : Element) : Bool :=
  e.name == "meta" && (e.keyword "http-equiv" == "content-type" || e.hasAttribute "charset")

/-- A `meta` element that stands for a header of the response. -/
def isPragma (e : Element) : Bool :=
  e.name == "meta" && e.hasAttribute "http-equiv"

/-- A `link` element that asks for an early load. -/
def isPreload (e : Element) : Bool :=
  e.name == "link" &&
    match e.filled? "rel" with
    | some rel => ["preload", "modulepreload"].contains (lowered rel)
    | none => false

/-- The address that a script or a style sheet link loads. -/
def resourceUrl? (e : Element) : Option String :=
  if e.name == "script" then e.attribute? "src"
  else if e.name == "link" then
    match e.filled? "rel" with
    | some rel => if lowered rel == "stylesheet" then e.attribute? "href" else none
    | none => none
  else none

end HeadLint.Element
