import HeadLint.Element.Basic
import HeadLint.Text.Search

/-!
Loading priority.  Each child of a head has one category, and the best order of a head is by
decreasing weight of the categories.
-/

namespace HeadLint

open Text

/-- Loading-priority categories, the first to be placed first. -/
inductive Category where
  | pragma
  | title
  | preconnect
  | asyncScript
  | importStyles
  | syncScript
  | syncStyles
  | preload
  | deferScript
  | prefetch
  | other
deriving DecidableEq, Inhabited

namespace Category

/-- All categories in their best order. -/
def all : List Category :=
  [.pragma, .title, .preconnect, .asyncScript, .importStyles, .syncScript, .syncStyles, .preload,
    .deferScript, .prefetch, .other]

/-- The weight of a category; what weighs more should come earlier. -/
def weight : Category → Nat
  | .pragma => 11
  | .title => 10
  | .preconnect => 9
  | .asyncScript => 8
  | .importStyles => 7
  | .syncScript => 6
  | .syncStyles => 5
  | .preload => 4
  | .deferScript => 3
  | .prefetch => 2
  | .other => 1

/-- The name of a category in messages. -/
def label : Category → String
  | .pragma => "META"
  | .title => "TITLE"
  | .preconnect => "PRECONNECT"
  | .asyncScript => "ASYNC_SCRIPT"
  | .importStyles => "IMPORT_STYLES"
  | .syncScript => "SYNC_SCRIPT"
  | .syncStyles => "SYNC_STYLES"
  | .preload => "PRELOAD"
  | .deferScript => "DEFER_SCRIPT"
  | .prefetch => "PREFETCH_PRERENDER"
  | .other => "OTHER"

/-- The best order, one line per category. -/
def describeAll : List String :=
  all.zipIdx.map fun (c, i) => s!"{i + 1}. {c.label} - weight {c.weight}"

end Category

namespace Element

/-- The `http-equiv` values that a browser should see as early as possible. -/
def earlyPragmas : List String :=
  ["accept-ch", "content-security-policy", "content-type", "default-style", "delegate-ch",
    "origin-trial", "x-dns-prefetch-control"]

/-- Settings that govern the rest of the head: the base address, the encoding, the viewport and
the early pragmas. -/
def loadsAsPragma (e : Element) : Bool :=
  e.name == "base" ||
    (e.name == "meta" &&
      (e.hasAttribute "charset" || e.keyword "name" == "viewport" ||
        earlyPragmas.contains (e.keyword "http-equiv")))

/-- The title of the document. -/
def loadsAsTitle (e : Element) : Bool :=
  e.name == "title"

/-- A link that opens a connection ahead of time. -/
def loadsAsPreconnect (e : Element) : Bool :=
  e.name == "link" && e.keyword "rel" == "preconnect"

/-- A script from elsewhere that runs as soon as it has arrived. -/
def loadsAsAsyncScript (e : Element) : Bool :=
  e.name == "script" && e.hasAttribute "src" && e.hasAttribute "async"

/-- An inline style sheet that imports others. -/
def loadsAsImportStyles (e : Element) : Bool :=
  e.name == "style" && containsText "@import" e.text

/-- A script that holds up the parser: any inline script, and a classic one from elsewhere that is
neither deferred nor asynchronous. -/
def loadsAsSyncScript (e : Element) : Bool :=
  e.name == "script" &&
    (!e.hasAttribute "src" ||
      (!e.hasAttribute "defer" && !e.hasAttribute "async" &&
        !containsText "module" (e.keyword "type") && !containsText "json" (e.keyword "type")))

/-- A style sheet, inline or linked. -/
def loadsAsSyncStyles (e : Element) : Bool :=
  e.name == "style" || (e.name == "link" && e.keyword "rel" == "stylesheet")

/-- A link that loads a resource of this page early. -/
def loadsAsPreload (e : Element) : Bool :=
  e.name == "link" && ["preload", "modulepreload"].contains (e.keyword "rel")

/-- A script from elsewhere that runs once the document is parsed: a deferred one, or a module. -/
def loadsAsDeferScript (e : Element) : Bool :=
  e.name == "script" && e.hasAttribute "src" &&
    (e.hasAttribute "defer" || (e.keyword "type" == "module" && !e.hasAttribute "async"))

/-- A link that prepares for pages that may come next. -/
def loadsAsPrefetch (e : Element) : Bool :=
  e.name == "link" && ["prefetch", "dns-prefetch", "prerender"].contains (e.keyword "rel")

end Element

namespace Category

/-- Which elements a category takes, from the first to be asked to the last. -/
def table : List (Category × (Element → Bool)) := [
  (.pragma, Element.loadsAsPragma),
  (.title, Element.loadsAsTitle),
  (.preconnect, Element.loadsAsPreconnect),
  (.asyncScript, Element.loadsAsAsyncScript),
  (.importStyles, Element.loadsAsImportStyles),
  (.syncScript, Element.loadsAsSyncScript),
  (.syncStyles, Element.loadsAsSyncStyles),
  (.preload, Element.loadsAsPreload),
  (.deferScript, Element.loadsAsDeferScript),
  (.prefetch, Element.loadsAsPrefetch)
]

/-- The category of the first row that takes the element. -/
def firstMatch (rows : List (Category × (Element → Bool))) (e : Element) : Category :=
  match rows.find? fun row => row.2 e with
  | some row => row.1
  | none => .other

/-- The category of an element. -/
def of (e : Element) : Category :=
  firstMatch table e

/-- The categories of all rows of the table that take the element. -/
def matching (e : Element) : List Category :=
  (table.filter fun row => row.2 e).map (·.1)

end Category

end HeadLint
