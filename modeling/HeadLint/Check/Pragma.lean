import HeadLint.Check.Problem
import HeadLint.Element.Basic
import HeadLint.Text.Search

/-!
The values of `http-equiv`: which of them work, and what is wrong with the others.
-/

namespace HeadLint.Pragma

open Text

/-- Values that work in browsers, even when they are discouraged. -/
def working : List String :=
  ["content-security-policy", "content-security-policy-report-only", "origin-trial",
    "content-type", "default-style", "refresh", "x-dns-prefetch-control", "accept-ch",
    "delegate-ch"]

/-- Values with a check of their own. -/
def dedicated : List String :=
  ["content-security-policy", "content-security-policy-report-only", "origin-trial",
    "content-type", "default-style"]

/-- Whether a value works in browsers. -/
def works (value : Option String) : Bool :=
  match value with
  | some v => !v.isEmpty && working.contains (lowered v)
  | none => false

/-- What is wrong with a group of values; the explanation may speak of the value itself. -/
structure Defect where
  values : List String
  code : String
  explain : String → String

/-- The groups of values with a defect; the first group that lists a value counts. -/
def defects : List Defect := [
  { values := ["cache-control", "etag", "pragma", "expires", "last-modified"]
    code := "noEffect"
    explain := fun _ => "This doesn't do anything. Use HTTP headers for any cache directives." },
  { values := ["x-frame-options"]
    code := "noEffect"
    explain := fun _ =>
      "This doesn't do anything. Use the CSP HTTP header with the frame-ancestors directive " ++
        "instead." },
  { values :=
      ["x-ua-compatible", "content-style-type", "content-script-type", "imagetoolbar",
        "cleartype", "page-enter", "page-exit", "site-enter", "site-exit", "msthemecompatible",
        "window-target"]
    code := "deprecatedIEFeature"
    explain := fun _ =>
      "This doesn't do anything. It was an Internet Explorer feature and is now deprecated." },
  { values := ["content-language", "language"]
    code := "nonConforming"
    explain := fun _ => "This is non-conforming. Use the html[lang] attribute instead." },
  { values := ["set-cookie"]
    code := "nonConforming"
    explain := fun _ => "This is non-conforming. Use the Set-Cookie HTTP header instead." },
  { values := ["encoding"]
    code := "didYouMean"
    explain := fun _ => "This doesn't do anything. Did you mean `meta[charset]`?" },
  { values := ["title"]
    code := "didYouMean"
    explain := fun _ =>
      "This doesn't do anything. Did you mean to use the `title` tag instead?" },
  { values := ["accept-ch", "delegate-ch"]
    code := "nonStandard"
    explain := fun _ =>
      "This is non-standard and may not work across browsers. Use HTTP headers instead." },
  { values :=
      ["application-name", "author", "description", "generator", "keywords", "referrer",
        "theme-color", "color-scheme", "viewport", "creator", "googlebot", "publisher", "robots"]
    code := "didYouMean"
    explain := fun value =>
      s!"This doesn't do anything. Did you mean `meta[name={value}]`?" }
]

/-- Reloading and redirecting are discouraged. -/
def refreshProblem (content : String) : Problem :=
  if content.isEmpty then
    { code := "noEffect"
      message :=
        "This doesn't do anything. The content attribute must be set. " ++
          "However, using refresh is discouraged." }
  else if containsText "url=" content then
    { code := "discouraged"
      message := "Meta auto-redirects are discouraged. Use HTTP 3XX responses instead." }
  else
    { code := "discouraged"
      message :=
        "Meta auto-refreshes are discouraged unless users have the ability to disable it." }

/-- Name look-ups ahead of time are on by default, and there is no standard way to stop them. -/
def prefetchControlProblem (content : String) : Problem :=
  if content == "on" then
    { code := "noEffect"
      message :=
        s!"DNS prefetching is enabled by default. Setting it to \"{content}\" has no effect." }
  else if content != "off" then
    { code := "nonStandard"
      message :=
        "This is a non-standard way of disabling DNS prefetching, which is a performance " ++
          s!"optimization. Found content=\"{content}\". Use content=\"off\" if you have a " ++
          "legitimate security concern, otherwise remove it." }
  else
    { code := "nonStandard"
      message :=
        "This is non-standard, however most browsers support disabling speculative DNS " ++
          "prefetching. It should still be noted that DNS prefetching is a generally accepted " ++
          "performance optimization and you should only disable it if you have specific " ++
          "security concerns." }

/-- What is wrong with a value, given the content in lower case. -/
def problemOf (value content : String) : Problem :=
  if value == "refresh" then refreshProblem content
  else if value == "x-dns-prefetch-control" then prefetchControlProblem content
  else
    match defects.find? fun d => d.values.contains value with
    | some d => { code := d.code, message := d.explain value }
    | none =>
      { code := "nonStandard"
        message :=
          "This is non-standard and may not work across browsers. " ++
            "http-equiv is not an alternative to HTTP headers." }

/-- The problems of an element that stands for a header; values with a check of their own have none
here. -/
def check (e : Element) : List Problem :=
  let value := e.keyword "http-equiv"
  if value.isEmpty || dedicated.contains value then []
  else
    let problem := problemOf value (e.keyword "content")
    [{ problem with data := Entries.put "httpEquiv" (.str value) problem.data }]

end HeadLint.Pragma
