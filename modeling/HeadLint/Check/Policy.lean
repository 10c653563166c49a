import HeadLint.Check.Problem
import HeadLint.Element.Basic
import HeadLint.Text.Blank

/-!
Content security policies: directives separated by semicolons, each a name and its values.
-/

namespace HeadLint.Policy

open Text

/-- The length of a separator at the start of a text: a semicolon with any white space around
it. -/
def separatorLength? (s : List Char) : Option Nat :=
  match trimStart s with
  | ';' :: rest => some (s.length - (trimStart rest).length)
  | _ => none

/-- Splits at separators; the first `skip` characters belong to one already found. -/
def splitFrom : Nat → List Char → List (List Char)
  | _, [] => [[]]
  | skip + 1, _ :: rest => splitFrom skip rest
  | 0, c :: rest =>
    match separatorLength? (c :: rest) with
    | some n => [] :: splitFrom (n - 1) rest
    | none =>
      match splitFrom 0 rest with
      | [] => [[c]]
      | part :: parts => (c :: part) :: parts

/-- A directive as its name in lower case and its values, separated by single spaces. -/
def readDirective? (part : List Char) : Option (String × String) :=
  match words part with
  | [] => none
  | name :: values =>
    some (String.ofList (lower name), String.ofList (List.intercalate [' '] values))

/-- The directives of a policy; the last of a repeated name counts. -/
def read (content : List Char) : Entries String :=
  Entries.ofPairs ((splitFrom 0 (trim content)).filterMap readDirective?)

/-- Directives that have no effect in a `meta` element, with the header that takes them. -/
def headerOnly : List (String × String) := [
  ("report-uri", "Content-Security-Policy-Report-Only"),
  ("frame-ancestors", "Content-Security-Policy"),
  ("sandbox", "Content-Security-Policy")
]

/-- The problems of a policy's directives. -/
def checkDirectives (directives : Entries String) : List Problem :=
  (headerOnly.filter fun row => Entries.has row.1 directives).map fun (directive, header) =>
    { code := "unsupportedCspDirective"
      message :=
        s!"The {directive} directive is not supported. Use the {header} HTTP header instead."
      data := [("directive", .str directive), ("alternative", .str header)] }

/-- The problems of a policy element. -/
def check (e : Element) : List Problem :=
  let kind := e.keyword "http-equiv"
  if kind == "content-security-policy-report-only" then
    [{ code := "cspReportOnly", message := "CSP Report-Only is forbidden in meta tags" }]
  else
    let always : List Problem :=
      if kind == "content-security-policy" then
        [{ code := "cspDisablesPreloadScanner"
           message :=
             "CSP meta tags disable the preload scanner due to a bug in Chrome. " ++
               "Use the CSP header instead. Learn more: https://crbug.com/1458493" }]
      else []
    match e.filled? "content" with
    | none =>
      always ++
        [{ code := "missingCspContent"
           message := "Invalid CSP. The content attribute must be set." }]
    | some content => always ++ checkDirectives (read content.toList)

end HeadLint.Policy
