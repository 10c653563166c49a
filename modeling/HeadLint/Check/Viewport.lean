import HeadLint.Check.Problem
import HeadLint.Decimal.Literal
import HeadLint.Element.Basic
import HeadLint.Text.Blank
import HeadLint.Text.Search

/-!
Viewport settings: a list of directives `key=value`, separated by commas.
-/

namespace HeadLint.Viewport

open Text

/-- One directive, in lower case; without an equals sign it has no value, and what follows a second
one is ignored.  An empty key is no directive. -/
def readDirective? (part : List Char) : Option (String × Option String) :=
  let (key, value) := cutFirst '=' part
  let key := trim key
  if key.isEmpty then none
  else
    some (String.ofList key, value.map fun v => String.ofList (trim (cutFirst '=' v).1))

/-- The directives of a text; the last value of a repeated key counts. -/
def read (content : List Char) : Entries (Option String) :=
  Entries.ofPairs ((splitWhere (· == ',') (lower content)).filterMap readDirective?)

/-- A directive as it is written. -/
def writeDirective : String × Option String → List Char
  | (key, some value) => key.toList ++ '=' :: value.toList
  | (key, none) => key.toList

/-- Directives as a text. -/
def write (directives : Entries (Option String)) : List Char :=
  List.intercalate [','] (directives.map writeDirective)

/-- The entries of a text that are wanted, as they were; blank ones never are. -/
def keep (wanted : List Char → Bool) (content : List Char) : List Char :=
  let kept := (splitWhere (· == ',') content).filter wanted
  trim (List.intercalate [','] (kept.filter fun part => !isBlankText part))

/-- The text without the entries for one directive, and otherwise as it was. -/
def remove (directive : String) (content : List Char) : List Char :=
  keep (fun part => String.ofList (lower (trim (cutFirst '=' part).1)) != directive) content

/-- The number that a value denotes, if it is one. -/
def number? (value : Option String) : Option Binary64 := do
  let text ← value
  let decimal ← Decimal.read? text.toList
  some decimal.toBinary64

/-- Whether a number lies outside the closed range between two decimals. -/
def outside (low high x : Binary64) : Bool :=
  x.lt low || high.lt x

/-- The value as quoted in a message. -/
def shown (value : Option String) : String :=
  value.getD ""

/-- The data of a problem with one directive. -/
def directiveData (directive : String) (value : Option String) : Entries Json :=
  [("directive", .str directive), ("value", Json.ofText? value)]

/-- A width or a height is a number of pixels from 1 to 10000, or the size of the device. -/
def checkDimension (directive code keyword : String) (value : Option String) : List Problem :=
  match number? value with
  | some x =>
    if outside (.ofInt 1) (.ofInt 10000) x then
      [{ code
         message :=
           s!"Invalid {directive} \"{shown value}\". Numeric values must be between 1 and 10000."
         data := directiveData directive value }]
    else []
  | none =>
    if value == some keyword then []
    else
      [{ code
         message := s!"Invalid {directive} \"{shown value}\"."
         data := directiveData directive value }]

/-- The least zoom level. -/
def leastScale : Binary64 := .ofDecimal false 1 (-1)

/-- A zoom level is a number from a tenth to ten. -/
def checkScale (directive label : String) (value : Option String) : List Problem :=
  match number? value with
  | none =>
    [{ code := "invalidScale"
       message := s!"Invalid {label} zoom level \"{shown value}\". Values must be numeric."
       data := directiveData directive value }]
  | some x =>
    if outside leastScale (.ofInt 10) x then
      [{ code := "invalidScale"
         message :=
           s!"Invalid {label} zoom level \"{shown value}\". Values must be between 0.1 and 10."
         data := directiveData directive value }]
    else []

/-- The greatest zoom level must not be less than two. -/
def checkMaximumScale (value : Option String) : List Problem :=
  match checkScale "maximum-scale" "maximum" value with
  | [] =>
    if (number? value).any (·.lt (.ofInt 2)) then
      [{ code := "maximumScaleAccessibility"
         message :=
           "Disabling zoom levels under 2x can cause accessibility issues. " ++
             s!"Found \"{shown value}\"."
         data := directiveData "maximum-scale" value }]
    else []
  | problems => problems

/-- Zooming should be allowed, and the value be one of those that exist. -/
def checkUserScalable (value : Option String) : List Problem :=
  (if value == some "no" || value == some "0" then
    [{ code := "userScalableAccessibility"
       message :=
         "Disabling zooming can cause accessibility issues to users with visual impairments. " ++
           s!"Found \"{shown value}\"."
       data := directiveData "user-scalable" value }]
  else []) ++
  (if [some "0", some "1", some "yes", some "no"].contains value then []
  else
    [{ code := "unsupportedValue"
       message := s!"Unsupported value \"{shown value}\" found."
       data := directiveData "user-scalable" value }])

/-- What an on-screen keyboard does to the page is one of three things. -/
def checkInteractiveWidget (value : Option String) : List Problem :=
  if [some "resizes-visual", some "resizes-content", some "overlays-content"].contains value then []
  else
    [{ code := "unsupportedValue"
       message := s!"Unsupported value \"{shown value}\" found."
       data := directiveData "interactive-widget" value }]

/-- How the page fills the display is one of three things. -/
def checkViewportFit (value : Option String) : List Problem :=
  if [some "auto", some "contain", some "cover"].contains value then []
  else
    [{ code := "unsupportedValue"
       message :=
         s!"Unsupported value \"{shown value}\" found. " ++
           "Should be one of: auto, contain, cover."
       data := directiveData "viewport-fit" value }]

/-- This directive is obsolete, whatever its value. -/
def checkShrinkToFit (_ : Option String) : List Problem :=
  [{ code := "obsoleteShrinkToFit"
     message :=
       "The shrink-to-fit directive has been obsolete since iOS 9.2. " ++
         "See https://www.scottohara.me/blog/2018/12/11/shrink-to-fit.html"
     data := [("directive", .str "shrink-to-fit")] }]

/-- The directives that exist and how the value of each is checked, in the order of the report. -/
def directiveChecks : List (String × (Option String → List Problem)) := [
  ("width", checkDimension "width" "invalidWidth" "device-width"),
  ("height", checkDimension "height" "invalidHeight" "device-height"),
  ("initial-scale", checkScale "initial-scale" "initial"),
  ("minimum-scale", checkScale "minimum-scale" "minimum"),
  ("maximum-scale", checkMaximumScale),
  ("user-scalable", checkUserScalable),
  ("interactive-widget", checkInteractiveWidget),
  ("viewport-fit", checkViewportFit),
  ("shrink-to-fit", checkShrinkToFit)
]

/-- A directive that does not exist. -/
def unknownDirective (directive : String) : Problem :=
  { code := "invalidDirective"
    message := s!"Invalid viewport directive \"{directive}\"."
    data := [("directive", .str directive)] }

/-- All problems of a set of directives: those of known directives in the order of
`directiveChecks`, then the unknown ones in their own order. -/
def checkDirectives (directives : Entries (Option String)) : List Problem :=
  (directiveChecks.flatMap fun (key, checkValue) =>
    match Entries.get? key directives with
    | some value => checkValue value
    | none => []) ++
  ((Entries.keys directives).filter fun key => !(Entries.keys directiveChecks).contains key).map
    unknownDirective

/-- The problems of a viewport element. -/
def check (e : Element) : List Problem :=
  match e.filled? "content" with
  | none =>
    [{ code := "missingContent"
       message := "Invalid viewport. The content attribute must be set." }]
  | some content => checkDirectives (read content.toList)

end HeadLint.Viewport
