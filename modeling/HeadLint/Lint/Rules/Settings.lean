import HeadLint.Check.Charset
import HeadLint.Check.DefaultStyle
import HeadLint.Check.Policy
import HeadLint.Check.Pragma
import HeadLint.Check.Viewport
import HeadLint.Lint.Rule

/-!
Rules on the settings that `meta` elements make.
-/

namespace HeadLint.Rules

open Text

/-- The identity and the messages of `validCharset`. -/
def validCharsetInfo : RuleInfo :=
  { name := "valid-charset"
    category := "Best Practices"
    description := "Ensure proper UTF-8 character encoding is declared"
    codes := ["duplicateCharset", "invalidCharset"]
    messages := [
      ("duplicateCharset",
        "There can only be one meta-based character encoding declaration per document."),
      ("invalidCharset",
        "Documents are required to use UTF-8 encoding. Found \"{charset}\"."),
      ("fixToUtf8", "Change charset to \"utf-8\"")] }

/-- The edit that makes an encoding declaration say UTF-8, in whichever form it is; all else in the
value stays. -/
def utf8Edits (e : Element) : List Edit :=
  match e.filled? "charset" with
  | some _ => [validCharsetInfo.replaceValue "fixToUtf8" e "charset" "utf-8"]
  | none =>
    match e.attribute? "content" with
    | none => []
    | some content =>
      match Charset.findRange? content.toList with
      | none => []
      | some (start, stop) =>
        let chars := content.toList
        [validCharsetInfo.replaceValue "fixToUtf8" e "content"
          (String.ofList (chars.take start ++ "utf-8".toList ++ chars.drop stop))]

/-- The encoding is declared once, and it is UTF-8.  Declarations after the first are only reported
as duplicates. -/
def validCharset : Rule :=
  { validCharsetInfo with
    check := fun head _ =>
      .ok ((head.each Element.declaresEncoding).flatMap fun (i, e) =>
        if head.census.encodings.take 1 |>.contains i then
          (Charset.check e).map fun p =>
            validCharsetInfo.reportWith p.code p.message e p.data (utf8Edits e)
        else [validCharsetInfo.report "duplicateCharset" e]) }

/-- The identity and the messages of `validViewport`. -/
def validViewportInfo : RuleInfo :=
  { name := "valid-meta-viewport"
    category := "Accessibility"
    description := "Ensure meta viewport is properly configured"
    codes := sortCodes ["redundantViewport", "viewportCount", "missingContent", "invalidWidth",
      "invalidHeight", "invalidScale", "maximumScaleAccessibility", "userScalableAccessibility",
      "unsupportedValue", "obsoleteShrinkToFit", "invalidDirective"]
    messages := [
      ("redundantViewport",
        "Another meta viewport element has already been declared. " ++
          "Having multiple viewport settings can lead to unexpected behavior."),
      ("viewportCount", "Expected exactly 1 <meta name=viewport> element, found {count}"),
      ("removeUserScalable", "Remove \"user-scalable=no\" to allow zooming"),
      ("removeMaximumScale", "Remove \"maximum-scale\" to allow zooming")] }

/-- Problems that are mended by dropping a directive: code, message and directive. -/
def droppable : List (String × String × String) := [
  ("userScalableAccessibility", "removeUserScalable", "user-scalable"),
  ("maximumScaleAccessibility", "removeMaximumScale", "maximum-scale")
]

/-- The edit that drops the directive at fault. -/
def viewportEdits (e : Element) (code : String) : List Edit :=
  match droppable.find? fun row => row.1 == code with
  | some (_, id, directive) =>
    let content := (e.attribute? "content").getD ""
    [validViewportInfo.replaceValue id e "content"
      (String.ofList (Viewport.remove directive content.toList))]
  | none => []

/-- The first viewport settings are checked directive by directive; further ones are redundant. -/
def validViewport : Rule :=
  { validViewportInfo with
    check := fun head _ =>
      let positions := head.census.viewports
      let reports := (head.each Element.isViewport).flatMap fun (i, e) =>
        if positions.head? == some i then
          (Viewport.check e).map fun p =>
            validViewportInfo.reportWith p.code p.message e p.data (viewportEdits e p.code)
        else [validViewportInfo.report "redundantViewport" e]
      let count :=
        if 1 < positions.length then
          [validViewportInfo.report "viewportCount" head.element
            [("count", .int positions.length)]]
        else []
      .ok (reports ++ count) }

/-- The identity and the messages of `noMetaCsp`. -/
def noMetaCspInfo : RuleInfo :=
  { name := "no-meta-csp"
    category := "Performance"
    description := "Disallow CSP meta tags that disable the preload scanner"
    codes := sortCodes ["cspReportOnly", "cspDisablesPreloadScanner", "missingCspContent",
      "unsupportedCspDirective"]
    messages := [("removeTag", "Remove this CSP meta tag (use HTTP headers instead)")] }

/-- Policies belong in headers. -/
def noMetaCsp : Rule :=
  { noMetaCspInfo with
    check := fun head _ =>
      .ok ((head.each Element.isPolicy).flatMap fun (_, e) =>
        (Policy.check e).map fun p =>
          noMetaCspInfo.reportWith p.code p.message e p.data
            [noMetaCspInfo.removeElement "removeTag" e]) }

/-- The identity and the messages of `noInvalidHttpEquiv`. -/
def noInvalidHttpEquivInfo : RuleInfo :=
  { name := "no-invalid-http-equiv"
    category := "Best Practices"
    description := "Disallow invalid or deprecated http-equiv meta tags"
    codes := sortCodes ["noEffect", "deprecatedIEFeature", "nonConforming", "nonStandard",
      "didYouMean", "discouraged"]
    messages := [("removeTag", "Remove this deprecated meta tag")] }

/-- Whether another rule looks after an element that stands for a header. -/
def hasDedicatedRule (e : Element) : Bool :=
  e.isPolicy || e.isTrial || e.isDefaultStyle || e.declaresEncoding

/-- Values of `http-equiv` do something useful; those that do nothing at all can be removed. -/
def noInvalidHttpEquiv : Rule :=
  { noInvalidHttpEquivInfo with
    check := fun head _ =>
      .ok ((head.each Element.isPragma).flatMap fun (_, e) =>
        if hasDedicatedRule e then []
        else
          let edits :=
            if Pragma.works (e.attribute? "http-equiv") then []
            else [noInvalidHttpEquivInfo.removeElement "removeTag" e true]
          (Pragma.check e).map fun p =>
            noInvalidHttpEquivInfo.reportWith p.code p.message e p.data edits) }

/-- The identity and the messages of `noDefaultStyle`. -/
def noDefaultStyleInfo : RuleInfo :=
  { name := "no-default-style"
    category := "Best Practices"
    kind := "suggestion"
    description := "Disallow default-style meta tag (causes FOUC)"
    codes := sortCodes ["missingContent", "flashOfUnstyledContent"]
    messages := [("removeTag", "Remove this default-style meta tag")] }

/-- The preferred style sheet is not set in the head. -/
def noDefaultStyle : Rule :=
  { noDefaultStyleInfo with
    check := fun head _ =>
      .ok ((head.each Element.isDefaultStyle).flatMap fun (_, e) =>
        (DefaultStyle.check e).map fun p =>
          noDefaultStyleInfo.reportWith p.code p.message e p.data
            [noDefaultStyleInfo.removeElement "removeTag" e]) }

end HeadLint.Rules
