import HeadLint.Lint.Rule

/-!
Rules on which elements a head has, and how often.
-/

namespace HeadLint.Rules

/-- The identity and the messages of `requireTitle`. -/
def requireTitleInfo : RuleInfo :=
  { name := "require-title"
    category := "Best Practices"
    description := "Require a title element in the head"
    codes := ["missingTitle"]
    messages := [("missingTitle", "The <head> element must contain a <title> element")] }

/-- A head has a title. -/
def requireTitle : Rule :=
  { requireTitleInfo with
    check := fun head _ =>
      .ok (if head.census.titles.isEmpty then
        [requireTitleInfo.report "missingTitle" head.element] else []) }

/-- The identity and the messages of `requireViewport`. -/
def requireViewportInfo : RuleInfo :=
  { name := "require-meta-viewport"
    category := "Accessibility"
    description := "Require a meta viewport element in the head"
    codes := ["missingViewport"]
    messages := [("missingViewport",
      "The <head> element should contain a <meta name=\"viewport\"> element for responsive " ++
        "design")] }

/-- A head has viewport settings. -/
def requireViewport : Rule :=
  { requireViewportInfo with
    check := fun head _ =>
      .ok (if head.census.viewports.isEmpty then
        [requireViewportInfo.report "missingViewport" head.element] else []) }

/-- The identity and the messages of `noDuplicateTitle`. -/
def noDuplicateTitleInfo : RuleInfo :=
  { name := "no-duplicate-title"
    category := "Best Practices"
    description := "Disallow duplicate title elements in the head"
    codes := ["duplicateTitle"]
    messages := [
      ("duplicateTitle", "Only one <title> element is allowed in the <head>"),
      ("removeDuplicateTitle", "Remove this duplicate <title> element")] }

/-- Only the first title counts. -/
def noDuplicateTitle : Rule :=
  { noDuplicateTitleInfo with
    check := fun head _ =>
      .ok ((head.select (head.census.titles.drop 1)).map fun e =>
        noDuplicateTitleInfo.report "duplicateTitle" e []
          [noDuplicateTitleInfo.removeElement "removeDuplicateTitle" e true]) }

/-- The identity and the messages of `noDuplicateBase`. -/
def noDuplicateBaseInfo : RuleInfo :=
  { name := "no-duplicate-base"
    category := "Best Practices"
    description := "Disallow multiple base elements in the head"
    codes := ["duplicateBase"]
    messages := [
      ("duplicateBase", "Expected at most 1 <base> element, found {count}"),
      ("removeDuplicate", "Remove this duplicate <base> element")] }

/-- There is at most one base address; each further one is reported with its number. -/
def noDuplicateBase : Rule :=
  { noDuplicateBaseInfo with
    check := fun head _ =>
      .ok ((head.select (head.census.bases.drop 1)).zipIdx.map fun (e, i) =>
        noDuplicateBaseInfo.report "duplicateBase" e [("count", .int (i + 2))]
          [noDuplicateBaseInfo.removeElement "removeDuplicate" e true]) }

/-- The identity and the messages of `noInvalidHeadElements`. -/
def noInvalidHeadElementsInfo : RuleInfo :=
  { name := "no-invalid-head-elements"
    category := "Best Practices"
    description := "Disallow invalid elements in the HTML head"
    codes := ["invalidElement"]
    messages := [
      ("invalidElement", "{tagName} elements are not allowed in the <head>"),
      ("removeElement", "Remove this {tagName} element from <head>")] }

/-- A head has only elements that belong there. -/
def noInvalidHeadElements : Rule :=
  { noInvalidHeadElementsInfo with
    check := fun head _ =>
      .ok ((head.each fun e => !Element.isHeadTag e.tag).map fun (_, e) =>
        let data : Entries Json := [("tagName", .str e.name)]
        noInvalidHeadElementsInfo.report "invalidElement" e data
          [noInvalidHeadElementsInfo.removeElement "removeElement" e true false data]) }

end HeadLint.Rules
