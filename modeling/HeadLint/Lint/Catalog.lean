import HeadLint.Lint.Rules.Loading
import HeadLint.Lint.Rules.Settings
import HeadLint.Lint.Rules.Structure
import HeadLint.Lint.Rules.Trial

/-!
Catalogs of rules.  A rule that is registered under a name takes the place of an earlier one; the
codes of both stay known.
-/

namespace HeadLint

/-- The registered rules under their names, and all codes that were ever registered. -/
structure Catalog where
  rules : Entries Rule := []
  codes : List String := []

namespace Catalog

/-- Registers a rule. -/
def register (rule : Rule) (catalog : Catalog) : Catalog :=
  { rules := Entries.put rule.name rule catalog.rules
    codes := catalog.codes ++ rule.codes }

/-- The rule of a name. -/
def rule? (name : String) (catalog : Catalog) : Option Rule :=
  Entries.get? name catalog.rules

/-- All rules, in the order of their names. -/
def all (catalog : Catalog) : List Rule :=
  (catalog.rules.map (·.2)).mergeSort fun a b => textLe a.name b.name

/-- All codes, in order, each once. -/
def allCodes (catalog : Catalog) : List String :=
  sortCodes catalog.codes

/-- The catalog with some rules registered one after the other. -/
def ofRules (rules : List Rule) : Catalog :=
  rules.foldl (fun catalog rule => catalog.register rule) {}

/-- The rules that come with the linter. -/
def builtin : Catalog :=
  ofRules [Rules.headElementOrder, Rules.noDefaultStyle, Rules.noDuplicateBase,
    Rules.noDuplicateTitle, Rules.noInvalidHeadElements, Rules.noInvalidHttpEquiv,
    Rules.noInvalidOriginTrial, Rules.noMetaCsp, Rules.noUnnecessaryPreload,
    Rules.requireViewport, Rules.requireTitle, Rules.validCharset, Rules.validViewport]

end Catalog

end HeadLint
