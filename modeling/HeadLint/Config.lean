import HeadLint.Json.Reader
import HeadLint.Text.Blank

/-!
Configuration: a JSON value that is asked by dotted paths.
-/

namespace HeadLint

open Text

/-- How much a report matters; a rule that is off reports nothing. -/
inductive Severity where
  | error
  | warn
  | off
deriving DecidableEq, Inhabited

namespace Severity

/-- The name of a severity in configurations and reports. -/
def name : Severity → String
  | .error => "error"
  | .warn => "warn"
  | .off => "off"

/-- The severity of a name. -/
def ofName? (name : String) : Option Severity :=
  [.error, .warn, .off].find? fun s => s.name == name

/-- The severity that a value names. -/
def ofJson? (value : Json) : Option Severity :=
  value.str?.bind ofName?

end Severity

namespace Config

/-- The value at the end of a path of member names; nothing when a step leaves the objects, or when
the value is null. -/
def follow? : List String → Json → Option Json
  | [], .null => none
  | [], value => some value
  | name :: rest, .obj members =>
    match Entries.get? name members with
    | some value => follow? rest value
    | none => none
  | _ :: _, _ => none

/-- The value at a dotted path. -/
def get? (config : Json) (path : String) : Option Json :=
  follow? ((splitWhere (· == '.') path.toList).map String.ofList) config

/-- The configuration in a file of a given content; one that is not there, or does not hold JSON,
is empty. -/
def load (content : Option String) : Json :=
  match content.map fun text => Json.read text.toList with
  | some (.ok value) => value
  | _ => .obj []

/-- The configuration that comes with the linter. -/
def standard : Json :=
  let error := Severity.error.name
  let warn := Severity.warn.name
  let table := fun (rows : List (String × String)) =>
    Json.obj (rows.map fun (rule, severity) => (rule, .str severity))
  .obj [
    ("logging", .obj [("level", .str "WARNING"), ("modules", .obj []), ("silenced", .obj [])]),
    ("audit", .obj [("preset", .str "recommended"), ("origin", .null)]),
    ("presets", .obj [
      ("recommended", table [
        ("no-invalid-head-elements", error),
        ("require-title", error),
        ("no-duplicate-title", error),
        ("no-duplicate-base", error),
        ("no-meta-csp", error),
        ("no-invalid-http-equiv", warn),
        ("valid-meta-viewport", error),
        ("valid-charset", error),
        ("no-default-style", warn),
        ("no-invalid-origin-trial", error),
        ("no-unnecessary-preload", warn)]),
      ("strict", table [
        ("no-invalid-head-elements", error),
        ("require-title", error),
        ("require-meta-viewport", error),
        ("no-duplicate-title", error),
        ("no-duplicate-base", error),
        ("no-meta-csp", error),
        ("no-invalid-http-equiv", error),
        ("valid-meta-viewport", error),
        ("valid-charset", error),
        ("no-default-style", error),
        ("no-invalid-origin-trial", error),
        ("no-unnecessary-preload", error),
        ("head-element-order", error)]),
      ("performance", table [
        ("no-meta-csp", error),
        ("no-invalid-http-equiv", warn),
        ("no-unnecessary-preload", warn),
        ("head-element-order", warn)]),
      ("accessibility", table [
        ("valid-meta-viewport", error),
        ("require-meta-viewport", error)]),
      ("ordering", table [("head-element-order", warn)])])]

end Config

end HeadLint
