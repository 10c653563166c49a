import HeadLint.Lint.Catalog
import HeadLint.Markup.Document
import HeadLint.Preset

/-!
The linter: rules with severities, applied to the heads of a document.
-/

namespace HeadLint

/-- A linter: the preset it was made from, the severities of rules, and the rules that are
active. -/
structure Linter where
  preset : Json
  severities : Severities
  active : List (Rule × Severity)

/-- Why a document has no reports. -/
inductive LintFailure where
  | markup (fault : Markup.Fault)
  | tooManyDigits (overflow : DigitOverflow)
  | originNotText
deriving DecidableEq

/-- Where the options of a run come from: they are given, or the origin is taken from the
configuration and the time from the clock. -/
inductive OptionSource where
  | given (options : Options)
  | configured (config : Json) (clock : Instant)

/-- The options themselves; a configured origin has to be text. -/
def OptionSource.options : OptionSource → Except LintFailure Options
  | .given options => .ok options
  | .configured config clock =>
    match Config.get? config "audit.origin" with
    | none => .ok { now := clock }
    | some (.str origin) => .ok { expectedOrigin := some origin, now := clock }
    | some _ => .error .originNotText

namespace Linter

/-- In the preset of all rules a problem is an error, and anything else a warning. -/
def severityOfKind (kind : String) : Severity :=
  if kind == "problem" then .error else .warn

/-- Whether a value is the name of the preset of all rules. -/
def isAll (preset : Json) : Bool :=
  preset.str? == some "all"

/-- The severities of a preset; the name `all` stands for every rule of the catalog. -/
def presetSeverities (catalog : Catalog) (config preset : Json) :
    Except ConfigFailure Severities :=
  if isAll preset then
    .ok { rules := catalog.all.map fun rule => (rule.name, severityOfKind rule.kind) }
  else Preset.severities config preset

/-- Sets severities one after the other; the first for an unknown rule, or that does not exist, is
at fault. -/
def override (catalog : Catalog) (severities : Entries Severity) :
    List (Json × Json) → Except ConfigFault (Entries Severity)
  | [] => .ok severities
  | (key, value) :: rest =>
    match key.str?.filter fun name => (catalog.rule? name).isSome, Severity.ofJson? value with
    | none, _ => .error (.unknownRule key)
    | some _, none => .error (.ruleSeverity value key)
    | some name, some severity => override catalog (Entries.put name severity severities) rest

/-- The rules that are not off, in the order of their names, with their severities. -/
def activeRules (catalog : Catalog) (severities : Entries Severity) : List (Rule × Severity) :=
  catalog.all.filterMap fun rule =>
    match Entries.get? rule.name severities with
    | some .off => none
    | some severity => some (rule, severity)
    | none => none

/-- The preset that is meant: the given one, or the configured one if that counts as nothing. -/
def presetName (config preset : Json) : Json :=
  if preset.isNothing then (Config.get? config "audit.preset").getD (.str "recommended")
  else preset

/-- Makes a linter from a preset and severities that are set apart from it. -/
def make (catalog : Catalog) (config preset : Json) (overrides : List (Json × Json)) :
    Except ConfigFailure Linter := do
  let name := presetName config preset
  let base ← presetSeverities catalog config name
  let rules ← (override catalog base.rules (Json.ofPairs overrides)).mapError .fault
  .ok ⟨name, { base with rules }, activeRules catalog rules⟩

/-- The reports of rules, rule by rule, each with the severity of its rule. -/
def reports (head : Head) (options : Options) :
    List (Rule × Severity) → Except DigitOverflow (List Diagnostic)
  | [] => .ok []
  | (rule, severity) :: rest =>
    match rule.check head options with
    | .error overflow => .error overflow
    | .ok found =>
      (reports head options rest).map
        (found.map (fun d => { d with severity := some severity.name }) ++ ·)

/-- The reports on one head, in source order where it is known. -/
def lintHead (linter : Linter) (options : Options) (head : Element) :
    Except DigitOverflow (List Diagnostic) :=
  (reports (Head.of head) options linter.active).map fun found =>
    found.mergeSort fun a b => decide (a.position ≤ b.position)

/-- The reports on one head, with options from a source. -/
def lintHeadFrom (linter : Linter) (source : OptionSource) (head : Element) :
    Except LintFailure (List Diagnostic) :=
  match source.options with
  | .error failure => .error failure
  | .ok options =>
    match linter.lintHead options head with
    | .error overflow => .error (.tooManyDigits overflow)
    | .ok found => .ok found

/-- The reports on several heads, head by head. -/
def lintHeads (linter : Linter) (source : OptionSource) :
    List Element → Except LintFailure (List Diagnostic)
  | [] => .ok []
  | head :: rest =>
    match linter.lintHeadFrom source head with
    | .error failure => .error failure
    | .ok found => (linter.lintHeads source rest).map (found ++ ·)

/-- The reports on a document. -/
def lint (linter : Linter) (source : OptionSource) (html : String) :
    Except LintFailure (List Diagnostic) :=
  match Document.parse html with
  | .error fault => .error (.markup fault)
  | .ok document => linter.lintHeads source document.heads

end Linter

end HeadLint
