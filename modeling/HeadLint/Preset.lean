import HeadLint.Config
import HeadLint.Json.Display
import HeadLint.Json.Equality
import HeadLint.Lint.Rule
import HeadLint.Text.Search

/-!
Presets: tables of severities that the configuration keeps under names.  A table is an object or a
list of pairs of a rule and its severity.
-/

namespace HeadLint

open Text

/-- What is wrong with the choice of a preset and the severities that are set apart from it. -/
inductive ConfigFault where
  | unknownPreset (name : Json) (available : List String)
  | presetSeverity (preset severity rule : Json)
  | rowLength (index length : Nat)
  | unknownRule (name : Json)
  | ruleSeverity (severity rule : Json)

/-- The account of a fault. -/
def ConfigFault.message : ConfigFault → String
  | .unknownPreset name available =>
    let names := if available.isEmpty then "none" else ", ".intercalate available
    s!"Unknown preset '{name.display}'. Available: {names}"
  | .presetSeverity preset severity rule =>
    s!"Preset '{preset.display}' sets unsupported severity '{severity.display}' " ++
      s!"for rule '{rule.display}'"
  | .rowLength index length =>
    s!"dictionary update sequence element #{index} has length {length}; 2 is required"
  | .unknownRule name => s!"Unknown rule '{name.display}'"
  | .ruleSeverity severity rule =>
    s!"Unsupported severity '{severity.display}' for rule '{rule.display}'"

/-- Why severities are not found: there is a fault in them, a value is of the wrong kind, or a
position is out of range. -/
inductive ConfigFailure where
  | fault (fault : ConfigFault)
  | wrongKind
  | outOfRange

/-- Severities of rules, and those set for keys that name no rule because they are not text. -/
structure Severities where
  rules : Entries Severity := []
  others : List (Json × Severity) := []

namespace Preset

/-- The presets of a configuration. -/
def table (config : Json) : Json :=
  (Config.get? config "presets").getD (.obj [])

/-- Whether there is a preset of a name.  Names are looked for among the keys of an object, the
items of a list or the parts of a text. -/
def isIn (name : Json) : Json → Except ConfigFailure Bool
  | .obj members =>
    match name with
    | .str s => .ok (Entries.has s members)
    | _ => if name.canBeKey then .ok false else .error .wrongKind
  | .arr items => .ok (items.any fun item => item.same name)
  | .str text =>
    match name with
    | .str s => .ok (containsText s text)
    | _ => .error .wrongKind
  | _ => .error .wrongKind

/-- The names of all presets, in order. -/
def available (table : Json) : Except ConfigFailure (List String) :=
  match table with
  | .obj members => .ok ((Entries.keys members).mergeSort textLe)
  | .arr items =>
    if items.all fun item => item.str?.isSome then
      .ok ((items.filterMap Json.str?).mergeSort textLe)
    else .error .wrongKind
  | .str text => .ok ((text.toList.map Char.toString).mergeSort textLe)
  | _ => .error .wrongKind

/-- The item of a list at a position, which counts from the end if it is negative. -/
def itemAt (items : List Json) (position : Int) : Except ConfigFailure Json :=
  let index := if position < 0 then position + items.length else position
  match if index < 0 then none else items[index.toNat]? with
  | some item => .ok item
  | none => .error .outOfRange

/-- The preset of a name that was found: a member of an object, or an item of a list. -/
def entry (name : Json) : Json → Except ConfigFailure Json
  | .obj members =>
    match name.str?.bind fun s => Entries.get? s members with
    | some value => .ok value
    | none => .error .wrongKind
  | .arr items =>
    match name with
    | .int n => itemAt items n
    | .bool b => itemAt items b.toInt
    | _ => .error .wrongKind
  | _ => .error .wrongKind

/-- What a value consists of when it is gone through: items, names of members, or characters. -/
def parts? : Json → Option (List Json)
  | .arr items => some items
  | .obj members => some ((Entries.keys members).map .str)
  | .str text => some (text.toList.map fun c => .str c.toString)
  | _ => none

/-- The pair that a row stands for. -/
def readRow (index : Nat) (row : Json) : Except ConfigFailure (Json × Json) :=
  match parts? row with
  | none => .error .wrongKind
  | some [key, value] => if key.canBeKey then .ok (key, value) else .error .wrongKind
  | some parts => .error (.fault (.rowLength index parts.length))

/-- The pairs that rows stand for, from an index on. -/
def readRows (index : Nat) : List Json → Except ConfigFailure (List (Json × Json))
  | [] => .ok []
  | row :: rest => do
    let pair ← readRow index row
    let more ← readRows (index + 1) rest
    .ok (pair :: more)

/-- A preset as a mapping: the members of an object, or the pairs of a list of rows. -/
def mapping : Json → Except ConfigFailure (List (Json × Json))
  | .obj members => .ok (members.map fun (name, value) => (.str name, value))
  | value =>
    match parts? value with
    | some rows => (readRows 0 rows).map Json.ofPairs
    | none => .error .wrongKind

/-- The severities of a mapping, if they all exist; the first that does not is at fault. -/
def readSeverities (preset : Json) : List (Json × Json) → Except ConfigFault Severities
  | [] => .ok {}
  | (rule, value) :: rest =>
    match Severity.ofJson? value with
    | none => .error (.presetSeverity preset value rule)
    | some severity =>
      (readSeverities preset rest).map fun found =>
        match rule with
        | .str name => { found with rules := (name, severity) :: found.rules }
        | key => { found with others := (key, severity) :: found.others }

/-- The severities of a configured preset. -/
def severities (config name : Json) : Except ConfigFailure Severities := do
  let table := table config
  if ← isIn name table then
    let pairs ← mapping (← entry name table)
    (readSeverities name pairs).mapError .fault
  else .error (.fault (.unknownPreset name (← available table)))

end Preset

end HeadLint
