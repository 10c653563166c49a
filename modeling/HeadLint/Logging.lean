import HeadLint.Config
import HeadLint.Json.Equality

/-!
Log levels: one for the root of all loggers, and others for the loggers named in the
configuration.
-/

namespace HeadLint

open Text

namespace Logging

/-- The names of levels; each of the first five is also how that level is shown. -/
def levelNames : List (String × Int) := [
  ("CRITICAL", 50), ("ERROR", 40), ("WARNING", 30), ("INFO", 20), ("DEBUG", 10), ("NOTSET", 0),
  ("FATAL", 50), ("WARN", 30)
]

/-- The level that a value means when it is not understood. -/
def info : Int := 20

/-- The level of a silenced logger whose value is not understood. -/
def critical : Int := 50

/-- The name that is known but is no level. -/
def basicFormat : String := "BASIC_FORMAT"

/-- The other name that is known but is no level, and not even text. -/
def styles : String := "_STYLES"

/-- Why levels cannot be set: a text is not known as a level, a value is no level at all, what
should be a mapping is none, or a logger is not named by a text. -/
inductive Fault where
  | unknownLevel (text : String)
  | notLevel
  | notMapping
  | notName
deriving DecidableEq

/-- The account of a text that is not known as a level. -/
def unknownLevelMessage (text : String) : String :=
  s!"Unknown level: '{text}'"

/-- Upper case, as far as it leads to the letters `A` to `Z` in the name of a level. -/
def upperChar (c : Char) : List Char :=
  if 'a' ≤ c ∧ c ≤ 'z' then [Char.ofNat (c.toNat - 32)]
  else if c == 'ı' then ['I']
  else if c == 'ſ' then ['S']
  else if c == 'ﬅ' || c == 'ﬆ' then ['S', 'T']
  else [c]

/-- The level that a value means: a number itself, a name its level, and anything else the
fallback. -/
def levelOf (fallback : Int) : Json → Except Fault Int
  | .int n => .ok n
  | .bool b => .ok b.toInt
  | .str name =>
    let upper := String.ofList (name.toList.flatMap upperChar)
    if upper == basicFormat then .error (.unknownLevel "%(levelname)s:%(name)s:%(message)s")
    else if upper == styles then .error .notLevel
    else .ok ((Entries.get? upper levelNames).getD fallback)
  | _ => .ok fallback

/-- How a level is shown. -/
def levelName (level : Int) : String :=
  match levelNames.find? fun row => row.2 == level with
  | some row => row.1
  | none => s!"Level {level}"

/-- The levels that are set: that of the root, and those of other loggers. -/
structure Levels where
  root : Int
  loggers : Entries Int := []

/-- Whether a name is one of the root. -/
def isRoot (name : String) : Bool :=
  name.isEmpty || name == "root"

/-- The logger that a key names; one that counts as nothing names the root. -/
def loggerName (key : Json) : Except Fault String :=
  match key with
  | .str name => .ok name
  | _ => if key.isNothing then .ok "" else .error .notName

namespace Levels

/-- The level of a logger itself; zero when it has none. -/
def own (levels : Levels) (name : String) : Int :=
  if isRoot name then levels.root else (Entries.get? name levels.loggers).getD 0

/-- Sets the level of one logger. -/
def set (levels : Levels) (name : String) (level : Int) : Levels :=
  if isRoot name then { levels with root := level }
  else { levels with loggers := Entries.put name level levels.loggers }

/-- Sets several levels, one after the other. -/
def setAll (levels : Levels) (fallback : Int) : List (Json × Json) → Except Fault Levels
  | [] => .ok levels
  | (key, value) :: rest => do
    let name ← loggerName key
    let level ← levelOf fallback value
    (levels.set name level).setAll fallback rest

/-- The first level other than zero among a logger given by its parts, innermost first, and its
ancestors. -/
def nearest? (levels : Levels) : List (List Char) → Option Int
  | [] => none
  | part :: outer =>
    let name := String.ofList (List.intercalate ['.'] (part :: outer).reverse)
    match Entries.get? name levels.loggers with
    | some level => if level == 0 then levels.nearest? outer else some level
    | none => levels.nearest? outer

/-- The level that applies to a logger. -/
def effective (levels : Levels) (name : String) : Int :=
  if isRoot name then levels.root
  else (levels.nearest? (splitWhere (· == '.') name.toList).reverse).getD levels.root

/-- Whether a record of a level passes; a level that is not positive never does. -/
def passes (levels : Levels) (name : String) (level : Int) : Bool :=
  0 < level && levels.effective name ≤ level

/-- How a record of a level is headed when it passes: the name of the level and that of the
logger. -/
def heading? (levels : Levels) (name : String) (level : Int) : Option (String × String) :=
  if levels.passes name level then
    some (levelName level, if isRoot name then "root" else name)
  else none

end Levels

/-- The levels given as a mapping, or else configured at a path. -/
def mappingOr (config : Json) (path : String) (given : Option (List (Json × Json))) :
    Except Fault (List (Json × Json)) :=
  match given with
  | some pairs => .ok (Json.ofPairs pairs)
  | none =>
    match Config.get? config path with
    | none => .ok []
    | some (.obj members) => .ok (members.map fun (name, value) => (.str name, value))
    | some _ => .error .notMapping

/-- Sets the level of the root, then those of modules, then those of loggers to be silenced; what is
not given is configured. -/
def configure (config general : Json) (modules silenced : Option (List (Json × Json))) :
    Except Fault Levels := do
  let general :=
    match general with
    | .null => (Config.get? config "logging.level").getD (.str "WARNING")
    | given => given
  let root ← levelOf info general
  let levels : Levels := { root }
  let levels ← levels.setAll info (← mappingOr config "logging.modules" modules)
  levels.setAll critical (← mappingOr config "logging.silenced" silenced)

end Logging

end HeadLint
