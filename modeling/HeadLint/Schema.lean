import HeadLint.Decimal.Whole
import HeadLint.Element.Basic
import HeadLint.Json.Display
import HeadLint.Json.Equality
import HeadLint.Json.Reader
import HeadLint.Lint.Diagnostic

/-!
Records read from JSON values.  All violations of a record are collected, in the order of its
fields.
-/

namespace HeadLint.Schema

/-- A step on the way to the value at fault. -/
inductive Step where
  | field (name : String)
  | item (index : Int)
deriving DecidableEq

/-- What is wrong with a value. -/
inductive Kind where
  | missing
  | text
  | number
  | numeral
  | numeralSize
  | fraction
  | infinite
  | boolean
  | truthWord
  | record
  | mapping
  | list
  | choice
  | value
deriving DecidableEq

/-- The name of a kind in reports. -/
def Kind.name : Kind → String
  | .missing => "missing"
  | .text => "string_type"
  | .number => "int_type"
  | .numeral => "int_parsing"
  | .numeralSize => "int_parsing_size"
  | .fraction => "int_from_float"
  | .infinite => "finite_number"
  | .boolean => "bool_type"
  | .truthWord => "bool_parsing"
  | .record => "model_type"
  | .mapping => "dict_type"
  | .list => "list_type"
  | .choice => "literal_error"
  | .value => "value_error"

/-- One thing that is wrong with a record: where, and what. -/
structure Violation where
  path : List Step
  kind : Kind
deriving DecidableEq

/-- A value, or all that is wrong with it. -/
abbrev Checked (α : Type) := Except (List Violation) α

namespace Checked

/-- What is in order from the start. -/
def of {α : Type} (x : α) : Checked α :=
  .ok x

/-- Applies a checked function to a checked value; the violations of both are kept. -/
def and {α β : Type} (f : Checked (α → β)) (x : Checked α) : Checked β :=
  match f, x with
  | .ok f, .ok x => .ok (f x)
  | .error u, .error v => .error (u ++ v)
  | .error u, .ok _ => .error u
  | .ok _, .error v => .error v

/-- Puts a step before the paths of all violations. -/
def under {α : Type} (step : Step) : Checked α → Checked α
  | .ok x => .ok x
  | .error violations => .error (violations.map fun v => { v with path := step :: v.path })

/-- A violation at the value itself. -/
def fail {α : Type} (kind : Kind) : Checked α :=
  .error [⟨[], kind⟩]

end Checked

open Checked

/-- A field that has to be there. -/
def required {α : Type} (name : String) (read : Json → Checked α) (members : Entries Json) :
    Checked α :=
  under (.field name)
    (match Entries.get? name members with
    | some value => read value
    | none => fail .missing)

/-- A field with a default. -/
def optional {α : Type} (name : String) (default : α) (read : Json → Checked α)
    (members : Entries Json) : Checked α :=
  under (.field name)
    (match Entries.get? name members with
    | some value => read value
    | none => .ok default)

/-- A string. -/
def text : Json → Checked String
  | .str s => .ok s
  | _ => fail .text

/-- The first power of two beyond a signed word. -/
def wordBound : Int := 9223372036854775808

/-- The whole number that a double-precision number is; it has to fit strictly into a signed
word. -/
def wholeFloat : Binary64 → Except Kind Int
  | .finite negative mantissa exponent =>
    match (Binary64.finite negative mantissa exponent).whole? with
    | none => .error .fraction
    | some n => if -wordBound < n ∧ n < wordBound then .ok n else .error .numeralSize
  | _ => .error .infinite

/-- A whole number: one that is written as such or in a string, one that is a double without a
fraction, or the number of a truth value. -/
def int : Json → Checked Int
  | .int n => .ok n
  | .bool b => .ok b.toInt
  | .float x =>
    match wholeFloat x with
    | .ok n => .ok n
    | .error kind => fail kind
  | .str s =>
    match Decimal.readWhole s.toList with
    | .ok n => .ok n
    | .error .malformed => fail .numeral
    | .error .tooLong => fail .numeralSize
  | _ => fail .number

/-- The words that stand for truth values. -/
def truthWords : List (String × Bool) := [
  ("true", true), ("t", true), ("yes", true), ("y", true), ("on", true), ("1", true),
  ("false", false), ("f", false), ("no", false), ("n", false), ("off", false), ("0", false)
]

/-- The truth value of a number. -/
def truth (n : Int) : Checked Bool :=
  if n = 0 then .ok false else if n = 1 then .ok true else fail .truthWord

/-- A truth value: itself, its number, or a word for it.  A number has to be whole and to fit into a
signed word. -/
def bool : Json → Checked Bool
  | .bool b => .ok b
  | .int n => if -wordBound ≤ n ∧ n < wordBound then truth n else fail .boolean
  | .float x =>
    match wholeFloat x with
    | .ok n => truth n
    | .error _ => fail .boolean
  | .str s =>
    match Entries.get? (Text.lowered s) truthWords with
    | some b => .ok b
    | none => fail .truthWord
  | _ => fail .boolean

/-- Null, or what `read` reads. -/
def nullable {α : Type} (read : Json → Checked α) : Json → Checked (Option α)
  | .null => .ok none
  | value =>
    match read value with
    | .ok x => .ok (some x)
    | .error violations => .error violations

/-- The items of a list from an index on. -/
def itemsFrom {α : Type} (read : Json → Checked α) (index : Nat) : List Json → Checked (List α)
  | [] => .ok []
  | value :: rest =>
    (under (.item index) (match read value with
      | .ok x => .ok (x :: ·)
      | .error violations => .error violations)).and (itemsFrom read (index + 1) rest)

/-- A list of what `read` reads. -/
def list {α : Type} (read : Json → Checked α) : Json → Checked (List α)
  | .arr items => itemsFrom read 0 items
  | _ => fail .list

/-- A range of source text. -/
def span : Json → Checked Span
  | .obj members =>
    Checked.of Span.mk
      |>.and (required "start" int members)
      |>.and (required "end" int members)
      |>.and (optional "line" 1 int members)
      |>.and (optional "column" 0 int members)
  | _ => fail .record

/-- What an edit does, by name. -/
def action : Json → Checked Action
  | .str s =>
    match [Action.replaceValue, Action.removeElement].find? fun a => a.name == s with
    | some a => .ok a
    | none => fail .choice
  | _ => fail .choice

/-- A suggested change. -/
def edit : Json → Checked Edit
  | .obj members =>
    Checked.of Edit.mk
      |>.and (required "message_id" text members)
      |>.and (required "message" text members)
      |>.and (required "action" action members)
      |>.and (optional "attribute" none (nullable text) members)
      |>.and (optional "replacement" "" text members)
      |>.and (optional "include_line" false bool members)
      |>.and (optional "automatic" false bool members)
      |>.and (optional "span" none (nullable span) members)
  | _ => fail .record

/-- The data of a report: an object, a text that holds one, or nothing.  A text that is not JSON
counts as nothing. -/
def data (value : Json) : Checked (Entries Json) :=
  let object : Json → Checked (Entries Json)
    | .obj members => .ok members
    | _ => fail .mapping
  match value with
  | .str s =>
    match Json.read s.toList with
    | .ok value => object value
    | .error (.malformed ..) => .ok []
    | .error (.tooManyDigits _) => fail .value
  | value => if value.isNothing then .ok [] else object value

/-- A report with its suggested changes. -/
def diagnostic : Json → Checked Diagnostic
  | .obj members =>
    Checked.of Diagnostic.mk
      |>.and (required "rule" text members)
      |>.and (required "code" text members)
      |>.and (required "tag" text members)
      |>.and (optional "severity" none (nullable text) members)
      |>.and (required "message" text members)
      |>.and (optional "data" [] data members)
      |>.and (optional "span" none (nullable span) members)
      |>.and (optional "patches" [] (list edit) members)
  | _ => fail .record

/-- The origin of the site among the options of a run. -/
def expectedOrigin (members : Entries Json) : Checked (Option String) :=
  optional "expected_origin" none (nullable text) members

/-- A list of pairs as a mapping. -/
def pairs : Json → List (Json × Json)
  | .arr items => Json.ofPairs (items.filterMap fun
    | .arr [key, value] => some (key, value)
    | _ => none)
  | _ => []

/-- How a key is named on the way to its value. -/
def keyStep : Json → Step
  | .str s => .field s
  | .bool b => .item b.toInt
  | .int n => if -wordBound ≤ n ∧ n < wordBound then .item n else .field (toString n)
  | key => .field key.displayInner

/-- A mapping, the keys of which have to be text. -/
def textKeys {α : Type} (read : Json → Checked α) : List (Json × Json) → Checked (Entries α)
  | [] => .ok []
  | (key, value) :: rest =>
    Checked.of (fun name x more => (name, x) :: more)
      |>.and (under (keyStep key) (under (.field "[key]") (text key)))
      |>.and (under (keyStep key) (read value))
      |>.and (textKeys read rest)

/-- An element whose children are given. -/
def elementWith (children : List Element) (members : Entries Json) : Checked Element :=
  let pairsAt := fun (name : String) => ((Entries.get? name members).map pairs).getD []
  let readAttr := fun (value : Json) => Checked.of value.str?
  Checked.of (fun tag attrs text span attrSpans =>
      ({ tag, attrs, text, children, span, attrSpans } : Element))
    |>.and (required "tag" text members)
    |>.and (under (.field "attrs") (textKeys readAttr (pairsAt "attrs")))
    |>.and (optional "text" "" text members)
    |>.and (optional "span" none (nullable span) members)
    |>.and (under (.field "attr_spans") (textKeys span (pairsAt "attr_spans")))

mutual

/-- An element; its children are read before it, so that the first invalid one counts. -/
def element : Json → Checked Element
  | .obj members =>
    match childrenOf members with
    | .error violations => .error violations
    | .ok children => elementWith children members
  | _ => fail .record

/-- The elements among the members of an object. -/
def childrenOf : List (String × Json) → Checked (List Element)
  | [] => .ok []
  | (name, value) :: rest =>
    if name == "children" then childList value else childrenOf rest

/-- The elements of a list. -/
def childList : Json → Checked (List Element)
  | .arr items => elements items
  | _ => .ok []

/-- Elements one after the other, up to the first invalid one. -/
def elements : List Json → Checked (List Element)
  | [] => .ok []
  | value :: rest =>
    match element value with
    | .error violations => .error violations
    | .ok e =>
      match elements rest with
      | .error violations => .error violations
      | .ok es => .ok (e :: es)

end

end HeadLint.Schema
