import HeadLint.Lint.Template.Render
import HeadLint.Text.Search

/-!
Paths of fields: a name, followed by attributes behind points and items in brackets.
-/

namespace HeadLint.Template

open Text

/-- A step from one value to another. -/
inductive Step where
  | property (name : List Char)
  | key (name : List Char)
  | index (n : Nat)
deriving DecidableEq

/-- What ends a name in a path. -/
def endsPart (c : Char) : Bool :=
  c == '.' || c == '['

/-- An item in brackets is a position if it is a number, and a key otherwise. -/
def itemStep (name : List Char) : Except Fault Step :=
  match readNumber name with
  | .error fault => .error fault
  | .ok (some n, []) => .ok (.index n)
  | .ok _ => if name.isEmpty then .error .emptyStep else .ok (.key name)

/-- The steps of a path up to its first fault, and the fault; the first `skip` characters belong to
a step already read. -/
def readSteps : Nat → List Char → List Step × Option Fault
  | _, [] => ([], none)
  | skip + 1, _ :: rest => readSteps skip rest
  | 0, c :: rest =>
    if c == '.' then
      let name := rest.takeWhile fun d => !endsPart d
      if name.isEmpty then ([], some .emptyStep)
      else
        let (more, fault) := readSteps name.length rest
        (.property name :: more, fault)
    else if c == '[' then
      match cutFirst ']' rest with
      | (_, none) => ([], some .unclosedItem)
      | (name, some _) =>
        match itemStep name with
        | .error fault => ([], some fault)
        | .ok step =>
          let (more, fault) := readSteps (name.length + 1) rest
          (step :: more, fault)
    else ([], some .looseStep)

/-- What a path leads to: a value, or a kind of values, by its name. -/
inductive Target where
  | value (v : Json)
  | kind (name : String)

/-- The attributes of a number: its real and imaginary part. -/
def complexPart? (name : String) (real imaginary : Json) : Option Json :=
  Entries.get? name [("real", real), ("imag", imaginary)]

/-- The attributes of a whole number: also its numerator and denominator. -/
def rationalPart? (name : String) (n : Int) : Option Json :=
  Entries.get? name [("real", .int n), ("imag", .int 0), ("numerator", .int n),
    ("denominator", .int 1)]

/-- The attribute of a value. -/
def property? (name : String) : Json → Option Target
  | .int n => (rationalPart? name n).map .value
  | .bool b => (rationalPart? name b.toInt).map .value
  | .float x =>
    (complexPart? name (.float x) (.float (Binary64.ofInt 0))).map .value
  | _ => none

/-- Follows one step.  A list and a text have positions, an object has keys; what they do not have
is absent, and other values have no items at all. -/
def Target.step (step : Step) : Target → Except Failure Target
  | .kind name =>
    match step with
    | .property part =>
      if String.ofList part == "__name__" then .ok (.value (.str name)) else .error .noAttribute
    | _ => .error .wrongKind
  | .value v =>
    let found := fun (item : Option Json) =>
      match item with
      | some item => Except.ok (Target.value item)
      | none => .error .absent
    match step, v with
    | .property part, v =>
      let part := String.ofList part
      if part == "__class__" then .ok (.kind (kindName v))
      else
        match property? part v with
        | some target => .ok target
        | none => .error .noAttribute
    | .index n, .arr items => found items[n]?
    | .index n, .str s => found ((s.toList[n]?).map fun c => .str c.toString)
    | .index _, .obj _ => .error .absent
    | .key name, .obj members => found (Entries.get? (String.ofList name) members)
    | _, _ => .error .wrongKind

/-- Follows steps one after the other; a fault counts when all steps before it were possible. -/
def follow (fault : Option Fault) : List Step → Target → Except Failure Target
  | [], target =>
    match fault with
    | some fault => .error (.fault fault)
    | none => .ok target
  | step :: rest, target => do follow fault rest (← target.step step)

/-- What the path of a field leads to.  A path that starts with a number, or with no name at all,
leads nowhere. -/
def lookUp (data : Entries Json) (path : List Char) : Except Failure Target :=
  let name := path.takeWhile fun c => !endsPart c
  match readNumber name with
  | .error fault => .error (.fault fault)
  | .ok (some _, []) => .error .absent
  | .ok _ =>
    if name.isEmpty then .error .absent
    else
      match Entries.get? (String.ofList name) data with
      | none => .error .absent
      | some v =>
        let (steps, fault) := readSteps 0 (path.drop name.length)
        follow fault steps (.value v)

end HeadLint.Template
