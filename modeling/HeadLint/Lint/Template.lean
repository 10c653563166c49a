import HeadLint.Lint.Template.Path

/-!
Message templates.  A path in braces is a field, which may say how its value is converted and
shown, and a brace that is text is written twice.
-/

namespace HeadLint.Template

/-- A field: the path to its value, the letter of a conversion to text, and how it is shown. -/
structure Field where
  path : List Char
  conversion : Option Char := none
  spec : List Char := []
deriving DecidableEq

/-- What a template consists of. -/
inductive Piece where
  | char (c : Char)
  | field (content : Field)
deriving DecidableEq

/-- The character that opens a field. -/
def openBrace : Char := '\x7b'

/-- The character that closes a field. -/
def closeBrace : Char := '\x7d'

/-- The path of a field, given what follows its opening brace, and what follows the path: a closing
brace, a colon or an exclamation mark.  Inside brackets everything belongs to the path. -/
def readPath (inside : Bool) : List Char → Except Fault (List Char × List Char)
  | [] => .error .unclosedField
  | c :: rest =>
    if inside then (readPath (c != ']') rest).map fun (path, after) => (c :: path, after)
    else if c == openBrace then .error .nestedOpen
    else if c == closeBrace || c == ':' || c == '!' then .ok ([], c :: rest)
    else (readPath (c == '[') rest).map fun (path, after) => (c :: path, after)

/-- A specification up to the brace that closes its field, and what follows; `depth` braces are open
inside of it. -/
def readSpecText : Nat → List Char → Except Fault (List Char × List Char)
  | _, [] => .error .unclosedSpec
  | depth, c :: rest =>
    if c == closeBrace then
      match depth with
      | 0 => .ok ([], rest)
      | depth + 1 => (readSpecText depth rest).map fun (spec, after) => (c :: spec, after)
    else
      (readSpecText (if c == openBrace then depth + 1 else depth) rest).map fun (spec, after) =>
        (c :: spec, after)

/-- A field, given what follows its opening brace, and what follows it.  The null character is no
conversion. -/
def readField (s : List Char) : Except Fault (Field × List Char) := do
  match ← readPath false s with
  | (path, ':' :: rest) =>
    let (spec, after) ← readSpecText 0 rest
    .ok (⟨path, none, spec⟩, after)
  | (_, ['!']) => .error .noConversion
  | (_, ['!', _]) => .error .unclosedSpec
  | (path, '!' :: letter :: mark :: rest) =>
    let conversion := some letter |>.filter (· != '\x00')
    if mark == closeBrace then .ok (⟨path, conversion, []⟩, rest)
    else if mark == ':' then
      let (spec, after) ← readSpecText 0 rest
      .ok (⟨path, conversion, spec⟩, after)
    else .error .looseConversion
  | (path, rest) => .ok (⟨path, none, []⟩, rest.drop 1)

/-- The pieces of a text up to its first fault, and the fault; the first `skip` characters belong to
a piece already read. -/
def readFrom : Nat → List Char → List Piece × Option Fault
  | _, [] => ([], none)
  | skip + 1, _ :: rest => readFrom skip rest
  | 0, c :: rest =>
    if c == openBrace then
      match rest with
      | [] => ([], some .loneOpen)
      | next :: _ =>
        if next == openBrace then
          let (pieces, fault) := readFrom 1 rest
          (.char openBrace :: pieces, fault)
        else
          match readField rest with
          | .error fault => ([], some fault)
          | .ok (field, after) =>
            let (pieces, fault) := readFrom (rest.length - after.length) rest
            (.field field :: pieces, fault)
    else if c == closeBrace then
      if rest.head? == some closeBrace then
        let (pieces, fault) := readFrom 1 rest
        (.char closeBrace :: pieces, fault)
      else ([], some .loneClose)
    else
      let (pieces, fault) := readFrom 0 rest
      (.char c :: pieces, fault)

/-- The pieces of a text, and its first fault. -/
def read (s : List Char) : List Piece × Option Fault :=
  readFrom 0 s

/-- A text in which every character beyond ASCII is written by its code. -/
def asciiText (s : List Char) : List Char :=
  s.flatMap fun c => if c.toNat < 128 then [c] else Json.escapeChar c

/-- What a path leads to, as text. -/
def Target.text (quoted : Bool) : Target → List Char
  | .value v => (if quoted then v.displayInner else v.display).toList
  | .kind name => s!"<class '{name}'>".toList

/-- What a path leads to, converted to text by a letter. -/
def convert (letter : Char) (target : Target) : Except Failure Target :=
  let text := fun (s : List Char) => Except.ok (Target.value (.str (String.ofList s)))
  if letter == 's' then text (target.text false)
  else if letter == 'r' then text (target.text true)
  else if letter == 'a' then text (asciiText (target.text true))
  else .error (.fault (.unknownConversion letter))

/-- What a path leads to, by the text of a specification. -/
def Target.render (target : Target) (spec : List Char) : Except Failure (List Char) :=
  match target with
  | .value v => Template.render v spec
  | .kind _ => if spec.isEmpty then .ok (target.text false) else .error .wrongKind

/-- A field filled in.  A specification may have fields of its own, which `expand` fills in when the
value has been found and converted. -/
def fillField (expand : List Char → Except Failure (List Char)) (data : Entries Json)
    (field : Field) : Except Failure (List Char) := do
  let target ← lookUp data field.path
  let target ←
    match field.conversion with
    | none => .ok target
    | some letter => convert letter target
  let spec ← if field.spec.contains openBrace then expand field.spec else .ok field.spec
  target.render spec

/-- The text of pieces with their fields filled in. -/
def fillPieces (expand : List Char → Except Failure (List Char)) (data : Entries Json) :
    List Piece → Except Failure (List Char)
  | [] => .ok []
  | .char c :: rest => (fillPieces expand data rest).map (c :: ·)
  | .field field :: rest => do
    let text ← fillField expand data field
    let tail ← fillPieces expand data rest
    .ok (text ++ tail)

/-- A text with its fields filled in, where specifications nest less than so many levels.  A fault
counts when all fields before it could be filled in. -/
def fillNested (data : Entries Json) : Nat → List Char → Except Failure (List Char)
  | 0, _ => .error (.fault .tooDeep)
  | depth + 1, s => do
    let (pieces, fault) := read s
    let text ← fillPieces (fillNested data depth) data pieces
    match fault with
    | some fault => .error (.fault fault)
    | none => .ok text

/-- A template with its fields filled in.  If one before the first failure has no value, the
template stays as it is. -/
def fill (template : String) (data : Entries Json) : Except Failure String :=
  match fillNested data 2 template.toList with
  | .ok text => .ok (String.ofList text)
  | .error .absent => .ok template
  | .error failure => .error failure

/-- A field as it is written. -/
def Field.write (field : Field) : List Char :=
  let conversion := (field.conversion.map fun c => ['!', c]).getD []
  let spec := if field.spec.isEmpty then [] else ':' :: field.spec
  openBrace :: field.path ++ conversion ++ spec ++ [closeBrace]

/-- A piece as it is written. -/
def Piece.write : Piece → List Char
  | .char c => if c == openBrace || c == closeBrace then [c, c] else [c]
  | .field f => f.write

/-- Pieces as a template. -/
def write (pieces : List Piece) : String :=
  String.ofList (pieces.flatMap Piece.write)

end HeadLint.Template
