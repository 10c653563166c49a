import HeadLint.Url.Basic

/-!
Resolution of references against a fixed base, so that different spellings of one resource can be
compared.
-/

namespace HeadLint.Url

open Text

/-- The scheme of the base. -/
def baseScheme : List Char := "https".toList

/-- The host of the base, which does not exist. -/
def baseAuthority : List Char := "head-auditor.invalid".toList

/-- Drops the segments `.`, and lets each `..` take back the segment before it; `done` is in
reverse. -/
def foldSegments (done : List (List Char)) : List (List Char) → List (List Char)
  | [] => done.reverse
  | segment :: rest =>
    if segment == ['.', '.'] then foldSegments (done.drop 1) rest
    else if segment == ['.'] then foldSegments done rest
    else foldSegments (segment :: done) rest

/-- The segments of a path below the root of the base; a relative path loses its empty segments,
the last one apart. -/
def segments (path : List Char) : List (List Char) :=
  let parts := splitWhere (· == '/') path
  if path.head? == some '/' then parts
  else [] :: (parts.dropLast.filter (!·.isEmpty) ++ parts.drop (parts.length - 1))

/-- A path without dot segments; one that ends in a dot segment names a directory. -/
def resolvePath (path : List Char) : List Char :=
  let parts := segments path
  let kept := foldSegments [] parts
  let isDirectory := parts.getLast? == some ['.'] || parts.getLast? == some ['.', '.']
  let joined := List.intercalate ['/'] (if isDirectory then kept ++ [[]] else kept)
  if joined.isEmpty then ['/'] else joined

/-- The parameters of the last segment of a path: what follows its first semicolon. -/
def cutParameters (path : List Char) : List Char × List Char :=
  match cutLast '/' path with
  | (none, last) =>
    match cutFirst ';' last with
    | (path, parameters) => (path, parameters.getD [])
  | (some directory, last) =>
    match cutFirst ';' last with
    | (last, parameters) => (directory ++ '/' :: last, parameters.getD [])

/-- The address that a reference means relative to the base, as a text.  An address with another
scheme stands as it is. -/
def resolve? (reference : List Char) : Option (List Char) := do
  let u ← split? baseScheme reference
  if u.scheme != baseScheme then some reference
  else
    let (path, parameters) := cutParameters u.path
    let full := fun (p : List Char) => p ++ marked ';' parameters
    if !u.authority.isEmpty then some (render { u with path := full path })
    else if path.isEmpty && parameters.isEmpty then
      some (render { u with authority := baseAuthority, path := ['/'] })
    else some (render { u with authority := baseAuthority, path := full (resolvePath path) })

/-- The normal form of an address: resolved, with scheme and authority in lower case and without a
fragment.  A blank or malformed address has none. -/
def normalize? (url : List Char) : Option (List Char) :=
  let reference := trim url
  if reference.isEmpty then none
  else do
    let resolved ← resolve? reference
    let u ← split? [] resolved
    some (render
      { u with
        scheme := lower u.scheme
        authority := lower u.authority
        path := if u.path.isEmpty then ['/'] else u.path
        fragment := [] })

/-- `normalize?` on optional strings. -/
def normalized? (url : Option String) : Option String :=
  (url.bind fun s => normalize? s.toList).map String.ofList

end HeadLint.Url
