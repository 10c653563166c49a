import HeadLint.Decimal.Literal
import HeadLint.Entries
import HeadLint.Url.Basic

/-!
Origins of addresses, and the two relations between them that a token can rest on.
-/

namespace HeadLint

open Text

/-- Where an address comes from. -/
structure Origin where
  scheme : String
  host : String
  port : Nat
deriving DecidableEq, Inhabited

namespace Url

/-- Host and port of an authority, as written; the host of a bracketed address without its
brackets. -/
def hostAndPortText (authority : List Char) : List Char × List Char :=
  let rest := hostAndPort authority
  match cutFirst '[' rest with
  | (_, some bracketed) =>
    let (host, after) := cutFirst ']' bracketed
    (host, ((cutFirst ':' (after.getD [])).2).getD [])
  | (_, none) =>
    let (host, port) := cutFirst ':' rest
    (host, port.getD [])

/-- The greatest port. -/
def maxPort : Nat := 65535

/-- A port as written: nothing at all, or a number that is not too great and, zeros in front
included, not too long to be converted. -/
def readPort? (s : List Char) : Option (Option Nat) :=
  if s.isEmpty then some none
  else if s.all isAsciiDigit && s.length ≤ DigitOverflow.limit then
    let n := ofDigits 10 (s.filterMap asciiDigit?)
    if n ≤ maxPort then some (some n) else none
  else none

/-- The ports that are meant when none is written. -/
def defaultPorts : List (String × Nat) :=
  [("http", 80), ("https", 443), ("ws", 80), ("wss", 443)]

end Url

namespace Origin

open Url

/-- The origin of an address, with the default port filled in. -/
def ofText? (url : String) : Option Origin := do
  let u ← Url.split? [] (trim url.toList)
  let (host, port) := hostAndPortText u.authority
  let port ← readPort? port
  let scheme := String.ofList (lower u.scheme)
  let host := String.ofList (lower host)
  if scheme.isEmpty || host.isEmpty then none
  else
    match port with
    | some port => some ⟨scheme, host, port⟩
    | none => (Entries.get? scheme defaultPorts).map fun port => ⟨scheme, host, port⟩

/-- Whether two addresses have the same origin, as it is read. -/
def same (a b : String) (read : String → Option Origin := ofText?) : Bool :=
  match read a, read b with
  | some x, some y => x == y
  | _, _ => false

/-- Whether the host of `child` extends that of `parent` by labels in front, at the same port, as
their origins are read. -/
def isSubdomain (parent child : String) (read : String → Option Origin := ofText?) : Bool :=
  match read parent, read child with
  | some p, some c => p.port == c.port && ('.' :: p.host.toList).isSuffixOf c.host.toList
  | _, _ => false

end Origin

end HeadLint
