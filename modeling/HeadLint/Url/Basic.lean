import HeadLint.Text.Lower
import HeadLint.Url.Host

/-!
Addresses: taking them apart and putting them together.
-/

namespace HeadLint

open Text

/-- The five parts of an address. -/
structure Url where
  scheme : List Char := []
  authority : List Char := []
  path : List Char := []
  query : List Char := []
  fragment : List Char := []
deriving DecidableEq

namespace Url

/-- The characters of a scheme. -/
def isSchemeChar (c : Char) : Bool :=
  isAsciiLetter c || isAsciiDigit c || c == '+' || c == '-' || c == '.'

/-- The scheme of a text, in lower case, and what follows its colon. -/
def cutScheme? (s : List Char) : Option (List Char × List Char) :=
  match cutFirst ':' s with
  | (c :: scheme, some rest) =>
    if isAsciiLetter c && scheme.all isSchemeChar then some (lower (c :: scheme), rest) else none
  | _ => none

/-- What an address is without the control characters and spaces before it and the tabs and line
ends inside it. -/
def cleaned (s : List Char) : List Char :=
  (s.dropWhile fun c => c.toNat ≤ 0x20).filter fun c => c != '\t' && c != '\r' && c != '\n'

/-- Where an authority ends. -/
def endsAuthority (c : Char) : Bool :=
  c == '/' || c == '?' || c == '#'

/-- Takes an address apart; without a scheme of its own it has the one given.  It has no parts when
its authority is malformed. -/
def split? (defaultScheme : List Char) (s : List Char) : Option Url :=
  let s := cleaned s
  let (scheme, s) := (cutScheme? s).getD (defaultScheme, s)
  let (authority, s) :=
    match s with
    | '/' :: '/' :: rest =>
      (rest.takeWhile fun c => !endsAuthority c, rest.dropWhile fun c => !endsAuthority c)
    | _ => ([], s)
  if bracketsFit authority && isStable authority then
    let (s, fragment) := cutFirst '#' s
    let (path, query) := cutFirst '?' s
    some ⟨scheme, authority, path, query.getD [], fragment.getD []⟩
  else none

/-- Schemes whose addresses have an authority, even if it is empty. -/
def schemesWithAuthority : List String :=
  ["ftp", "http", "gopher", "nntp", "telnet", "imap", "wais", "file", "mms", "https", "shttp",
    "snews", "prospero", "rtsp", "rtspu", "rsync", "svn", "svn+ssh", "sftp", "nfs", "git",
    "git+ssh", "ws", "wss"]

/-- An optional part, with its mark in front. -/
def marked (mark : Char) (part : List Char) : List Char :=
  if part.isEmpty then [] else mark :: part

/-- Puts an address together.  Without an authority of its own it has an empty one when its scheme
asks for one, but not before a path that starts with two slashes, which then reads as an authority.
That is the rule up to release 3.11.9 of the standard writer; later ones put the empty authority
there as well. -/
def render (u : Url) : List Char :=
  let hasAuthority :=
    !u.authority.isEmpty ||
      (schemesWithAuthority.contains (String.ofList u.scheme) &&
        !List.isPrefixOf ['/', '/'] u.path)
  let path :=
    if hasAuthority then
      '/' :: '/' :: u.authority ++
        (if u.path.isEmpty || u.path.head? == some '/' then u.path else '/' :: u.path)
    else u.path
  (if u.scheme.isEmpty then [] else u.scheme ++ [':']) ++ path ++ marked '?' u.query ++
    marked '#' u.fragment

end Url

end HeadLint
