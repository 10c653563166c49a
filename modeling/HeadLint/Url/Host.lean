import HeadLint.Text.Blank
import HeadLint.Text.Digit
import HeadLint.Text.Search

/-!
What may stand in the authority of an address: the form of bracketed hosts, and the characters that
would turn into delimiters under compatibility normalisation.
-/

namespace HeadLint.Url

open Text

/-- One of the four numbers of a dotted address: at most 255, without a leading zero. -/
def isOctet (s : List Char) : Bool :=
  !s.isEmpty && s.all isAsciiDigit && s.length ≤ 3 && (s == ['0'] || s.head? != some '0') &&
    ofDigits 10 (s.filterMap asciiDigit?) ≤ 255

/-- A dotted address of four numbers. -/
def isDotted (s : List Char) : Bool :=
  let octets := splitWhere (· == '.') s
  octets.length == 4 && octets.all isOctet

/-- One of the eight parts of a colon address: one to four hexadecimal digits. -/
def isHextet (s : List Char) : Bool :=
  !s.isEmpty && s.length ≤ 4 && s.all fun c => (hexDigit? c).isSome

/-- The parts of a colon address, with a dotted address at its end counted as two of them. -/
def colonParts? (s : List Char) : Option (List (List Char)) :=
  let parts := splitWhere (· == ':') s
  match parts.getLast? with
  | some last =>
    if last.contains '.' then
      if isDotted last then some (parts.dropLast ++ [['0'], ['0']]) else none
    else some parts
  | none => none

/-- The parts on one side of a double colon: an empty part at the outer end is allowed only when the
double colon stands there. -/
def besideGap? (parts : List (List Char)) : Option (List (List Char)) :=
  if parts == [[]] then some []
  else if parts.all isHextet then some parts
  else none

/-- Eight parts, or fewer with one double colon that stands for the rest. -/
def isColonParts (parts : List (List Char)) : Bool :=
  let inner := (parts.drop 1).dropLast
  match inner.count [] with
  | 0 => parts.length == 8 && parts.all isHextet
  | 1 =>
    let gap := 1 + (inner.takeWhile (· != [])).length
    match besideGap? (parts.take gap), besideGap? (parts.drop (gap + 1)) with
    | some high, some low => high.length + low.length < 8
    | _, _ => false
  | _ => false

/-- A colon address of at least two colons. -/
def isColonAddress (s : List Char) : Bool :=
  2 ≤ s.count ':' &&
    match colonParts? s with
    | some parts => parts.length ≤ 9 && isColonParts parts
    | none => false

/-- A colon address, possibly with a zone after a percent sign. -/
def isZonedAddress (s : List Char) : Bool :=
  match cutFirst '%' s with
  | (address, none) => isColonAddress address
  | (address, some zone) => !zone.isEmpty && !zone.contains '%' && isColonAddress address

/-- An address of a later version: `v`, hexadecimal digits, a point and something more. -/
def isFutureAddress (s : List Char) : Bool :=
  match s with
  | 'v' :: rest =>
    let version := rest.takeWhile fun c => (hexDigit? c).isSome
    !version.isEmpty &&
      match rest.dropWhile fun c => (hexDigit? c).isSome with
      | '.' :: more => !more.isEmpty && more.all (· != '\n')
      | _ => false
  | _ => false

/-- What may stand in brackets. -/
def isBracketable (host : List Char) : Bool :=
  if host.head? == some 'v' then isFutureAddress host else isZonedAddress host

/-- The part of an authority behind the user. -/
def hostAndPort (authority : List Char) : List Char :=
  (cutLast '@' authority).2

/-- Whether the brackets of an authority, if it has any, stand around an address with nothing
before them and only a port after them.  That is the rule since release 3.11.12 of the standard
reader; earlier ones look at the host between the brackets alone. -/
def bracketsFit (authority : List Char) : Bool :=
  match authority.contains '[', authority.contains ']' with
  | false, false => true
  | true, true =>
    match cutFirst '[' (hostAndPort authority) with
    | (before, some bracketed) =>
      let (host, after) := cutFirst ']' bracketed
      let port := after.getD []
      before.isEmpty && (port.isEmpty || port.head? == some ':') && isBracketable host
    | (plain, none) => isBracketable (cutFirst ':' plain).1
  | _, _ => false

/-- Characters that normalise to text with a delimiter of addresses in it. -/
def delimiterLookalikes : List Nat := [
  0x2047, 0x2048, 0x2049, 0x2100, 0x2101, 0x2105, 0x2106, 0x2A74, 0xFE13, 0xFE16, 0xFE55, 0xFE56,
  0xFE5F, 0xFE6B, 0xFF03, 0xFF0F, 0xFF1A, 0xFF1F, 0xFF20
]

/-- Whether an authority keeps its structure under normalisation. -/
def isStable (authority : List Char) : Bool :=
  authority.all fun c => !delimiterLookalikes.contains c.toNat

end HeadLint.Url
