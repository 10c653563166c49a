/-!
Base64 with strict rules: only the standard alphabet, padding only at the end, and nothing after a
group that padding has completed.  `encode` writes the standard form.
-/

namespace HeadLint.Base64

/-- Why a text is not base64. -/
inductive Fault where
  | notAscii
  | leadingPadding
  | excessData
  | foreignCharacter
  | brokenPadding
  | danglingCharacter (count : Nat)
  | incompletePadding
deriving DecidableEq

/-- The account of a fault. -/
def Fault.message : Fault → String
  | .notAscii => "string argument should contain only ASCII characters"
  | .leadingPadding => "Leading padding not allowed"
  | .excessData => "Excess data after padding"
  | .foreignCharacter => "Only base64 data is allowed"
  | .brokenPadding => "Discontinuous padding not allowed"
  | .danglingCharacter count =>
    s!"Invalid base64-encoded string: number of data characters ({count}) " ++
      "cannot be 1 more than a multiple of 4"
  | .incompletePadding => "Incorrect padding"

/-- The six bits of a character of the alphabet. -/
def sextet? (c : Char) : Option Nat :=
  if 'A' ≤ c ∧ c ≤ 'Z' then some (c.toNat - 65)
  else if 'a' ≤ c ∧ c ≤ 'z' then some (c.toNat - 71)
  else if '0' ≤ c ∧ c ≤ '9' then some (c.toNat + 4)
  else if c = '+' then some 62
  else if c = '/' then some 63
  else none

/-- The character for six bits. -/
def letter (n : Nat) : Char :=
  if n < 26 then Char.ofNat (n + 65)
  else if n < 52 then Char.ofNat (n + 71)
  else if n < 62 then Char.ofNat (n - 4)
  else if n = 62 then '+' else '/'

/-- Where reading stands: the characters read of the current group of four, the bits of them that
are not yet part of a byte, the padding seen, and all data characters seen. -/
structure Progress where
  filled : Nat := 0
  carry : Nat := 0
  pads : Nat := 0
  seen : Nat := 0

/-- Takes in six bits: the byte they complete, if any, and the progress after them. -/
def Progress.take (p : Progress) (v : Nat) : Option UInt8 × Progress :=
  match p.filled with
  | 0 => (none, { p with filled := 1, carry := v, seen := p.seen + 1 })
  | 1 => (some (UInt8.ofNat (p.carry * 4 + v / 16)),
      { p with filled := 2, carry := v % 16, seen := p.seen + 1 })
  | 2 => (some (UInt8.ofNat (p.carry * 16 + v / 4)),
      { p with filled := 3, carry := v % 4, seen := p.seen + 1 })
  | _ => (some (UInt8.ofNat (p.carry * 64 + v)),
      { p with filled := 0, carry := 0, seen := p.seen + 1 })

/-- Decodes from a given progress on. -/
def decodeFrom (p : Progress) : List Char → Except Fault (List UInt8)
  | [] =>
    match p.filled with
    | 0 => .ok []
    | 1 => .error (.danglingCharacter p.seen)
    | _ => .error .incompletePadding
  | c :: rest =>
    if c = '=' then
      if 2 ≤ p.filled ∧ 4 ≤ p.filled + p.pads + 1 then
        if rest.isEmpty then .ok [] else .error .excessData
      else decodeFrom { p with pads := p.pads + 1 } rest
    else
      match sextet? c with
      | none => .error .foreignCharacter
      | some v =>
        if 0 < p.pads then .error .brokenPadding
        else
          match p.take v with
          | (some byte, p) => (decodeFrom p rest).map (byte :: ·)
          | (none, p) => decodeFrom p rest

/-- The bytes that a base64 text stands for. -/
def decode (s : List Char) : Except Fault (List UInt8) :=
  if s.any fun c => 0x80 ≤ c.toNat then .error .notAscii
  else if s.head? = some '=' then .error .leadingPadding
  else decodeFrom {} s

/-- The padding that fills a text up to a multiple of four characters. -/
def fillUp (s : List Char) : List Char :=
  s ++ List.replicate ((4 - s.length % 4) % 4) '='

/-- The standard base64 form of a list of bytes. -/
def encode : List UInt8 → List Char
  | [] => []
  | [a] => [letter (a.toNat / 4), letter (a.toNat % 4 * 16), '=', '=']
  | [a, b] =>
    [letter (a.toNat / 4), letter (a.toNat % 4 * 16 + b.toNat / 16),
      letter (b.toNat % 16 * 4), '=']
  | a :: b :: c :: rest =>
    letter (a.toNat / 4) :: letter (a.toNat % 4 * 16 + b.toNat / 16) ::
      letter (b.toNat % 16 * 4 + c.toNat / 64) :: letter (c.toNat % 64) :: encode rest

end HeadLint.Base64
