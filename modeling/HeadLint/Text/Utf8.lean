/-!
Strict decoding of UTF-8.  Bytes are read one at a time; a fault names the bytes of the sequence
that could not be finished.
-/

namespace HeadLint.Text

/-- Why a sequence of bytes is not UTF-8. -/
inductive Utf8Reason where
  | invalidStart
  | invalidContinuation
  | unexpectedEnd
deriving DecidableEq

/-- The bytes at fault: `first` is the first of them, and they lie at offsets `start`, …,
`start + count - 1`. -/
structure Utf8Fault where
  first : UInt8
  start : Nat
  count : Nat
  reason : Utf8Reason
deriving DecidableEq

/-- A sequence that is not complete: its first byte and offset, how many bytes of it were read, the
bits they gave, how many bytes are missing, and the bounds of the next one. -/
structure Utf8Sequence where
  first : UInt8
  start : Nat
  seen : Nat
  bits : Nat
  missing : Nat
  low : Nat
  high : Nat

/-- How a byte beyond ASCII starts a sequence.  The bounds of the second byte shut out overlong
forms, surrogates and code points beyond U+10FFFF. -/
def Utf8Sequence.start? (b : UInt8) (offset : Nat) : Option Utf8Sequence :=
  let n := b.toNat
  if n < 0xC2 then none
  else if n < 0xE0 then some ⟨b, offset, 1, n - 0xC0, 1, 0x80, 0xBF⟩
  else if n == 0xE0 then some ⟨b, offset, 1, 0, 2, 0xA0, 0xBF⟩
  else if n == 0xED then some ⟨b, offset, 1, 13, 2, 0x80, 0x9F⟩
  else if n < 0xF0 then some ⟨b, offset, 1, n - 0xE0, 2, 0x80, 0xBF⟩
  else if n == 0xF0 then some ⟨b, offset, 1, 0, 3, 0x90, 0xBF⟩
  else if n < 0xF4 then some ⟨b, offset, 1, n - 0xF0, 3, 0x80, 0xBF⟩
  else if n == 0xF4 then some ⟨b, offset, 1, 4, 3, 0x80, 0x8F⟩
  else none

/-- The fault of a sequence that breaks off. -/
def Utf8Sequence.fault (q : Utf8Sequence) (reason : Utf8Reason) : Utf8Fault :=
  ⟨q.first, q.start, q.seen, reason⟩

/-- Decodes the bytes from `offset` on, with `open?` the sequence under way. -/
def decodeUtf8From (offset : Nat) (open? : Option Utf8Sequence) :
    List UInt8 → Except Utf8Fault (List Char)
  | [] =>
    match open? with
    | none => .ok []
    | some q => .error (q.fault .unexpectedEnd)
  | b :: rest =>
    match open? with
    | none =>
      if b.toNat < 0x80 then
        (decodeUtf8From (offset + 1) none rest).map (Char.ofNat b.toNat :: ·)
      else
        match Utf8Sequence.start? b offset with
        | none => .error ⟨b, offset, 1, .invalidStart⟩
        | some q => decodeUtf8From (offset + 1) (some q) rest
    | some q =>
      if q.low ≤ b.toNat ∧ b.toNat ≤ q.high then
        let bits := q.bits * 64 + (b.toNat - 0x80)
        if q.missing ≤ 1 then
          (decodeUtf8From (offset + 1) none rest).map (Char.ofNat bits :: ·)
        else
          decodeUtf8From (offset + 1)
            (some { q with seen := q.seen + 1, bits, missing := q.missing - 1, low := 0x80,
                           high := 0xBF })
            rest
      else .error (q.fault .invalidContinuation)

/-- The text that a list of bytes encodes. -/
def decodeUtf8 (bytes : List UInt8) : Except Utf8Fault (List Char) :=
  decodeUtf8From 0 none bytes

end HeadLint.Text
