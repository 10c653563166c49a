import HeadLint.Calendar
import HeadLint.Decimal.Shortest
import HeadLint.Json.Reader
import HeadLint.Text.Base64
import HeadLint.Text.Blank
import HeadLint.Text.Utf8

/-!
Origin-trial tokens.  A token is the base64 form of one version byte, a signature of 64 bytes, the
length of the payload in four bytes, and the payload, a JSON object; bytes after the payload are
ignored.
-/

namespace HeadLint.Trial

open Text

/-- A decoded token. -/
structure Token where
  version : Nat
  signature : List UInt8
  origin : String
  feature : String := ""
  expiry : Instant
  isSubdomain : Bool := false
  isThirdParty : Bool := false
  usage : Option String := none
deriving DecidableEq

/-- Why a text is not a token. -/
inductive Fault where
  | notBase64 (fault : Base64.Fault)
  | tooShort (size : Nat)
  | payloadBeyond (length remaining : Nat)
  | notUtf8 (fault : Utf8Fault)
  | malformedJson (payload : List Char) (cause : Json.Cause) (offset : Nat)
  | notObject
  | noOrigin
  | noExpiry
  | wholeExpiryOutOfRange (seconds : Int)
  | expiryOutOfRange (seconds : Binary64)
deriving DecidableEq

/-- Decoding stops at a fault of the token, or because a number in the payload is too long to be
converted at all. -/
inductive Failure where
  | fault (fault : Fault)
  | tooManyDigits (overflow : DigitOverflow)
deriving DecidableEq

/-- The number of bytes of a signature. -/
def signatureLength : Nat := 64

/-- Version, signature and length of the payload. -/
def headerLength : Nat := 1 + signatureLength + 4

/-- The account of bytes that are not UTF-8. -/
def utf8Message (f : Utf8Fault) : String :=
  let reason :=
    match f.reason with
    | .invalidStart => "invalid start byte"
    | .invalidContinuation => "invalid continuation byte"
    | .unexpectedEnd => "unexpected end of data"
  if f.count == 1 then
    let n := f.first.toNat
    let byte := String.ofList [hexChar (n / 16), hexChar (n % 16)]
    s!"'utf-8' codec can't decode byte 0x{byte} in position {f.start}: {reason}"
  else
    s!"'utf-8' codec can't decode bytes in position {f.start}-{f.start + f.count - 1}: {reason}"

/-- The account of a fault. -/
def Fault.message (fault : Fault) : String :=
  "Unable to decode token: " ++
    match fault with
    | .notBase64 f => s!"invalid base64 ({f.message})"
    | .tooShort size => s!"{size} bytes is shorter than the {headerLength}-byte header"
    | .payloadBeyond length remaining =>
      s!"payload length {length} exceeds the {remaining} bytes remaining"
    | .notUtf8 f => s!"payload is not JSON ({utf8Message f})"
    | .malformedJson payload cause offset =>
      s!"payload is not JSON ({Json.malformedMessage payload cause offset})"
    | .notObject => "payload is not a JSON object"
    | .noOrigin => "payload has no origin"
    | .noExpiry => "payload has no numeric expiry"
    | .wholeExpiryOutOfRange seconds => s!"expiry {seconds} is out of range"
    | .expiryOutOfRange seconds => s!"expiry {seconds.toText} is out of range"

/-- The bytes of a token; white space is ignored everywhere and missing padding is added. -/
def readBytes (text : List Char) : Except Fault (List UInt8) :=
  match Base64.decode (Base64.fillUp (text.filter fun c => !isBlank c)) with
  | .ok bytes => .ok bytes
  | .error f => .error (.notBase64 f)

/-- The number that bytes stand for, the most significant first. -/
def bigEndian (bytes : List UInt8) : Nat :=
  ofDigits 256 (bytes.map UInt8.toNat)

/-- Version, signature and payload of a token's bytes. -/
def cutPayload (bytes : List UInt8) : Except Fault (Nat × List UInt8 × List UInt8) :=
  if bytes.length < headerLength then .error (.tooShort bytes.length)
  else
    let signature := (bytes.drop 1).take signatureLength
    let length := bigEndian ((bytes.drop (1 + signatureLength)).take 4)
    let rest := bytes.drop headerLength
    if rest.length < length then .error (.payloadBeyond length rest.length)
    else .ok ((bytes.headD 0).toNat, signature, rest.take length)

/-- The value that a payload denotes. -/
def readPayload (payload : List UInt8) : Except Failure Json :=
  match decodeUtf8 payload with
  | .error f => .error (.fault (.notUtf8 f))
  | .ok text =>
    match Json.read text with
    | .ok value => .ok value
    | .error (.malformed cause offset) => .error (.fault (.malformedJson text cause offset))
    | .error (.tooManyDigits overflow) => .error (.tooManyDigits overflow)

/-- A whole number of seconds as an instant, within the years that have a date. -/
def wholeInstant? (seconds : Int) : Option Instant :=
  let t : Instant := ⟨seconds * Instant.second⟩
  if t.inRange then some t else none

/-- A double-precision number of seconds as an instant.  The fraction is multiplied out in double
precision and then rounded to whole microseconds, a half going to the even neighbour. -/
def floatInstant? : Binary64 → Option Instant
  | .finite negative m e =>
    let den := Binary64.pow2 (-e).toNat
    let num := m * Binary64.pow2 e.toNat
    let micros :=
      match Binary64.ofRatio false (num % den * 1000000) den with
      | .finite _ m e =>
        Binary64.roundHalfEven (m * Binary64.pow2 e.toNat) (Binary64.pow2 (-e).toNat)
      | _ => 0
    let total : Int := (num / den : Nat) * Instant.second + micros
    let t : Instant := ⟨if negative then -total else total⟩
    if t.inRange then some t else none
  | _ => none

/-- The instant at which a token expires. -/
def readExpiry (expiry : Option Json) : Except Fault Instant :=
  match expiry with
  | some (.int n) => (wholeInstant? n).elim (.error (.wholeExpiryOutOfRange n)) .ok
  | some (.float x) => (floatInstant? x).elim (.error (.expiryOutOfRange x)) .ok
  | _ => .error .noExpiry

/-- Whether a member of the payload is the literal `true`. -/
def flag (name : String) (members : Entries Json) : Bool :=
  match Entries.get? name members with
  | some (.bool b) => b
  | _ => false

/-- The token whose payload is a given value. -/
def ofPayload (version : Nat) (signature : List UInt8) (payload : Json) : Except Fault Token :=
  match payload with
  | .obj members =>
    match (Entries.get? "origin" members).bind Json.str? with
    | none => .error .noOrigin
    | some origin =>
      match readExpiry (Entries.get? "expiry" members) with
      | .error fault => .error fault
      | .ok expiry =>
        .ok {
          version, signature, origin, expiry
          feature := ((Entries.get? "feature" members).bind Json.str?).getD ""
          isSubdomain := flag "isSubdomain" members
          isThirdParty := flag "isThirdParty" members
          usage := (Entries.get? "usage" members).bind Json.str? }
  | _ => .error .notObject

/-- Decodes the text of a token. -/
def decode (text : List Char) : Except Failure Token :=
  match readBytes text with
  | .error fault => .error (.fault fault)
  | .ok bytes =>
    match cutPayload bytes with
    | .error fault => .error (.fault fault)
    | .ok (version, signature, payload) =>
      match readPayload payload with
      | .error failure => .error failure
      | .ok value =>
        match ofPayload version signature value with
        | .error fault => .error (.fault fault)
        | .ok token => .ok token

/-- Four bytes, the most significant first. -/
def lengthBytes (n : Nat) : List UInt8 :=
  [UInt8.ofNat (n / 16777216), UInt8.ofNat (n / 65536), UInt8.ofNat (n / 256), UInt8.ofNat n]

/-- The bytes of a token with a given payload, followed by any others. -/
def layOut (version : UInt8) (signature payload trailing : List UInt8) : List UInt8 :=
  version :: signature ++ lengthBytes payload.length ++ payload ++ trailing

end HeadLint.Trial
