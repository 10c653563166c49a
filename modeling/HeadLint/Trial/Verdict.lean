import HeadLint.Check.Problem
import HeadLint.Trial.Token
import HeadLint.Url.Origin

/-!
What becomes of a token at a given time on a given site.
-/

namespace HeadLint.Trial

open Text

/-- The outcome of checking a token. -/
inductive Verdict where
  | valid (token : Token)
  | empty
  | invalid (fault : Fault)
  | expired (token : Token)
  | wrongOrigin (token : Token) (expected : Json)
  | wrongSubdomain (token : Token) (expected : String)

namespace Verdict

/-- The code of a failure. -/
def code? : Verdict → Option String
  | .valid _ => none
  | .empty => some "emptyToken"
  | .invalid _ => some "invalidToken"
  | .expired _ => some "expiredToken"
  | .wrongOrigin .. => some "invalidOrigin"
  | .wrongSubdomain .. => some "invalidSubdomain"

/-- What a report says about a failure. -/
def data : Verdict → Entries Json
  | .valid _ | .empty => []
  | .invalid fault => [("error", .str fault.message)]
  | .expired token => [("expiryDate", .str token.expiry.date.toText)]
  | .wrongOrigin token expected =>
    [("tokenOrigin", .str token.origin), ("expectedOrigin", expected)]
  | .wrongSubdomain token expected =>
    [("tokenOrigin", .str token.origin), ("expectedOrigin", .str expected)]

/-- The token, when there is one. -/
def token? : Verdict → Option Token
  | .valid token | .expired token | .wrongOrigin token _ | .wrongSubdomain token _ => some token
  | .empty | .invalid _ => none

end Verdict

/-- Checks the origin of a token against that of the site.  A token for a parent domain needs the
flag that extends it to subdomains. -/
def judgeOrigin (token : Token) (expected : String) : Verdict :=
  if Origin.same token.origin expected then .valid token
  else if Origin.isSubdomain token.origin expected then
    if token.isSubdomain then .valid token else .wrongSubdomain token expected
  else .wrongOrigin token (.str expected)

/-- Checks the origin of a token against a value that names the site.  A value that counts as
nothing is not looked at, and one that is not text is no origin. -/
def judgeSite (token : Token) (expected : Json) : Verdict :=
  if expected.isNothing then .valid token
  else
    match expected with
    | .str origin => judgeOrigin token origin
    | other => .wrongOrigin token other

/-- Checks a decoded token: its expiry first, then its origin when one is expected. -/
def judgeToken (token : Token) (expected : Json) (now : Instant) : Verdict :=
  if token.expiry.micros < now.micros then .expired token else judgeSite token expected

/-- Checks the text of a token.  The only way not to reach a verdict is a number in the payload
that is too long. -/
def judge (text : Option String) (expected : Json) (now : Instant) :
    Except DigitOverflow Verdict :=
  match text with
  | none => .ok .empty
  | some text =>
    if isBlankText text.toList then .ok .empty
    else
      match decode text.toList with
      | .ok token => .ok (judgeToken token expected now)
      | .error (.fault fault) => .ok (.invalid fault)
      | .error (.tooManyDigits overflow) => .error overflow

end HeadLint.Trial
