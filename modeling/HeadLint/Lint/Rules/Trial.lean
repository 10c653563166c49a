import HeadLint.Lint.Rule
import HeadLint.Trial.Verdict

/-!
The rule on origin-trial tokens.
-/

namespace HeadLint.Rules

/-- The identity and the messages of `noInvalidOriginTrial`. -/
def noInvalidOriginTrialInfo : RuleInfo :=
  { name := "no-invalid-origin-trial"
    category := "Possible Errors"
    description := "Disallow invalid or expired origin trial tokens"
    codes := sortCodes ["missingContent", "emptyToken", "invalidToken", "expiredToken",
      "invalidOrigin", "invalidSubdomain"]
    messages := [
      ("missingContent", "Origin trial meta tag is missing the content attribute"),
      ("emptyToken", "Origin trial token cannot be empty"),
      ("invalidToken", "Origin trial token is invalid or malformed"),
      ("expiredToken", "Origin trial token expired on {expiryDate}"),
      ("invalidOrigin",
        "Origin trial token is for {tokenOrigin} but expected {expectedOrigin}"),
      ("invalidSubdomain", "Origin trial token requires isSubdomain flag for subdomain usage"),
      ("removeTag", "Remove this origin trial meta tag")] }

/-- Verdicts after which the whole element is of no use. -/
def removableCodes : List String := ["expiredToken", "emptyToken", "invalidToken"]

/-- The report on one element with a token.  An element whose content is not text has nothing to
decode. -/
def reportTrial (options : Options) (e : Element) : Except DigitOverflow (List Diagnostic) :=
  let removal := [noInvalidOriginTrialInfo.removeElement "removeTag" e false true]
  match e.findAttribute? "content" with
  | none => .ok [noInvalidOriginTrialInfo.report "missingContent" e [] removal]
  | some none => .ok []
  | some (some content) =>
    match Trial.judge (some content) (.ofText? options.expectedOrigin) options.now with
    | .error overflow => .error overflow
    | .ok verdict =>
      match verdict.code? with
      | none => .ok []
      | some code =>
        let edits := if removableCodes.contains code then removal else []
        .ok [noInvalidOriginTrialInfo.report code e verdict.data edits]

/-- The reports on several elements, in order. -/
def reportTrials (options : Options) : List Element → Except DigitOverflow (List Diagnostic)
  | [] => .ok []
  | e :: rest =>
    match reportTrial options e with
    | .error overflow => .error overflow
    | .ok reports => (reportTrials options rest).map (reports ++ ·)

/-- Tokens decode, are not expired and belong to the site. -/
def noInvalidOriginTrial : Rule :=
  { noInvalidOriginTrialInfo with
    check := fun head options =>
      reportTrials options ((head.each Element.isTrial).map (·.2)) }

end HeadLint.Rules
