import HeadLint.Proofs.Json.Overflow
import HeadLint.Proofs.Lint.Provenance
import HeadLint.Proofs.Trial.RoundTrip

/-!
When a token has no verdict.  Every stage of decoding has its own fault, with one exception: a whole
number in the payload that is too long is no fault of the token but ends the whole run.
-/

namespace HeadLint.Trial

open Text

/-- `Overlong text n`: the payload of a token is there and is text, but a whole number in it has
`n` digits, more than are converted. -/
def Overlong (text : List Char) (n : Nat) : Prop :=
  ∃ bytes version signature payload content, readBytes text = .ok bytes ∧
    cutPayload bytes = .ok (version, signature, payload) ∧ decodeUtf8 payload = .ok content ∧
    Json.Overlong content n

theorem readPayload_overflow_iff {payload : List UInt8} {overflow : DigitOverflow} :
    readPayload payload = .error (.tooManyDigits overflow) ↔
      ∃ content, decodeUtf8 payload = .ok content ∧ Json.Overlong content overflow.count := by
  unfold readPayload
  cases decodeUtf8 payload with
  | error fault => simp
  | ok content =>
    simp only [← Json.read_overflow_iff, Except.ok.injEq, exists_eq_left']
    cases Json.read content with
    | ok value => simp
    | error fault => cases fault <;> simp

/-- Decoding stops without a fault exactly when it comes to a number that is too long. -/
theorem decode_overflow_iff {text : List Char} {overflow : DigitOverflow} :
    decode text = .error (.tooManyDigits overflow) ↔ Overlong text overflow.count := by
  constructor
  · intro h
    unfold decode at h
    split at h
    · cases h
    · rename_i bytes hbytes
      split at h
      · cases h
      · rename_i version signature payload hcut
        split at h
        · rename_i failure hread
          obtain rfl := Except.error.inj h
          obtain ⟨content, hutf8, hlong⟩ := readPayload_overflow_iff.1 hread
          exact ⟨bytes, version, signature, payload, content, hbytes, hcut, hutf8, hlong⟩
        · split at h <;> cases h
  · rintro ⟨bytes, version, signature, payload, content, hbytes, hcut, hutf8, hlong⟩
    have hread := readPayload_overflow_iff.2 ⟨content, hutf8, hlong⟩
    simp only [decode, hbytes, hcut, hread]

theorem decode_handled_iff (text : List Char) :
    ((∃ token, decode text = .ok token) ∨ ∃ fault, decode text = .error (.fault fault)) ↔
      ∀ n, ¬ Overlong text n := by
  have hiff : ∀ n, decode text = .error (.tooManyDigits ⟨n⟩) ↔ Overlong text n :=
    fun n => decode_overflow_iff
  simp only [← hiff]
  cases decode text with
  | ok token => simp
  | error failure =>
    cases failure with
    | fault fault => simp
    | tooManyDigits overflow => simpa using ⟨overflow.count, rfl⟩

-- A text of white space has no payload.
theorem not_overlong_of_blank {text : List Char} (h : isBlankText text = true) (n : Nat) :
    ¬ Overlong text n := by
  rintro ⟨bytes, version, signature, payload, content, hbytes, hcut, -, -⟩
  have hnone : text.filter (fun c => !isBlank c) = [] := by
    rw [List.filter_eq_nil_iff]
    intro c hc
    have hblank : isBlank c = true := List.all_eq_true.1 h c hc
    simp [hblank]
  have hempty : readBytes text = .ok [] := by
    rw [readBytes, hnone]
    rfl
  obtain rfl := Except.ok.inj (hempty.symm.trans hbytes)
  cases hcut

theorem judge_handled_iff (text : String) (expected : Json) (now : Instant) :
    (∃ verdict, judge (some text) expected now = .ok verdict) ↔
      ∀ n, ¬ Overlong text.toList n := by
  by_cases hblank : isBlankText text.toList = true
  · rw [judge, if_pos hblank]
    exact ⟨fun _ => not_overlong_of_blank hblank, fun _ => ⟨_, rfl⟩⟩
  · rw [← decode_handled_iff, judge, if_neg hblank]
    cases decode text.toList with
    | ok token => simp
    | error failure => cases failure <;> simp

/-! ## The rule -/

-- An element is reported on when its content, if it has any, has a verdict.
theorem reportTrial_handled_iff (options : Options) (e : Element) :
    (∃ found, Rules.reportTrial options e = .ok found) ↔
      ∀ content, e.findAttribute? "content" = some (some content) →
        ∀ n, ¬ Overlong content.toList n := by
  unfold Rules.reportTrial
  dsimp only
  split
  · rename_i hcontent
    simp [hcontent]
  · rename_i hcontent
    simp [hcontent]
  · rename_i content hcontent
    simp only [hcontent, Option.some.injEq, forall_eq']
    rw [← judge_handled_iff content (.ofText? options.expectedOrigin) options.now]
    cases judge (some content) (.ofText? options.expectedOrigin) options.now with
    | error overflow => simp
    | ok verdict =>
      refine iff_of_true ?_ ⟨verdict, rfl⟩
      dsimp only
      split <;> exact ⟨_, rfl⟩

-- The elements are reported on one after the other.
theorem reportTrials_handled_iff (options : Options) (elements : List Element) :
    (∃ found, Rules.reportTrials options elements = .ok found) ↔
      ∀ e ∈ elements, ∃ found, Rules.reportTrial options e = .ok found := by
  induction elements with
  | nil => simp [Rules.reportTrials]
  | cons e rest ih =>
    rw [Rules.reportTrials, List.forall_mem_cons, ← ih]
    cases Rules.reportTrial options e with
    | error overflow => simp
    | ok reports => cases Rules.reportTrials options rest <;> simp [Except.map]

/-- A token is decoded or has a fault, the text of a token has a verdict, and the rule on tokens has
its reports, exactly when no number of a payload in question is too long. -/
theorem handled_iff_not_overlong (token : List Char) (text : Option String) (expected : Json)
    (now : Instant) (head : Head) (options : Options) :
    (((∃ found, decode token = .ok found) ∨ ∃ fault, decode token = .error (.fault fault)) ↔
      ∀ n, ¬ Overlong token n) ∧
    ((∃ verdict, judge text expected now = .ok verdict) ↔
      ∀ s ∈ text, ∀ n, ¬ Overlong s.toList n) ∧
    ((∃ found, Rules.noInvalidOriginTrial.check head options = .ok found) ↔
      ∀ e ∈ head.children, e.isTrial = true → ∀ content,
        e.findAttribute? "content" = some (some content) → ∀ n, ¬ Overlong content.toList n) := by
  refine ⟨decode_handled_iff token, ?_, ?_⟩
  · cases text with
    | none => simp [judge]
    | some text => simpa using judge_handled_iff text expected now
  · have hcheck : Rules.noInvalidOriginTrial.check head options =
        Rules.reportTrials options ((head.each Element.isTrial).map (·.2)) := rfl
    rw [hcheck, reportTrials_handled_iff]
    simp only [reportTrial_handled_iff, Head.map_snd_each, List.mem_filter, and_imp]

/-- A payload whose expiry has one digit too many. -/
def longExpiry : List Char :=
  "\x7b\"expiry\":".toList ++ (List.replicate 4301 '1' ++ ['\x7d'])

theorem reaches_expiry (rest : List Char) :
    Json.Reaches ⟨[.member [] "expiry"], .value⟩ rest 0 0 {}
      ("\x7b\"expiry\":".toList ++ rest) := by
  refine .step rfl rfl (.step rfl rfl ?_)
  refine .skip (.skip (.skip (.skip (.skip (.skip (.skip (.step rfl rfl .here)))))))

theorem overlong_longExpiry : Json.Overlong longExpiry 4301 := by
  refine ⟨by decide, _, _, reaches_expiry _, .inl rfl, .inl ⟨by decide, ?_⟩⟩
  refine ⟨List.replicate 4301 '1', ['\x7d'], rfl, List.length_replicate, ?_, by simp, ?_, ?_, ?_⟩
  · intro d hd
    rw [List.eq_of_mem_replicate hd]
    decide
  · exact stops_cons.2 (by decide)
  · rintro ⟨d, rest, heq, -⟩
    exact absurd (List.cons.inj heq).1 (by decide)
  · rintro ⟨e, sign, d, rest, heq, he, -⟩
    rw [← (List.cons.inj heq).1] at he
    exact absurd he (by decide)

/-- A token with this payload is neither decoded nor found at fault. -/
theorem decode_longExpiry :
    decode (Base64.encode (layOut 3 (List.replicate 64 0) (utf8Bytes longExpiry) [])) =
      .error (.tooManyDigits ⟨4301⟩) := by
  refine decode_overflow_iff.2 ⟨_, _, _, _, longExpiry, readBytes_encode _,
    cutPayload_layOut 3 _ _ [] List.length_replicate ?_, decodeUtf8_encode _, overlong_longExpiry⟩
  decide +kernel

end HeadLint.Trial
