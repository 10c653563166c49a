import HeadLint.Proofs.Calendar
import HeadLint.Proofs.Timestamp
import HeadLint.Proofs.Trial.RoundTrip
import HeadLint.Proofs.Url.Origin
import HeadLint.Trial.Verdict

/-!
When a token gets which verdict.  The checks are made in a fixed order, and each failure has its own
condition on the text, the time and the site; what passes them all is valid, and was valid before.
-/

namespace HeadLint.Trial

open Text

/-- There is no text, or it has nothing but white space. -/
def Missing (text : Option String) : Prop :=
  ∀ s ∈ text, ∀ c ∈ s.toList, isBlank c = true

/-- There is a text, and it is not a token. -/
def Faulty (text : Option String) : Prop :=
  ¬ Missing text ∧ ∃ s ∈ text, ∃ fault, decode s.toList = .error (.fault fault)

/-- There is a text, and it is the given token. -/
def Holds (text : Option String) (token : Token) : Prop :=
  ¬ Missing text ∧ ∃ s ∈ text, decode s.toList = .ok token

namespace Token

/-- The token expires before a point in time. -/
def Expired (token : Token) (now : Instant) : Prop :=
  token.expiry.micros < now.micros

instance (token : Token) (now : Instant) : Decidable (token.Expired now) :=
  inferInstanceAs (Decidable (_ < _))

/-- The site is named and is a subdomain of the token's origin, and the token does not extend to
subdomains. -/
def Unextended (token : Token) (site : Option String) : Prop :=
  ∃ e ∈ site, e ≠ "" ∧ Origin.isSubdomain token.origin e = true ∧ token.isSubdomain = false

/-- The site is named, and is neither of the token's origin nor a subdomain of it. -/
def Foreign (token : Token) (site : Option String) : Prop :=
  ∃ e ∈ site, e ≠ "" ∧ Origin.same token.origin e = false ∧
    Origin.isSubdomain token.origin e = false

end Token

/-- `Judged text site now verdict`: the verdict on a text, with what it takes to reach it. -/
inductive Judged (text site : Option String) (now : Instant) : Verdict → Prop where
  | empty : Missing text → Judged text site now .empty
  | invalid {fault : Fault} : Faulty text → Judged text site now (.invalid fault)
  | expired {token : Token} :
    Holds text token → token.Expired now → Judged text site now (.expired token)
  | wrongSubdomain {token : Token} {e : String} : Holds text token → ¬ token.Expired now →
    token.Unextended site → Judged text site now (.wrongSubdomain token e)
  | wrongOrigin {token : Token} {e : Json} : Holds text token → ¬ token.Expired now →
    token.Foreign site → Judged text site now (.wrongOrigin token e)
  | valid {token : Token} : Holds text token → ¬ token.Expired now → ¬ token.Unextended site →
    ¬ token.Foreign site → Judged text site now (.valid token)

/-! ## The checks -/

section

variable {text site : Option String} {now : Instant} {token : Token}

theorem Holds.not_faulty (h : Holds text token) : ¬ Faulty text := by
  rintro ⟨-, s, hs, fault, hfault⟩
  obtain ⟨-, s', hs', htoken⟩ := h
  obtain rfl := Option.some.inj (hs.symm.trans hs')
  rw [hfault] at htoken
  cases htoken

theorem Holds.holds_iff {other : Token} (h : Holds text token) :
    Holds text other ↔ other = token := by
  constructor
  · rintro ⟨-, s, hs, hother⟩
    obtain ⟨-, s', hs', htoken⟩ := h
    obtain rfl := Option.some.inj (hs.symm.trans hs')
    exact Except.ok.inj (hother.symm.trans htoken)
  · rintro rfl
    exact h

theorem Token.Unextended.not_foreign (h : token.Unextended site) : ¬ token.Foreign site := by
  rintro ⟨e, he, -, -, hother⟩
  obtain ⟨e', he', -, hsub, -⟩ := h
  obtain rfl := Option.some.inj (he.symm.trans he')
  rw [hother] at hsub
  cases hsub

theorem judgeToken_of_expired {expected : Json} (h : token.Expired now) :
    judgeToken token expected now = .expired token :=
  if_pos h

theorem judgeToken_of_not_expired {expected : Json} (h : ¬ token.Expired now) :
    judgeToken token expected now = judgeSite token expected :=
  if_neg h

-- A token of the site's own origin is not one of a parent domain, so the order of the two checks
-- does not matter.
theorem judged_judgeOrigin {e : String} (hholds : Holds text token) (htime : ¬ token.Expired now)
    (he : e ≠ "") : Judged text (some e) now (judgeOrigin token e) := by
  have hunextended : token.Unextended (some e) ↔
      Origin.isSubdomain token.origin e = true ∧ token.isSubdomain = false := by
    simp [Token.Unextended, he]
  have hforeign : token.Foreign (some e) ↔
      Origin.same token.origin e = false ∧ Origin.isSubdomain token.origin e = false := by
    simp [Token.Foreign, he]
  unfold judgeOrigin
  split
  · rename_i hsame
    have hsub := Origin.isSubdomain_of_same hsame
    exact .valid hholds htime (by simp [hunextended, hsub]) (by simp [hforeign, hsame])
  · rename_i hsame
    split
    · rename_i hsub
      split
      · rename_i hflag
        exact .valid hholds htime (by simp [hunextended, hflag]) (by simp [hforeign, hsub])
      · rename_i hflag
        exact .wrongSubdomain hholds htime (hunextended.2 ⟨hsub, eq_false_of_ne_true hflag⟩)
    · rename_i hsub
      exact .wrongOrigin hholds htime
        (hforeign.2 ⟨eq_false_of_ne_true hsame, eq_false_of_ne_true hsub⟩)

theorem judged_judgeSite (hholds : Holds text token) (htime : ¬ token.Expired now) :
    Judged text site now (judgeSite token (.ofText? site)) := by
  cases site with
  | none => exact .valid hholds htime (by simp [Token.Unextended]) (by simp [Token.Foreign])
  | some e =>
    by_cases he : e = ""
    · subst he
      exact .valid hholds htime (by simp [Token.Unextended]) (by simp [Token.Foreign])
    · have hjudge : judgeSite token (.ofText? (some e)) = judgeOrigin token e := by
        simp [judgeSite, Json.ofText?, Json.isNothing, he]
      rw [hjudge]
      exact judged_judgeOrigin hholds htime he

variable (hdecode : ∀ s ∈ text, (∃ token, decode s.toList = .ok token) ∨
  ∃ fault, decode s.toList = .error (.fault fault))

include hdecode

-- A text has one of three fates, whatever the time and the site.
theorem judge_cases :
    (Missing text ∧ ∀ expected now, judge text expected now = .ok .empty) ∨
    (Faulty text ∧ ∃ fault, ∀ expected now, judge text expected now = .ok (.invalid fault)) ∨
    ∃ token, Holds text token ∧
      ∀ expected now, judge text expected now = .ok (judgeToken token expected now) := by
  cases text with
  | none => exact .inl ⟨by simp [Missing], fun _ _ => rfl⟩
  | some s =>
    have hmissing : isBlankText s.toList = true ↔ Missing (some s) := by
      simp [isBlankText, Missing]
    by_cases hblank : isBlankText s.toList = true
    · refine .inl ⟨hmissing.1 hblank, fun expected now => ?_⟩
      rw [judge, if_pos hblank]
    · have hthere : ¬ Missing (some s) := fun h => hblank (hmissing.2 h)
      rcases hdecode s rfl with ⟨token, htoken⟩ | ⟨fault, hfault⟩
      · refine .inr (.inr ⟨token, ⟨hthere, s, rfl, htoken⟩, fun expected now => ?_⟩)
        rw [judge, if_neg hblank, htoken]
      · refine .inr (.inl ⟨⟨hthere, s, rfl, fault, hfault⟩, fault, fun expected now => ?_⟩)
        rw [judge, if_neg hblank, hfault]

theorem exists_judged (site : Option String) (now : Instant) :
    ∃ verdict, judge text (.ofText? site) now = .ok verdict ∧ Judged text site now verdict := by
  rcases judge_cases hdecode with
    ⟨hmissing, hjudge⟩ | ⟨hfaulty, fault, hjudge⟩ | ⟨token, hholds, hjudge⟩
  · exact ⟨_, hjudge _ _, .empty hmissing⟩
  · exact ⟨_, hjudge _ _, .invalid hfaulty⟩
  · refine ⟨_, hjudge _ _, ?_⟩
    by_cases hexpired : token.Expired now
    · rw [judgeToken_of_expired hexpired]
      exact .expired hholds hexpired
    · rw [judgeToken_of_not_expired hexpired]
      exact judged_judgeSite hholds hexpired

-- Going back in time makes a difference to the expiry only, and that comes no nearer.
theorem judge_earlier {expected : Json} {verdict : Verdict} {earlier : Instant}
    (h : judge text expected now = .ok verdict) (hvalid : verdict.code? = none)
    (hle : earlier.micros ≤ now.micros) : judge text expected earlier = .ok verdict := by
  rcases judge_cases hdecode with ⟨-, hjudge⟩ | ⟨-, fault, hjudge⟩ | ⟨token, -, hjudge⟩
  · rw [hjudge] at h ⊢
    exact h
  · rw [hjudge] at h ⊢
    exact h
  · rw [hjudge] at h ⊢
    obtain rfl := Except.ok.inj h
    by_cases hexpired : token.Expired now
    · rw [judgeToken_of_expired hexpired] at hvalid
      cases hvalid
    · have hbefore : ¬ token.Expired earlier := by
        unfold Token.Expired at hexpired ⊢
        omega
      rw [judgeToken_of_not_expired hexpired, judgeToken_of_not_expired hbefore]

end

/-! ## The date of expiry -/

/-- `WholeExpiry text seconds`: the payload of a token is an object whose expiry is a whole number
of seconds. -/
def WholeExpiry (text : List Char) (seconds : Int) : Prop :=
  ∃ bytes version signature payload members, readBytes text = .ok bytes ∧
    cutPayload bytes = .ok (version, signature, payload) ∧
    readPayload payload = .ok (.obj members) ∧
    Entries.get? "expiry" members = some (.int seconds)

theorem wholeInstant?_eq_some {seconds : Int} {t : Instant} (h : wholeInstant? seconds = some t) :
    t = ⟨seconds * 1000000⟩ ∧ Instant.firstSecond ≤ seconds ∧ seconds ≤ Instant.lastSecond := by
  have hdiv : (seconds * Instant.second).fdiv Instant.second = seconds :=
    Int.mul_fdiv_cancel _ (by decide)
  simp only [wholeInstant?, Instant.inRange, hdiv, Bool.and_eq_true, decide_eq_true_eq,
    Option.ite_none_right_eq_some, Option.some.injEq] at h
  exact ⟨h.2.symm, h.1⟩

theorem expiry_of_wholeExpiry {text : List Char} {token : Token} {seconds : Int}
    (htoken : decode text = .ok token) (h : WholeExpiry text seconds) :
    token.expiry = ⟨seconds * 1000000⟩ ∧ Instant.firstSecond ≤ seconds ∧
      seconds ≤ Instant.lastSecond := by
  obtain ⟨bytes, version, signature, payload, members, hbytes, hcut, hpayload, hexpiry⟩ := h
  simp only [decode, hbytes, hcut, hpayload, ofPayload, hexpiry, readExpiry] at htoken
  cases horigin : (Entries.get? "origin" members).bind Json.str? with
  | none =>
    rw [horigin] at htoken
    cases htoken
  | some origin =>
    rw [horigin] at htoken
    cases hinstant : wholeInstant? seconds with
    | none =>
      rw [hinstant] at htoken
      cases htoken
    | some t =>
      rw [hinstant] at htoken
      obtain rfl := Except.ok.inj htoken
      exact wholeInstant?_eq_some hinstant

-- The date that is reported is that of the second at which the token expires.
theorem Judged.expiryDate {text site : Option String} {now : Instant} {verdict : Verdict}
    (h : Judged text site now verdict) (hcode : verdict.code? = some "expiredToken") {s : String}
    (hs : s ∈ text) {seconds : Int} (hseconds : WholeExpiry s.toList seconds) :
    ∃ date shown, (∀ d : Date, d.Covers seconds ↔ d = date) ∧ date.Written shown ∧
      verdict.data = [("expiryDate", .str shown)] := by
  cases h with
  | @expired token hholds _ =>
    obtain ⟨-, s', hs', htoken⟩ := hholds
    obtain rfl := Option.some.inj (hs'.symm.trans hs)
    obtain ⟨hexpiry, hlow, hhigh⟩ := expiry_of_wholeExpiry htoken hseconds
    have hcovers : ∀ d : Date, d.Covers seconds ↔ d = token.expiry.date := by
      intro d
      rw [hexpiry]
      exact Date.covers_iff
    exact ⟨_, _, hcovers, ((hcovers _).2 rfl).written_toText hlow hhigh, rfl⟩
  | _ => simp [Verdict.code?] at hcode

/-! ## The verdict -/

/-- Suppose that a text, if there is one, is decoded or has a fault.  Then there is a verdict: that
of an empty text when the text is missing; else that of a fault when there is one; else that of an
expired token when the expiry is before the time given; else, on a site that is named, that of a
subdomain when the site is one and the token does not extend to it, and that of another origin when
the site is neither of the token's origin nor a subdomain of it; and in all other cases the token is
valid, as it is at every earlier time.  An expiry in whole seconds is reported by the one date of
the calendar whose day it lies in.  A time without a distance from UTC is one of UTC. -/
theorem judge_verdict (text site : Option String) (now : Instant)
    (hdecode : ∀ s ∈ text, (∃ token, decode s.toList = .ok token) ∨
      ∃ fault, decode s.toList = .error (.fault fault)) :
    ∃ verdict, judge text (.ofText? site) now = .ok verdict ∧
      (verdict.code? = some "emptyToken" ↔ Missing text) ∧
      (verdict.code? = some "invalidToken" ↔ Faulty text) ∧
      (verdict.code? = some "expiredToken" ↔ ∃ token, Holds text token ∧ token.Expired now) ∧
      (verdict.code? = some "invalidSubdomain" ↔
        ∃ token, Holds text token ∧ ¬ token.Expired now ∧ token.Unextended site) ∧
      (verdict.code? = some "invalidOrigin" ↔
        ∃ token, Holds text token ∧ ¬ token.Expired now ∧ token.Foreign site) ∧
      (verdict.code? = none ↔ ¬ Missing text ∧ ¬ Faulty text ∧ ∀ token, Holds text token →
        ¬ token.Expired now ∧ ¬ token.Unextended site ∧ ¬ token.Foreign site) ∧
      (verdict.code? = none → ∀ earlier : Instant, earlier.micros ≤ now.micros →
        judge text (.ofText? site) earlier = .ok verdict) ∧
      (verdict.code? = some "expiredToken" → ∀ s ∈ text, ∀ seconds, WholeExpiry s.toList seconds →
        ∃ date shown, (∀ d : Date, d.Covers seconds ↔ d = date) ∧ date.Written shown ∧
          verdict.data = [("expiryDate", .str shown)]) ∧
      ∀ stamp : String, Timestamp.Naive stamp.toList → Timestamp.read stamp = .ok now →
        Timestamp.read (stamp ++ "+00:00") = .ok now := by
  obtain ⟨verdict, hjudge, hjudged⟩ := exists_judged hdecode site now
  have hearlier := fun (hcode : verdict.code? = none) (earlier : Instant)
    (hle : earlier.micros ≤ now.micros) => judge_earlier hdecode hjudge hcode hle
  have hdate := fun (hcode : verdict.code? = some "expiredToken") (s : String) (hs : s ∈ text)
    (seconds : Int) (h : WholeExpiry s.toList seconds) => hjudged.expiryDate hcode hs h
  have hutc := fun (stamp : String) (hnaive : Timestamp.Naive stamp.toList)
    (hread : Timestamp.read stamp = .ok now) => Timestamp.read_append_utc hnaive hread
  refine ⟨verdict, hjudge, ?_⟩
  -- The condition of the verdict excludes those of all other codes.
  cases hjudged with
  | empty hmissing =>
    have hnone : ∀ token, ¬ Holds text token := fun token h => h.1 hmissing
    have hwell : ¬ Faulty text := fun h => h.1 hmissing
    refine ⟨?_, ?_, ?_, ?_, ?_, ?_, hearlier, hdate, hutc⟩ <;>
      simp [Verdict.code?, hmissing, hwell, hnone]
  | invalid hfaulty =>
    have hnone : ∀ token, ¬ Holds text token := fun token h => h.not_faulty hfaulty
    refine ⟨?_, ?_, ?_, ?_, ?_, ?_, hearlier, hdate, hutc⟩ <;>
      simp [Verdict.code?, hfaulty.1, hfaulty, hnone]
  | expired hholds htime =>
    refine ⟨?_, ?_, ?_, ?_, ?_, ?_, hearlier, hdate, hutc⟩ <;>
      simp [Verdict.code?, hholds.1, hholds.not_faulty, hholds.holds_iff, htime]
  | wrongSubdomain hholds htime hsub =>
    have hforeign := hsub.not_foreign
    refine ⟨?_, ?_, ?_, ?_, ?_, ?_, hearlier, hdate, hutc⟩ <;>
      simp [Verdict.code?, hholds.1, hholds.not_faulty, hholds.holds_iff, htime, hsub, hforeign]
  | @wrongOrigin token _ hholds htime hforeign =>
    have hsub : ¬ token.Unextended site := fun h => h.not_foreign hforeign
    refine ⟨?_, ?_, ?_, ?_, ?_, ?_, hearlier, hdate, hutc⟩ <;>
      simp [Verdict.code?, hholds.1, hholds.not_faulty, hholds.holds_iff, htime, hsub, hforeign]
  | valid hholds htime hsub hforeign =>
    refine ⟨?_, ?_, ?_, ?_, ?_, ?_, hearlier, hdate, hutc⟩ <;>
      simp [Verdict.code?, hholds.1, hholds.not_faulty, hholds.holds_iff, htime, hsub, hforeign]

/-- A payload that expires in the last second of a leap day before 1970. -/
def leapDayContent : List Char :=
  "\x7b\"origin\":\"https://a.example\",\"expiry\":-57974401\x7d".toList

/-- A token with this payload. -/
def leapDayText : String :=
  String.ofList (Base64.encode (layOut 3 (List.replicate 64 0) (utf8Bytes leapDayContent) []))

/-- At the start of 1970, given without a distance from UTC, this token has expired, and the leap
day is reported. -/
theorem judge_verdict_leapDay :
    ∃ now verdict, Timestamp.read "1970-01-01T00:00:00" = .ok now ∧
      Timestamp.read "1970-01-01T00:00:00+00:00" = .ok now ∧
      judge (some leapDayText) (.ofText? (some "https://www.a.example")) now = .ok verdict ∧
      verdict.code? = some "expiredToken" ∧
      verdict.data = [("expiryDate", .str "1968-02-29")] := by
  have htext : leapDayText.toList =
      Base64.encode (layOut 3 (List.replicate 64 0) (utf8Bytes leapDayContent) []) :=
    String.toList_ofList
  have hbytes : readBytes leapDayText.toList =
      .ok (layOut 3 (List.replicate 64 0) (utf8Bytes leapDayContent) []) := by
    rw [htext, readBytes_encode]
  have hsize : (utf8Bytes leapDayContent).length < 2 ^ 32 := by decide +kernel
  have hjson : Json.read leapDayContent = .ok (.obj [("origin", .str "https://a.example"),
      ("expiry", .int (-57974401))]) := by
    rfl
  have htoken := decode_of_bytes hbytes List.length_replicate hsize hjson
    (ofPayload_of_members 3 (List.replicate 64 0) rfl rfl (by decide) (by decide))
  have hwhole : WholeExpiry leapDayText.toList (-57974401) :=
    ⟨_, _, _, _, _, hbytes, cutPayload_layOut 3 _ _ [] List.length_replicate hsize,
      readPayload_encode hjson, rfl⟩
  have hmissing : ¬ Missing (some leapDayText) := by
    intro h
    have hblank := h _ rfl
    rw [htext] at hblank
    exact absurd (hblank 'A' (by decide +kernel)) (by decide)
  obtain ⟨verdict, hjudge, -, -, hexpired, -, -, -, -, hdate, hutc⟩ :=
    judge_verdict (some leapDayText) (some "https://www.a.example") ⟨0⟩ (by
      intro s hs
      rw [← Option.some.inj hs]
      exact .inl ⟨_, htoken⟩)
  have hcode := hexpired.2 ⟨_, ⟨hmissing, _, rfl, htoken⟩, by decide⟩
  obtain ⟨date, shown, hcovers, hwritten, hdata⟩ := hdate hcode _ rfl _ hwhole
  have hfalls : Date.FallsOn ⟨1968, 2, 29⟩ (-672) := Date.fallsOn_iff.2 (by decide)
  obtain rfl := (hcovers ⟨1968, 2, 29⟩).1 ⟨-672, hfalls, by decide, by decide⟩
  have hshown : shown = "1968-02-29" := String.toList_inj.1 hwritten.toList_eq
  have hsigns : ("00:00:00".toList.all fun c => c != '+' && c != '-' && c != 'Z') = true := by
    decide
  have hnaive : Timestamp.Naive "1970-01-01T00:00:00".toList := by
    refine ⟨10, by decide, by decide, fun c hc => ?_⟩
    simpa [and_assoc] using List.all_eq_true.1 hsigns c hc
  exact ⟨⟨0⟩, verdict, by decide, hutc _ hnaive (by decide), hjudge, hcode, by rw [hdata, hshown]⟩

end HeadLint.Trial
