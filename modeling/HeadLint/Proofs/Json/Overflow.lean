import HeadLint.Json.Reader
import HeadLint.Proofs.Text.Runs

/-!
Numbers that are too long.  The reader of JSON stops at the first fault, and it stops at a number
that is too long exactly when it comes to a place where a value may stand and finds there a whole
number with more digits than are converted.
-/

namespace HeadLint.Json

open Text

/-! ## Numerals -/

/-- A fraction at the start of a text. -/
def HasFraction (s : List Char) : Prop :=
  ∃ d rest, s = '.' :: d :: rest ∧ isAsciiDigit d = true

/-- An exponent at the start of a text. -/
def HasPower (s : List Char) : Prop :=
  ∃ e sign d rest, s = e :: (sign ++ d :: rest) ∧ (e = 'e' ∨ e = 'E') ∧
    (sign = [] ∨ sign = ['+'] ∨ sign = ['-']) ∧ isAsciiDigit d = true

/-- `LongDigits s n`: at the start of a text stands a whole number of `n` digits, more than are
converted. -/
structure LongDigits (s : List Char) (n : Nat) : Prop where
  long : DigitOverflow.limit < n
  text : ∃ digits after, s = digits ++ after ∧ digits.length = n ∧
    (∀ d ∈ digits, isAsciiDigit d = true) ∧ digits.head? ≠ some '0' ∧
    Stops isAsciiDigit after ∧ ¬ HasFraction after ∧ ¬ HasPower after

/-- The same, with or without a minus in front. -/
def LongNumber (s : List Char) (n : Nat) : Prop :=
  LongDigits s n ∨ ∃ rest, s = '-' :: rest ∧ LongDigits rest n

theorem asciiDigit?_isSome (c : Char) : (asciiDigit? c).isSome = isAsciiDigit c := by
  unfold asciiDigit? isAsciiDigit
  split
  · rename_i h
    simp [h]
  · rename_i h
    by_cases hlow : '0' ≤ c
    · simp [show ¬ c ≤ '9' from fun hhigh => h ⟨hlow, hhigh⟩]
    · simp [hlow]

-- The digits at the start of a text are a run.
theorem spanDigits_run (s : List Char) :
    (Decimal.spanDigits asciiDigit? s).1.length = (s.takeWhile isAsciiDigit).length ∧
      (Decimal.spanDigits asciiDigit? s).2 = s.dropWhile isAsciiDigit := by
  induction s with
  | nil => exact ⟨rfl, rfl⟩
  | cons c rest ih =>
    have hc := asciiDigit?_isSome c
    rw [Decimal.spanDigits]
    cases hdigit : asciiDigit? c with
    | none =>
      rw [hdigit] at hc
      rw [List.takeWhile_cons_of_neg (by rw [← hc]; decide),
        List.dropWhile_cons_of_neg (by rw [← hc]; decide)]
      exact ⟨rfl, rfl⟩
    | some d =>
      rw [hdigit] at hc
      rw [List.takeWhile_cons_of_pos hc.symm, List.dropWhile_cons_of_pos hc.symm]
      exact ⟨congrArg (· + 1) ih.1, ih.2⟩

theorem spanDigits_nil_iff {s : List Char} :
    (Decimal.spanDigits asciiDigit? s).1 = [] ↔ Stops isAsciiDigit s := by
  rw [← List.length_eq_zero_iff, (spanDigits_run s).1, List.length_eq_zero_iff]
  constructor
  · intro hnil
    have hself := List.takeWhile_append_dropWhile (p := isAsciiDigit) (l := s)
    rw [hnil, List.nil_append] at hself
    rw [← hself]
    exact stops_dropWhile s
  · exact takeWhile_of_stops

-- What is behind digits is shorter.
theorem length_spanDigits {s : List Char} (h : (Decimal.spanDigits asciiDigit? s).1 ≠ []) :
    (Decimal.spanDigits asciiDigit? s).2.length < s.length := by
  obtain ⟨hlength, hrest⟩ := spanDigits_run s
  have hpos : 0 < (Decimal.spanDigits asciiDigit? s).1.length := List.length_pos_iff.2 h
  have hsum := congrArg List.length
    (List.takeWhile_append_dropWhile (p := isAsciiDigit) (l := s))
  rw [List.length_append] at hsum
  rw [hrest]
  omega

theorem not_stops_iff {s : List Char} :
    ¬ Stops isAsciiDigit s ↔ ∃ d rest, s = d :: rest ∧ isAsciiDigit d = true := by
  cases s with
  | nil => simp [stops_nil]
  | cons d rest => simp [stops_cons]

theorem readFraction?_cases (s : List Char) :
    readFraction? s = none ∧ ¬ HasFraction s ∨
      ∃ found, readFraction? s = some found ∧ HasFraction s ∧ found.2.length < s.length := by
  unfold readFraction?
  split
  · rename_i rest
    split
    · rename_i after hspan
      refine .inl ⟨rfl, ?_⟩
      have hstops : Stops isAsciiDigit rest := spanDigits_nil_iff.1 (by rw [hspan])
      rintro ⟨d, more, heq, hd⟩
      obtain ⟨-, rfl⟩ := List.cons.inj heq
      rw [stops_cons.1 hstops] at hd
      cases hd
    · rename_i hspan
      have hne : (Decimal.spanDigits asciiDigit? rest).1 ≠ [] := by
        intro hnil
        exact hspan _ (Prod.ext hnil rfl)
      obtain ⟨d, more, rfl, hd⟩ := not_stops_iff.1 (mt spanDigits_nil_iff.2 hne)
      have hlength := length_spanDigits hne
      refine .inr ⟨_, rfl, ⟨d, more, rfl, hd⟩, ?_⟩
      rw [List.length_cons]
      omega
  · rename_i hpoint
    refine .inl ⟨rfl, ?_⟩
    rintro ⟨d, more, rfl, -⟩
    exact hpoint _ rfl

-- A sign is one of two characters, or missing.
theorem readSign_cases (s : List Char) :
    ∃ sign, s = sign ++ (Decimal.readSign s).2 ∧ (sign = [] ∨ sign = ['+'] ∨ sign = ['-']) := by
  unfold Decimal.readSign
  split
  · exact ⟨['-'], rfl, .inr (.inr rfl)⟩
  · exact ⟨['+'], rfl, .inr (.inl rfl)⟩
  · exact ⟨[], rfl, .inl rfl⟩

-- A sign in front of a digit is read as such.
theorem readSign_digit {sign rest : List Char} {d : Char}
    (hsign : sign = [] ∨ sign = ['+'] ∨ sign = ['-']) (hd : isAsciiDigit d = true) :
    (Decimal.readSign (sign ++ d :: rest)).2 = d :: rest := by
  rcases hsign with rfl | rfl | rfl
  · rw [List.nil_append]
    unfold Decimal.readSign
    split
    · rename_i heq
      rw [(List.cons.inj heq).1] at hd
      exact absurd hd (by decide)
    · rename_i heq
      rw [(List.cons.inj heq).1] at hd
      exact absurd hd (by decide)
    · rfl
  · rfl
  · rfl

theorem readPower?_cases (s : List Char) :
    readPower? s = none ∧ ¬ HasPower s ∨
      ∃ found, readPower? s = some found ∧ HasPower s ∧ found.2.length < s.length := by
  cases s with
  | nil =>
    refine .inl ⟨rfl, ?_⟩
    rintro ⟨e, sign, d, rest, heq, -⟩
    cases heq
  | cons c rest =>
    simp only [readPower?]
    split
    · rename_i hmark
      obtain ⟨sign, hrest, hsign⟩ := readSign_cases rest
      split
      · rename_i after hspan
        refine .inl ⟨rfl, ?_⟩
        rintro ⟨e, sign', d, more, heq, -, hsign', hd⟩
        obtain ⟨rfl, rfl⟩ := List.cons.inj heq
        rw [readSign_digit hsign' hd] at hspan
        have hstops : Stops isAsciiDigit (d :: more) := spanDigits_nil_iff.1 (by rw [hspan])
        rw [stops_cons.1 hstops] at hd
        cases hd
      · rename_i digits after hne hspan
        have hfound : (Decimal.spanDigits asciiDigit? (Decimal.readSign rest).2).1 ≠ [] := by
          rw [hspan]
          exact hne
        obtain ⟨d, more, hbehind, hd⟩ := not_stops_iff.1 (mt spanDigits_nil_iff.2 hfound)
        have hlength := length_spanDigits hfound
        have htotal := congrArg List.length hrest
        rw [hspan] at hlength
        rw [List.length_append] at htotal
        refine .inr ⟨_, rfl, ⟨c, sign, d, more, ?_, by simpa using hmark, hsign, hd⟩, ?_⟩
        · rw [← hbehind, ← hrest]
        · rw [List.length_cons]
          dsimp only at hlength ⊢
          omega
    · rename_i hmark
      refine .inl ⟨rfl, ?_⟩
      rintro ⟨e, sign, d, more, heq, he, -⟩
      obtain ⟨rfl, -⟩ := List.cons.inj heq
      exact hmark (by simpa using he)

/-- A number whose leading digits have been read, with what stands behind them. -/
def readBehind (negative : Bool) (whole : List Nat) (rest : List Char) :
    Option (Except Fault Json × List Char) :=
  let (fraction, rest₁) := (readFraction? rest).getD ([], rest)
  let (power, rest₂) := (readPower? rest₁).getD (0, rest₁)
  if rest₂.length < rest.length then
    some (.ok (.float (Decimal.toBinary64 ⟨negative, whole, fraction, power⟩)), rest₂)
  else
    match DigitOverflow.of? whole.length with
    | some overflow => some (.error (.tooManyDigits overflow), rest)
    | none =>
      let n : Int := ofDigits 10 whole
      some (.ok (.int (if negative then -n else n)), rest)

-- Only a number without fraction and exponent can be too long.
theorem readBehind_error_iff {negative : Bool} {whole : List Nat} {rest : List Char}
    {overflow : DigitOverflow} :
    (readBehind negative whole rest).map (·.1) = some (.error (.tooManyDigits overflow)) ↔
      DigitOverflow.limit < whole.length ∧ whole.length = overflow.count ∧
        ¬ HasFraction rest ∧ ¬ HasPower rest := by
  rcases readFraction?_cases rest with ⟨hfraction, hnone⟩ | ⟨found, hfraction, hsome, hlt⟩
  · rcases readPower?_cases rest with ⟨hpower, hnone'⟩ | ⟨found, hpower, hsome, hlt⟩
    · -- Neither fraction nor exponent: the number of digits decides.
      simp only [readBehind, hfraction, hpower, Option.getD_none, Nat.lt_irrefl, if_false]
      by_cases hlong : DigitOverflow.limit < whole.length
      · have hof : DigitOverflow.of? whole.length = some ⟨whole.length⟩ := if_pos hlong
        have hcount : (⟨whole.length⟩ : DigitOverflow) = overflow ↔
            whole.length = overflow.count := by
          cases overflow
          simp
        rw [hof]
        simp [hlong, hnone, hnone', hcount]
      · have hof : DigitOverflow.of? whole.length = none := if_neg hlong
        rw [hof]
        simp [hlong]
    · simp only [readBehind, hfraction, hpower, Option.getD_none, Option.getD_some, hlt, if_true]
      simp [hsome]
  · -- What stands behind the fraction is shorter, whatever exponent follows.
    have hlt' : ((readPower? found.2).getD (0, found.2)).2.length < rest.length := by
      rcases readPower?_cases found.2 with ⟨hpower, -⟩ | ⟨found', hpower, -, hlt'⟩
      · rw [hpower]
        exact hlt
      · rw [hpower]
        exact Nat.lt_trans hlt' hlt
    simp only [readBehind, hfraction, Option.getD_some, hlt', if_true]
    simp [hsome]

/-- A number without its sign. -/
def readMagnitude (negative : Bool) (s : List Char) : Option (Except Fault Json × List Char) :=
  let (whole, rest) :=
    match s with
    | '0' :: rest => ([0], rest)
    | _ => Decimal.spanDigits asciiDigit? s
  if whole.isEmpty then none else readBehind negative whole rest

theorem readNumber_minus (rest : List Char) :
    readNumber ('-' :: rest) = readMagnitude true rest := rfl

theorem readNumber_other {s : List Char} (h : s.head? ≠ some '-') :
    readNumber s = readMagnitude false s := by
  cases s with
  | nil => rfl
  | cons c rest =>
    unfold readNumber
    split
    rename_i negative digits hsign
    split at hsign
    · rename_i heq
      rw [(List.cons.inj heq).1] at h
      exact absurd rfl h
    · obtain ⟨rfl, rfl⟩ := Prod.mk.inj hsign
      rfl

-- The digits are all that stand at the start of the text.
theorem longDigits_iff {s : List Char} {n : Nat} :
    LongDigits s n ↔ DigitOverflow.limit < n ∧ (s.takeWhile isAsciiDigit).length = n ∧
      (s.takeWhile isAsciiDigit).head? ≠ some '0' ∧ ¬ HasFraction (s.dropWhile isAsciiDigit) ∧
      ¬ HasPower (s.dropWhile isAsciiDigit) := by
  constructor
  · rintro ⟨hlong, digits, after, rfl, hlength, hdigits, hzero, hstops, hfraction, hpower⟩
    rw [takeWhile_run hdigits hstops, dropWhile_run hdigits hstops]
    exact ⟨hlong, hlength, hzero, hfraction, hpower⟩
  · rintro ⟨hlong, hlength, hzero, hfraction, hpower⟩
    exact ⟨hlong, s.takeWhile isAsciiDigit, s.dropWhile isAsciiDigit,
      List.takeWhile_append_dropWhile.symm, hlength, fun _ hd => List.mem_takeWhile_imp hd, hzero,
      stops_dropWhile s, hfraction, hpower⟩

theorem readMagnitude_error_iff {negative : Bool} {s : List Char} {overflow : DigitOverflow} :
    (readMagnitude negative s).map (·.1) = some (.error (.tooManyDigits overflow)) ↔
      LongDigits s overflow.count := by
  obtain ⟨hlength, hrest⟩ := spanDigits_run s
  unfold readMagnitude
  split
  rename_i whole rest hwhole
  split at hwhole
  -- A number that starts with zero has this one digit only.
  · obtain ⟨rfl, rfl⟩ := Prod.mk.inj hwhole
    rw [longDigits_iff, List.takeWhile_cons_of_pos (by decide)]
    constructor
    · intro hbehind
      rw [if_neg (by decide)] at hbehind
      obtain ⟨hlong, -⟩ := readBehind_error_iff.1 hbehind
      exact absurd hlong (by decide)
    · rintro ⟨-, -, hzero, -⟩
      exact absurd rfl hzero
  · rename_i hzero
    have hhead : (s.takeWhile isAsciiDigit).head? ≠ some '0' := by
      intro hhead
      cases s with
      | nil => cases hhead
      | cons c tail =>
        rw [List.takeWhile_cons] at hhead
        split at hhead
        · exact hzero tail (by rw [Option.some.inj hhead])
        · cases hhead
    rw [hwhole] at hlength hrest
    rw [longDigits_iff, ← hrest, ← hlength]
    cases whole with
    | nil =>
      constructor
      · intro hnone
        cases hnone
      · rintro ⟨hlong, hcount, -⟩
        rw [← hcount] at hlong
        cases hlong
    | cons d ds =>
      simp only [List.isEmpty_cons, Bool.false_eq_true, if_false, readBehind_error_iff]
      constructor
      · rintro ⟨hlong, hcount, hfraction, hpower⟩
        exact ⟨hcount ▸ hlong, hcount, hhead, hfraction, hpower⟩
      · rintro ⟨hlong, hcount, -, hfraction, hpower⟩
        exact ⟨hcount.symm ▸ hlong, hcount, hfraction, hpower⟩

-- A number is too long with a minus in front of it, or without.
theorem readNumber_error_iff {s : List Char} {overflow : DigitOverflow} :
    (readNumber s).map (·.1) = some (.error (.tooManyDigits overflow)) ↔
      LongNumber s overflow.count := by
  by_cases hminus : s.head? = some '-'
  · obtain ⟨rest, rfl⟩ : ∃ rest, s = '-' :: rest := List.head?_eq_some_iff.1 hminus
    rw [readNumber_minus, readMagnitude_error_iff]
    constructor
    · exact fun hlong => .inr ⟨rest, rfl, hlong⟩
    · rintro (hlong | ⟨rest', heq, hlong⟩)
      · obtain ⟨hlimit, hlength, -⟩ := longDigits_iff.1 hlong
        rw [List.takeWhile_cons_of_neg (by decide)] at hlength
        rw [← hlength] at hlimit
        cases hlimit
      · rwa [(List.cons.inj heq).2]
  · rw [readNumber_other hminus, readMagnitude_error_iff, LongNumber]
    constructor
    · exact .inl
    · rintro (hlong | ⟨rest, rfl, -⟩)
      · exact hlong
      · exact absurd rfl hminus

theorem LongDigits.exists_cons {s : List Char} {n : Nat} (h : LongDigits s n) :
    ∃ d rest, s = d :: rest ∧ isAsciiDigit d = true := by
  apply not_stops_iff.1
  intro hstops
  obtain ⟨hlimit, hlength, -⟩ := longDigits_iff.1 h
  rw [takeWhile_of_stops hstops] at hlength
  rw [← hlength] at hlimit
  cases hlimit

/-! ## One token -/

-- Where a computation in two parts fails.
theorem error_of_bind {α β : Type} {x : Except Fault α} {f : α → Except Fault β} {fault : Fault}
    (h : (x >>= f) = .error fault) : x = .error fault ∨ ∃ a, x = .ok a ∧ f a = .error fault := by
  cases x with
  | error other =>
    cases h
    exact .inl rfl
  | ok a => exact .inr ⟨a, rfl, h⟩

-- Nothing in a string is a number.
theorem readEscape_ne_overflow (quote pos : Nat) (s : List Char) (overflow : DigitOverflow) :
    readEscape quote pos s ≠ .error (.tooManyDigits overflow) := by
  intro h
  unfold readEscape at h
  repeat' split at h
  all_goals cases h

theorem readString_ne_overflow (quote skip pos : Nat) (s : List Char) (overflow : DigitOverflow) :
    readString quote skip pos s ≠ .error (.tooManyDigits overflow) := by
  induction s generalizing skip pos with
  | nil =>
    intro h
    cases skip <;> cases h
  | cons c rest ih =>
    cases skip with
    | succ skip => exact ih skip (pos + 1)
    | zero =>
      intro h
      rw [readString] at h
      split at h
      · cases h
      · split at h
        · rcases error_of_bind h with hescape | ⟨found, -, hbehind⟩
          · exact readEscape_ne_overflow _ _ _ _ hescape
          · rcases error_of_bind hbehind with hrest | ⟨found', -, hok⟩
            · exact ih _ _ hrest
            · cases hok
        · split at h
          · cases h
          · rcases error_of_bind h with hrest | ⟨found', -, hok⟩
            · exact ih _ _ hrest
            · cases hok

theorem readName_ne_overflow (pos : Nat) (done : List (String × Json)) (outer : List Frame)
    (rest : List Char) (overflow : DigitOverflow) :
    readName pos done outer rest ≠ .error (.tooManyDigits overflow) := by
  intro h
  rcases error_of_bind h with hstring | ⟨found, -, hok⟩
  · exact readString_ne_overflow _ _ _ _ _ hstring
  · cases hok

-- No keyword begins like a number.
theorem find?_keywords_of_long {s : List Char} {n : Nat} (h : LongNumber s n) :
    keywords.find? (fun k => k.1.toList.isPrefixOf s) = none := by
  have hwords : ∀ k ∈ keywords, 2 ≤ k.1.toList.length ∧
      k.1.toList.head?.any isAsciiDigit = false ∧
      k.1.toList.tail.head?.any isAsciiDigit = false := by
    decide
  rw [List.find?_eq_none]
  intro k hk hprefix
  obtain ⟨hlength, hfirst, hsecond⟩ := hwords k hk
  obtain ⟨behind, hbehind⟩ := List.isPrefixOf_iff_prefix.1 hprefix
  match hword : k.1.toList, hlength with
  | a :: b :: more, _ =>
    rw [hword] at hfirst hsecond hbehind
    have ha : isAsciiDigit a = false := hfirst
    have hb : isAsciiDigit b = false := hsecond
    rcases h with hlong | ⟨rest, rfl, hlong⟩
    · obtain ⟨d, rest, rfl, hd⟩ := hlong.exists_cons
      rw [← (List.cons.inj hbehind).1, ha] at hd
      cases hd
    · obtain ⟨d, rest', rfl, hd⟩ := hlong.exists_cons
      rw [← (List.cons.inj (List.cons.inj hbehind).2).1, hb] at hd
      cases hd

theorem LongNumber.exists_cons {s : List Char} {n : Nat} (h : LongNumber s n) :
    ∃ c rest, s = c :: rest ∧ (c = '-' ∨ isAsciiDigit c = true) := by
  rcases h with hlong | ⟨rest, rfl, -⟩
  · obtain ⟨d, rest, rfl, hd⟩ := hlong.exists_cons
    exact ⟨d, rest, rfl, .inr hd⟩
  · exact ⟨'-', rest, rfl, .inl rfl⟩

-- A value is too long exactly when it is a number that is too long.
theorem readValue_overflow_iff {pos : Nat} {stack : List Frame} {s : List Char}
    {overflow : DigitOverflow} :
    readValue pos stack s = .error (.tooManyDigits overflow) ↔ LongNumber s overflow.count := by
  constructor
  · intro h
    unfold readValue at h
    split at h
    · cases h
    · cases h
    · rcases error_of_bind h with hstring | ⟨found, -, hok⟩
      · exact absurd hstring (readString_ne_overflow _ _ _ _ _)
      · cases hok
    · split at h
      · cases h
      · split at h
        · rename_i found after hnumber
          rcases error_of_bind h with hfound | ⟨value, -, hok⟩
          · exact readNumber_error_iff.1 (by rw [hnumber, hfound]; rfl)
          · cases hok
        · cases h
  · intro h
    have hkeyword := find?_keywords_of_long h
    obtain ⟨⟨found, after⟩, hnumber, hfound⟩ :=
      Option.map_eq_some_iff.1 (readNumber_error_iff.2 h)
    obtain ⟨c, rest, rfl, hc⟩ := h.exists_cons
    -- A minus or a digit opens nothing.
    have hother : c ≠ '[' ∧ c ≠ '\x7b' ∧ c ≠ '"' := by
      refine ⟨?_, ?_, ?_⟩ <;>
      · rintro rfl
        revert hc
        decide
    unfold readValue
    split
    · rename_i heq
      exact absurd (List.cons.inj heq).1 hother.1
    · rename_i heq
      exact absurd (List.cons.inj heq).1 hother.2.1
    · rename_i heq
      exact absurd (List.cons.inj heq).1 hother.2.2
    · obtain rfl : found = .error (.tooManyDigits overflow) := hfound
      rw [hkeyword]
      dsimp only
      rw [hnumber]
      rfl

/-! ## The whole text -/

/-- The states in which a value may come next. -/
def State.WantsValue (st : State) : Prop :=
  st.expect = .value ∨ st.expect = .itemOrClose

-- A token is too long exactly when it is such a number in the place of a value.
theorem step_overflow_iff {pos : Nat} {st : State} {s : List Char} {overflow : DigitOverflow} :
    step pos st s = .error (.tooManyDigits overflow) ↔
      st.WantsValue ∧ LongNumber s overflow.count := by
  constructor
  · intro h
    unfold step at h
    split at h
    · cases h
    · rename_i hexpect _
      exact ⟨.inr hexpect, readValue_overflow_iff.1 h⟩
    · rename_i hexpect
      exact ⟨.inl hexpect, readValue_overflow_iff.1 h⟩
    · cases h
    · exact absurd h (readName_ne_overflow _ _ _ _ _)
    · exact absurd h (readName_ne_overflow _ _ _ _ _)
    all_goals cases h
  · rintro ⟨hwants, hlong⟩
    obtain ⟨stack, expect⟩ := st
    rcases hwants with hexpect | hexpect
    · obtain rfl : expect = .value := hexpect
      exact readValue_overflow_iff.2 hlong
    · -- Such a number does not begin with a closing bracket.
      obtain rfl : expect = .itemOrClose := hexpect
      have hbracket : s.head? ≠ some ']' := by
        obtain ⟨c, rest, rfl, hc⟩ := hlong.exists_cons
        intro heq
        rw [Option.some.inj heq] at hc
        revert hc
        decide
      rw [step]
      · exact readValue_overflow_iff.2 hlong
      · rfl
      · rintro done outer tail - rfl
        exact hbracket rfl

/-- `Reaches st rest skip pos start s`: on its way through `s` the reader comes to `rest`, which
does not belong to a token already read, in the state `st`.  The other arguments are those of
`readFrom`. -/
inductive Reaches (st : State) (rest : List Char) : Nat → Nat → State → List Char → Prop where
  | here {pos : Nat} : Reaches st rest 0 pos st rest
  | skip {skip pos : Nat} {now : State} {c : Char} {s : List Char}
      (h : Reaches st rest skip (pos + 1) now s) : Reaches st rest (skip + 1) pos now (c :: s)
  | space {pos : Nat} {now : State} {c : Char} {s : List Char} (hc : isSpace c = true)
      (h : Reaches st rest 0 (pos + 1) now s) : Reaches st rest 0 pos now (c :: s)
  | step {pos extra : Nat} {now next : State} {c : Char} {s : List Char}
      (hc : isSpace c = false) (hstep : step pos now (c :: s) = .ok (next, extra))
      (h : Reaches st rest extra (pos + 1) next s) : Reaches st rest 0 pos now (c :: s)

theorem exists_reaches_of_readFrom {skip pos : Nat} {now : State} {s : List Char}
    {overflow : DigitOverflow} (h : readFrom skip pos now s = .error (.tooManyDigits overflow)) :
    ∃ st rest, Reaches st rest skip pos now s ∧ st.WantsValue ∧
      LongNumber rest overflow.count := by
  induction s generalizing skip pos now with
  | nil =>
    obtain ⟨stack, expect⟩ := now
    cases skip <;> cases expect <;> cases h
  | cons c s ih =>
    cases skip with
    | succ skip =>
      obtain ⟨st, rest, hreaches, hvalue⟩ := ih h
      exact ⟨st, rest, .skip hreaches, hvalue⟩
    | zero =>
      rw [readFrom] at h
      by_cases hc : isSpace c = true
      · rw [if_pos hc] at h
        obtain ⟨st, rest, hreaches, hvalue⟩ := ih h
        exact ⟨st, rest, .space hc hreaches, hvalue⟩
      · rw [if_neg hc] at h
        cases hstep : step pos now (c :: s) with
        | error fault =>
          rw [hstep] at h
          obtain rfl := Except.error.inj h
          exact ⟨now, c :: s, .here, step_overflow_iff.1 hstep⟩
        | ok found =>
          rw [hstep] at h
          obtain ⟨st, rest, hreaches, hvalue⟩ := ih h
          exact ⟨st, rest, .step (by simpa using hc) hstep hreaches, hvalue⟩

theorem Reaches.readFrom_overflow {st now : State} {rest s : List Char} {skip pos : Nat}
    {overflow : DigitOverflow} (h : Reaches st rest skip pos now s) (hwants : st.WantsValue)
    (hlong : LongNumber rest overflow.count) :
    readFrom skip pos now s = .error (.tooManyDigits overflow) := by
  induction h with
  | @here pos =>
    have hstep : Json.step pos st rest = .error (.tooManyDigits overflow) :=
      step_overflow_iff.2 ⟨hwants, hlong⟩
    obtain ⟨c, rest, rfl, hc⟩ := hlong.exists_cons
    have hspace : ¬ isSpace c = true := by
      intro hspace
      simp only [isSpace, Bool.or_eq_true, beq_iff_eq] at hspace
      rcases hspace with ((rfl | rfl) | rfl) | rfl <;> revert hc <;> decide
    rw [readFrom, if_neg hspace, hstep]
  | skip _ ih => exact ih
  | space hc _ ih => rw [readFrom, if_pos hc, ih]
  | step hc hstep _ ih =>
    rw [readFrom, if_neg (by rw [hc]; exact Bool.false_ne_true), hstep]
    exact ih

/-- `Overlong s n`: reading a text as JSON comes to a value that is a whole number of `n` digits,
more than are converted. -/
def Overlong (s : List Char) (n : Nat) : Prop :=
  s.head? ≠ some '\uFEFF' ∧
    ∃ st rest, Reaches st rest 0 0 {} s ∧ st.WantsValue ∧ LongNumber rest n

/-- Reading fails over the length of a number exactly when it comes to such a number. -/
theorem read_overflow_iff {s : List Char} {overflow : DigitOverflow} :
    read s = .error (.tooManyDigits overflow) ↔ Overlong s overflow.count := by
  unfold read
  by_cases hmark : s.head? = some '\uFEFF'
  · rw [if_pos hmark]
    constructor
    · intro h
      cases h
    · rintro ⟨hother, -⟩
      exact absurd hmark hother
  · rw [if_neg hmark]
    constructor
    · exact fun h => ⟨hmark, exists_reaches_of_readFrom h⟩
    · rintro ⟨-, st, rest, hreaches, hwants, hlong⟩
      exact hreaches.readFrom_overflow hwants hlong

end HeadLint.Json
