import HeadLint.Text.Blank
import HeadLint.Text.SameLetter
import Mathlib.Data.List.Basic

/-!
Lower case and signs.  Putting a text in lower case changes letters into letters: what is no
capital stays in ASCII, and no letter becomes a sign such as the greater-than sign.
-/

namespace HeadLint.Text

/-! ## The table of small letters -/

/-- Every small letter in the table is a character. -/
def CaseRun.IsScalar (r : CaseRun) : Prop :=
  r.target + (r.last - r.first) < 0xD800 ∨
    0xE000 ≤ r.target ∧ r.target + (r.last - r.first) < 0x110000

instance (r : CaseRun) : Decidable r.IsScalar := inferInstanceAs (Decidable (_ ∨ _))

theorem caseRuns_scalar : ∀ r ∈ caseRuns, r.IsScalar := by decide +kernel

theorem caseRuns_target : ∀ r ∈ caseRuns, 97 ≤ r.target := by decide +kernel

-- The capitals of the table are those of ASCII, and letters beyond it.
theorem caseRuns_first : ∀ r ∈ caseRuns, r.first = 65 ∧ r.last = 90 ∨ 128 ≤ r.first := by
  decide +kernel

-- A code point that changes is in one of the runs.
theorem lowerIn_cases (runs : List CaseRun) (n : Nat) :
    lowerIn runs n = n ∨
      ∃ r ∈ runs, r.first ≤ n ∧ n ≤ r.last ∧ (n - r.first) % r.step = 0 ∧
        lowerIn runs n = r.target + (n - r.first) := by
  induction runs with
  | nil => exact .inl rfl
  | cons r rest ih =>
    rw [lowerIn]
    by_cases hfirst : n < r.first
    · rw [if_pos hfirst]
      exact .inl rfl
    by_cases hlast : n ≤ r.last
    · rw [if_neg hfirst, if_pos hlast]
      by_cases hstep : ((n - r.first) % r.step == 0) = true
      · rw [if_pos hstep]
        exact .inr ⟨r, List.mem_cons_self, by omega, hlast, eq_of_beq hstep, rfl⟩
      · rw [if_neg hstep]
        exact .inl rfl
    · rw [if_neg hfirst, if_neg hlast]
      rcases ih with heq | ⟨r', hr', hle⟩
      · exact .inl heq
      · exact .inr ⟨r', List.mem_cons_of_mem r hr', hle⟩

theorem toNat_ofNat_of_isValid {n : Nat} (h : n.isValidChar) : (Char.ofNat n).toNat = n := by
  rw [Char.ofNat, dif_pos h]
  rfl

theorem toNat_lowerFirst (c : Char) : (lowerFirst c).toNat = lowerIn caseRuns c.toNat := by
  apply toNat_ofNat_of_isValid
  rcases lowerIn_cases caseRuns c.toNat with heq | ⟨r, hr, hfirst, hlast, -, heq⟩
  · rw [heq]
    exact c.valid
  · have hscalar := caseRuns_scalar r hr
    rw [heq]
    simp only [CaseRun.IsScalar] at hscalar
    simp only [Nat.isValidChar]
    omega

-- No letter becomes a sign.
theorem lowerFirst_eq_self_of_lt {c : Char} (h : (lowerFirst c).toNat < 97) :
    lowerFirst c = c := by
  rw [toNat_lowerFirst] at h
  rcases lowerIn_cases caseRuns c.toNat with heq | ⟨r, hr, -, -, -, heq⟩
  · rw [lowerFirst, heq, Char.ofNat_toNat]
  · have htarget := caseRuns_target r hr
    omega

-- What is no capital stays.
theorem lowerFirst_eq_self {c : Char} (hascii : c.toNat < 128)
    (hcapital : ¬ (65 ≤ c.toNat ∧ c.toNat ≤ 90)) : lowerFirst c = c := by
  rcases lowerIn_cases caseRuns c.toNat with heq | ⟨r, hr, hfirst, hlast, -, -⟩
  · rw [lowerFirst, heq, Char.ofNat_toNat]
  · have hrun := caseRuns_first r hr
    omega

/-! ## Whole texts -/

-- A text of ASCII without capitals is in lower case.
theorem lower_eq_self {s : List Char}
    (h : ∀ c ∈ s, c.toNat < 128 ∧ ¬ (65 ≤ c.toNat ∧ c.toNat ≤ 90)) : lower s = s := by
  have hall : ∀ (s : List Char) (afterCased : Bool),
      (∀ c ∈ s, c.toNat < 128 ∧ ¬ (65 ≤ c.toNat ∧ c.toNat ≤ 90)) →
        lowerAfter afterCased s = s := by
    intro s
    induction s with
    | nil => intro _ _; rfl
    | cons c s ih =>
      intro afterCased hs
      obtain ⟨hascii, hcapital⟩ := hs c List.mem_cons_self
      have hsigma : (c == 'Σ') = false := by
        rw [beq_eq_false_iff_ne]
        rintro rfl
        exact absurd hascii (by decide)
      have hdotted : (c == 'İ') = false := by
        rw [beq_eq_false_iff_ne]
        rintro rfl
        exact absurd hascii (by decide)
      simp only [lowerAfter, hsigma, hdotted, lowerChar, Bool.false_eq_true, if_false,
        lowerFirst_eq_self hascii hcapital, List.singleton_append]
      rw [ih _ fun d hd => hs d (List.mem_cons_of_mem c hd)]
  exact hall s false h

-- No letter vanishes.
theorem lower_eq_nil_iff {s : List Char} : lower s = [] ↔ s = [] := by
  constructor
  · intro h
    cases s with
    | nil => rfl
    | cons c s =>
      rw [lower, lowerAfter, List.append_eq_nil_iff] at h
      have hsmall := h.1
      rw [lowerChar] at hsmall
      split at hsmall
      · cases hsmall
      · split at hsmall <;> cases hsmall
  · rintro rfl
    rfl

-- A sign of ASCII in the lower case of a text was there before.
theorem mem_of_mem_lower {s : List Char} {d : Char} (hd : d.toNat < 97) (h : d ∈ lower s) :
    d ∈ s := by
  have hall : ∀ (s : List Char) (afterCased : Bool), d ∈ lowerAfter afterCased s → d ∈ s := by
    intro s
    induction s with
    | nil => intro _ hmem; exact hmem
    | cons c s ih =>
      intro afterCased hmem
      rw [lowerAfter] at hmem
      rcases List.mem_append.1 hmem with hsmall | hrest
      · have hnot : d ≠ 'σ' ∧ d ≠ 'ς' ∧ d ≠ 'i' ∧ d ≠ '\u0307' := by
          refine ⟨?_, ?_, ?_, ?_⟩ <;> rintro rfl <;> exact absurd hd (by decide)
        by_cases hsigma : (c == 'Σ') = true
        · rw [if_pos hsigma, List.mem_singleton] at hsmall
          split at hsmall
          · exact absurd hsmall hnot.2.1
          · exact absurd hsmall hnot.1
        rw [if_neg hsigma, lowerChar] at hsmall
        by_cases hdotted : (c == 'İ') = true
        · rw [if_pos hdotted] at hsmall
          simp [hnot] at hsmall
        rw [if_neg hdotted, List.mem_singleton] at hsmall
        subst hsmall
        rw [lowerFirst_eq_self_of_lt hd]
        exact List.mem_cons_self
      · exact List.mem_cons_of_mem c (ih _ hrest)
  exact hall s false h

/-! ## White space -/

/-- White space and the null character. -/
def blankRanges : List (Nat × Nat) :=
  [(0, 0), (9, 13), (28, 32), (0x85, 0x85), (0xA0, 0xA0), (0x1680, 0x1680), (0x2000, 0x200A),
    (0x2028, 0x2029), (0x202F, 0x202F), (0x205F, 0x205F), (0x3000, 0x3000)]

-- The table has no white space, neither among the capitals nor among the small letters.
theorem caseRuns_apart : ∀ r ∈ caseRuns, ∀ range ∈ blankRanges,
    (r.last < range.1 ∨ range.2 < r.first) ∧
      (r.target + (r.last - r.first) < range.1 ∨ range.2 < r.target) := by
  decide +kernel

/-- Characters that are neither capitals nor small letters. -/
def Caseless (c : Char) : Prop :=
  ∃ range ∈ blankRanges, range.1 ≤ c.toNat ∧ c.toNat ≤ range.2

theorem caseless_of_isBlank {c : Char} (h : isBlank c = true) : Caseless c := by
  simp only [isBlank, Bool.or_eq_true, Bool.and_eq_true, decide_eq_true_eq, beq_iff_eq] at h
  simp only [Caseless, blankRanges, List.mem_cons, List.not_mem_nil, or_false, exists_eq_or_imp,
    exists_eq_left]
  omega

theorem caseless_null : Caseless '\x00' :=
  ⟨(0, 0), List.mem_cons_self .., by decide, by decide⟩

-- Such a character stays, and no other becomes one.
theorem lowerFirst_eq_iff {c d : Char} (hd : Caseless d) : lowerFirst c = d ↔ c = d := by
  obtain ⟨range, hrange, hlow, hhigh⟩ := hd
  rcases lowerIn_cases caseRuns c.toNat with heq | ⟨r, hr, hfirst, hlast, -, heq⟩
  · rw [lowerFirst, heq, Char.ofNat_toNat]
  · have hapart := caseRuns_apart r hr range hrange
    constructor
    · intro hsmall
      have hnat := toNat_lowerFirst c
      rw [hsmall, heq] at hnat
      omega
    · rintro rfl
      omega

theorem mem_lower_iff {s : List Char} {d : Char} (hd : Caseless d) : d ∈ lower s ↔ d ∈ s := by
  have hnot : d ≠ 'σ' ∧ d ≠ 'ς' ∧ d ≠ 'Σ' ∧ d ≠ 'i' ∧ d ≠ '\u0307' ∧ d ≠ 'İ' := by
    obtain ⟨range, hrange, hlow, hhigh⟩ := hd
    simp only [blankRanges, List.mem_cons, List.not_mem_nil, or_false] at hrange
    refine ⟨?_, ?_, ?_, ?_, ?_, ?_⟩ <;>
    · rintro rfl
      revert hlow hhigh
      rcases hrange with rfl | rfl | rfl | rfl | rfl | rfl | rfl | rfl | rfl | rfl | rfl <;>
        decide
  have hall : ∀ (s : List Char) (afterCased : Bool), d ∈ lowerAfter afterCased s ↔ d ∈ s := by
    intro s
    induction s with
    | nil => intro _; rfl
    | cons c s ih =>
      intro afterCased
      rw [lowerAfter, List.mem_append, ih, List.mem_cons]
      refine or_congr_left ?_
      by_cases hsigma : (c == 'Σ') = true
      · rw [if_pos hsigma, eq_of_beq hsigma]
        split <;> simp [hnot]
      rw [if_neg hsigma, lowerChar]
      by_cases hdotted : (c == 'İ') = true
      · rw [if_pos hdotted, eq_of_beq hdotted]
        simp [hnot]
      rw [if_neg hdotted, List.mem_singleton, eq_comm, lowerFirst_eq_iff hd, eq_comm]
  exact hall s false

/-! ## Small letters -/

/-- No small letter of the one run is a capital of the other: the one lies before or behind the
other, or the two take turns. -/
def CaseRun.avoids (r r' : CaseRun) : Bool :=
  Nat.blt (r.target + (r.last - r.first)) r'.first || Nat.blt r'.last r.target ||
    (Nat.ble r'.first r.target && (Nat.beq r.first r.last || Nat.beq (r.step % r'.step) 0) &&
      Nat.blt 0 ((r.target - r'.first) % r'.step))

theorem caseRuns_avoid : (caseRuns.all fun r => caseRuns.all r.avoids) = true := by
  decide +kernel

theorem CaseRun.not_capital_of_avoids {r r' : CaseRun} (h : r.avoids r' = true) {k : Nat}
    (hk : k ≤ r.last - r.first) (hstep : k % r.step = 0) (hfirst : r'.first ≤ r.target + k)
    (hlast : r.target + k ≤ r'.last) : (r.target + k - r'.first) % r'.step ≠ 0 := by
  simp only [avoids, Bool.or_eq_true, Bool.and_eq_true, Nat.blt_eq, Nat.ble_eq, Nat.beq_eq] at h
  rcases h with (hbefore | hbehind) | ⟨⟨hle, hturns⟩, hodd⟩
  · omega
  · omega
  · have hdvd : r'.step ∣ k := by
      rcases hturns with hsingle | hmultiple
      · have hzero : k = 0 := by omega
        rw [hzero]
        exact Nat.dvd_zero _
      · exact Nat.dvd_trans (Nat.dvd_of_mod_eq_zero hmultiple) (Nat.dvd_of_mod_eq_zero hstep)
    have hsum : r.target + k - r'.first = r.target - r'.first + k := by omega
    rw [hsum, Nat.add_mod, Nat.mod_eq_zero_of_dvd hdvd, Nat.add_zero, Nat.mod_mod]
    omega

theorem lowerFirst_lowerFirst (c : Char) : lowerFirst (lowerFirst c) = lowerFirst c := by
  have hsettled : lowerIn caseRuns (lowerFirst c).toNat = (lowerFirst c).toNat := by
    rw [toNat_lowerFirst]
    rcases lowerIn_cases caseRuns c.toNat with heq | ⟨r, hr, -, hlast, hstep, heq⟩
    · rw [heq, heq]
    · rw [heq]
      rcases lowerIn_cases caseRuns (r.target + (c.toNat - r.first)) with
        hstays | ⟨r', hr', hfirst', hlast', hstep', -⟩
      · exact hstays
      · have havoids := List.all_eq_true.1 (List.all_eq_true.1 caseRuns_avoid r hr) r' hr'
        exact absurd hstep' (CaseRun.not_capital_of_avoids havoids (by omega) hstep hfirst' hlast')
  conv => lhs; rw [lowerFirst, hsettled, Char.ofNat_toNat]

/-- A character that stays as it is wherever it stands. -/
def IsSmall (c : Char) : Prop :=
  lowerChar c = [c] ∧ c ≠ 'Σ'

instance (c : Char) : Decidable (IsSmall c) := inferInstanceAs (Decidable (_ ∧ _))

theorem isSmall_lowerFirst (c : Char) : IsSmall (lowerFirst c) := by
  have hstays := lowerFirst_lowerFirst c
  constructor
  · rw [lowerChar, if_neg, hstays]
    intro hdotted
    rw [eq_of_beq hdotted] at hstays
    exact absurd hstays (by decide +kernel)
  · intro hsigma
    rw [hsigma] at hstays
    exact absurd hstays (by decide +kernel)

theorem isSmall_of_mem_lower {s : List Char} {d : Char} (h : d ∈ lower s) : IsSmall d := by
  have hall : ∀ (s : List Char) (afterCased : Bool), d ∈ lowerAfter afterCased s → IsSmall d := by
    intro s
    induction s with
    | nil => intro _ hmem; cases hmem
    | cons c s ih =>
      intro afterCased hmem
      rw [lowerAfter] at hmem
      rcases List.mem_append.1 hmem with hsmall | hrest
      · by_cases hsigma : (c == 'Σ') = true
        · rw [if_pos hsigma, List.mem_singleton] at hsmall
          rw [hsmall]
          split <;> decide +kernel
        rw [if_neg hsigma, lowerChar] at hsmall
        by_cases hdotted : (c == 'İ') = true
        · rw [if_pos hdotted, List.mem_cons, List.mem_singleton] at hsmall
          rcases hsmall with rfl | rfl <;> decide +kernel
        rw [if_neg hdotted, List.mem_singleton] at hsmall
        rw [hsmall]
        exact isSmall_lowerFirst c
      · exact ih _ hrest
  exact hall s false h

theorem lower_of_isSmall {s : List Char} (h : ∀ c ∈ s, IsSmall c) : lower s = s := by
  have hall : ∀ (s : List Char) (afterCased : Bool), (∀ c ∈ s, IsSmall c) →
      lowerAfter afterCased s = s := by
    intro s
    induction s with
    | nil => intro _ _; rfl
    | cons c s ih =>
      intro afterCased hs
      obtain ⟨hstays, hsigma⟩ := hs c List.mem_cons_self
      rw [lowerAfter, if_neg (by simpa using hsigma), hstays,
        ih _ fun d hd => hs d (List.mem_cons_of_mem c hd), List.singleton_append]
  exact hall s false h

/-- A text in lower case stays as it is. -/
theorem lower_lower (s : List Char) : lower (lower s) = lower s :=
  lower_of_isSmall fun _ => isSmall_of_mem_lower

/-! ## Letters with case ignored -/

theorem letterVariants_key :
    ∀ row ∈ letterVariants, ∀ key ∈ row.head?, 97 ≤ key := by decide +kernel

-- Only a sign itself counts as that sign.
theorem eq_of_letterKey_lt {c : Char} {n : Nat} (hn : n < 97) (h : letterKey c = n) :
    c.toNat = n := by
  simp only [letterKey] at h
  split at h
  · rename_i key rest hfind
    have hkey := letterVariants_key _ (List.mem_of_find?_eq_some hfind) key rfl
    omega
  · have hlow : (lowerFirst c).toNat < 97 := by omega
    rw [lowerFirst_eq_self_of_lt hlow] at h
    exact h

theorem letterVariants_apart : ∀ row ∈ letterVariants, ∀ n ∈ row, ∀ range ∈ blankRanges,
    n < range.1 ∨ range.2 < n := by decide +kernel

-- White space is no variant of a letter.
theorem letterKey_of_caseless {c : Char} (h : Caseless c) : letterKey c = c.toNat := by
  have hstays := (lowerFirst_eq_iff h).2 rfl
  have hnone : letterVariants.find? (·.contains c.toNat) = none := by
    rw [List.find?_eq_none]
    intro row hrow hcontains
    obtain ⟨range, hrange, hlow, hhigh⟩ := h
    have hapart := letterVariants_apart row hrow c.toNat (List.contains_iff_mem.1 hcontains) range
      hrange
    omega
  simp only [letterKey, hstays, hnone]

theorem letterKey_gt : letterKey '>' = 62 := by decide +kernel

-- No letter of a text in lower case counts as a greater-than sign, when the text has none.
theorem sameLetter_gt_of_lower {s : List Char} (h : '>' ∉ s) :
    ∀ a ∈ lower s, sameLetter a '>' = false := by
  intro a ha
  by_contra hsame
  rw [Bool.not_eq_false, sameLetter, beq_iff_eq, letterKey_gt] at hsame
  have hnat := eq_of_letterKey_lt (by omega) hsame
  have hgt : a = '>' := by
    rw [← Char.ofNat_toNat a, hnat]
  subst hgt
  exact h (mem_of_mem_lower (by decide) ha)

/-! ## Capitals of ASCII -/

/-- Characters that make no difference to the lower case of a text. -/
def Interchangeable (c d : Char) : Prop :=
  lowerChar c = lowerChar d ∧ isCased c = isCased d ∧ isIgnorable c = isIgnorable d ∧
    (c == 'Σ') = (d == 'Σ')

instance (c d : Char) : Decidable (Interchangeable c d) := inferInstanceAs (Decidable (_ ∧ _))

theorem interchangeable_ascii :
    ∀ n < 128, Interchangeable (Char.ofNat n).toLower (Char.ofNat n) := by
  decide +kernel

theorem toLower_eq_self {c : Char} (h : 128 ≤ c.toNat) : c.toLower = c := by
  apply dif_neg
  rintro ⟨-, hz⟩
  have hz' : c.toNat ≤ 90 := hz
  omega

theorem interchangeable_toLower (c : Char) : Interchangeable c.toLower c := by
  by_cases hascii : c.toNat < 128
  · have h := interchangeable_ascii c.toNat hascii
    rwa [Char.ofNat_toNat] at h
  · rw [toLower_eq_self (Nat.le_of_not_lt hascii)]
    exact ⟨rfl, rfl, rfl, rfl⟩

theorem startsCased_map_toLower (s : List Char) :
    startsCased (s.map Char.toLower) = startsCased s := by
  induction s with
  | nil => rfl
  | cons c rest ih =>
    obtain ⟨-, hcased, hignorable, -⟩ := interchangeable_toLower c
    rw [List.map_cons, startsCased, startsCased, hignorable, hcased, ih]

-- Making the capitals of ASCII small first makes no difference.
theorem lower_map_toLower (s : List Char) : lower (s.map Char.toLower) = lower s := by
  have hall : ∀ (s : List Char) (afterCased : Bool),
      lowerAfter afterCased (s.map Char.toLower) = lowerAfter afterCased s := by
    intro s
    induction s with
    | nil => intro _; rfl
    | cons c rest ih =>
      intro afterCased
      obtain ⟨hlower, hcased, hignorable, hsigma⟩ := interchangeable_toLower c
      rw [List.map_cons, lowerAfter, lowerAfter, startsCased_map_toLower, ih, hsigma, hlower,
        hcased, hignorable]
  exact hall s false

/-- A text with the capitals of ASCII made small; all other letters stay. -/
def plain (s : String) : String :=
  String.ofList (s.toList.map Char.toLower)

theorem lowered_plain (s : String) : lowered (plain s) = lowered s := by
  rw [lowered, plain, String.toList_ofList, lower_map_toLower, lowered]

end HeadLint.Text
