import HeadLint.Timestamp
import Mathlib.Tactic.IntervalCases

/-!
The calendar.  The arithmetic that turns days into dates and back agrees with counting along the
calendar one day at a time, in both directions from 1970 and without a bound.
-/

namespace HeadLint.Date

open Timestamp

/-! ## Eras -/

/-- The days of an era before one of its years. -/
def yearStart (year : Nat) : Nat :=
  365 * year + year / 4 - year / 100

/-- The days of an era before a day of it, less the leap days among them. -/
def plainDays (dayOfEra : Nat) : Nat :=
  dayOfEra - dayOfEra / 1460 + dayOfEra / 36524 - dayOfEra / 146096

theorem plainDays_mono {m n : Nat} (h : m ≤ n) : plainDays m ≤ plainDays n := by
  simp only [plainDays]
  omega

theorem plainDays_yearStart : ∀ year < 400, 365 * year ≤ plainDays (yearStart year) ∧
    (0 < year → plainDays (yearStart year - 1) < 365 * year) := by
  decide +kernel

-- `plainDays` grows, so what it is at the start of a year and right before decides the year of
-- every day in between.
theorem yearStart_bounds {dayOfEra : Nat} (h : dayOfEra < 146097) :
    plainDays dayOfEra / 365 < 400 ∧ yearStart (plainDays dayOfEra / 365) ≤ dayOfEra ∧
      (plainDays dayOfEra / 365 < 399 →
        dayOfEra < yearStart (plainDays dayOfEra / 365 + 1)) := by
  have hlast : plainDays dayOfEra ≤ plainDays 146096 := plainDays_mono (by omega)
  have hyears : plainDays 146096 = 145999 := by decide
  have hlt : plainDays dayOfEra / 365 < 400 := by omega
  refine ⟨hlt, ?_, fun hmore => ?_⟩
  · by_contra hbefore
    have hle := plainDays_mono (Nat.le_sub_one_of_lt (Nat.lt_of_not_le hbefore))
    have hpos : 0 < plainDays dayOfEra / 365 := by
      by_contra hzero
      rw [Nat.eq_zero_of_not_pos hzero] at hbefore
      exact hbefore (Nat.zero_le _)
    have hstart := (plainDays_yearStart _ hlt).2 hpos
    omega
  · by_contra hbehind
    have hle := plainDays_mono (Nat.le_of_not_lt hbehind)
    have hstart := (plainDays_yearStart (plainDays dayOfEra / 365 + 1) (by omega)).1
    omega

/-! ## Years that start in March -/

/-- The days from the first of March of year 0 to that of another year. -/
def marchStart (year : Int) : Int :=
  365 * year + year / 4 - year / 100 + year / 400

theorem marchStart_era (era : Int) {year : Nat} (h : year < 400) :
    marchStart (era * 400 + year) = era * 146097 + yearStart year := by
  have hfour : (era * 400 + year) / 4 = era * 100 + (year / 4 : Nat) := by omega
  have hhundred : (era * 400 + year) / 100 = era * 4 + (year / 100 : Nat) := by omega
  have hera : (era * 400 + year) / 400 = era := by omega
  simp only [marchStart, yearStart, hfour, hhundred, hera]
  omega

theorem marchStart_mono {year year' : Int} (h : year ≤ year') :
    marchStart year ≤ marchStart year' := by
  simp only [marchStart]
  omega

theorem marchStart_succ (year : Int) :
    marchStart (year + 1) = marchStart year + 365 + if isLeap (year + 1) then 1 else 0 := by
  simp only [marchStart, isLeap, Bool.and_eq_true, Bool.or_eq_true, beq_iff_eq, bne_iff_ne]
  split <;> omega

theorem lt_of_marchStart_add {year : Int} {dayOfYear : Nat}
    (h : marchStart year + dayOfYear < marchStart (year + 1)) : dayOfYear < 366 := by
  rw [marchStart_succ] at h
  split at h <;> omega

-- A day lies in one year only.
theorem eq_of_marchStart_add {year year' : Int} {day day' : Nat}
    (h : marchStart year + day < marchStart (year + 1))
    (h' : marchStart year' + day' < marchStart (year' + 1))
    (heq : marchStart year + day = marchStart year' + day') : year = year' ∧ day = day' := by
  have hyear : year = year' := by
    rcases lt_trichotomy year year' with hlt | heq | hgt
    · have hle := marchStart_mono (Int.add_one_le_of_lt hlt)
      omega
    · exact heq
    · have hle := marchStart_mono (Int.add_one_le_of_lt hgt)
      omega
  subst hyear
  exact ⟨rfl, by omega⟩

-- The year that is read off the days of an era is the one that a day lies in.
theorem marchStart_plainDays (era : Int) {dayOfEra : Nat} (h : dayOfEra < 146097) :
    yearStart (plainDays dayOfEra / 365) ≤ dayOfEra ∧
      marchStart (era * 400 + (plainDays dayOfEra / 365 : Nat)) =
        era * 146097 + yearStart (plainDays dayOfEra / 365) ∧
      era * 146097 + dayOfEra <
        marchStart (era * 400 + (plainDays dayOfEra / 365 : Nat) + 1) := by
  obtain ⟨hlt, hstart, hnext⟩ := yearStart_bounds h
  generalize plainDays dayOfEra / 365 = year at hlt hstart hnext
  refine ⟨hstart, marchStart_era era hlt, ?_⟩
  by_cases hlast : year = 399
  · have hera := marchStart_era (era + 1) (by decide : 0 < 400)
    rw [hlast, show era * 400 + ((399 : Nat) : Int) + 1 = (era + 1) * 400 + (0 : Nat) by omega,
      hera]
    omega
  · have hera := marchStart_era era (by omega : year + 1 < 400)
    rw [Nat.cast_succ, ← add_assoc] at hera
    rw [hera]
    have hless := hnext (by omega)
    omega

/-- The days of a year that starts in March before one of its months. -/
def monthStart (month : Nat) : Nat :=
  (153 * month + 2) / 5

/-- The date of a day of a year that starts in March. -/
def ofMarch (year : Int) (dayOfYear : Nat) : Date :=
  let month := (5 * dayOfYear + 2) / 153
  let day := dayOfYear - monthStart month + 1
  if month < 10 then ⟨year, month + 3, day⟩ else ⟨year + 1, month - 9, day⟩

theorem exists_ofMarch (days : Int) :
    ∃ (year : Int) (dayOfYear : Nat), days = marchStart year + dayOfYear - 719468 ∧
      marchStart year + dayOfYear < marchStart (year + 1) ∧
      ofDays days = ofMarch year dayOfYear := by
  have hera := Int.fdiv_eq_ediv_of_nonneg (days + 719468) (by decide : (0 : Int) ≤ 146097)
  generalize hquot : (days + 719468) / 146097 = era at hera
  obtain ⟨dayOfEra, hday⟩ : ∃ n : Nat, (days + 719468 - era * 146097).toNat = n := ⟨_, rfl⟩
  obtain ⟨hstart, hyear, hnext⟩ := marchStart_plainDays era (by omega : dayOfEra < 146097)
  refine ⟨era * 400 + (plainDays dayOfEra / 365 : Nat),
    dayOfEra - yearStart (plainDays dayOfEra / 365), ?_, ?_, ?_⟩
  · rw [hyear]
    omega
  · rw [hyear]
    omega
  · simp only [ofDays, hera, hday]
    rfl

/-- The year that a date belongs to when years start in March. -/
def marchYear (d : Date) : Int :=
  if d.month ≤ 2 then d.year - 1 else d.year

/-- The month of a date, counted from March. -/
def marchMonth (d : Date) : Nat :=
  if d.month ≤ 2 then d.month + 9 else d.month - 3

/-- The days of a year that starts in March before a date. -/
def marchDay (d : Date) : Nat :=
  monthStart d.marchMonth + d.day - 1

theorem toDays_eq (d : Date) :
    d.toDays = marchStart d.marchYear + d.marchDay - 719468 := by
  have hyear : (if d.month ≤ 2 then d.year - 1 else d.year) = d.marchYear := rfl
  have hday : (153 * (if d.month ≤ 2 then d.month + 9 else d.month - 3) + 2) / 5 + d.day - 1 =
      d.marchDay := rfl
  have hera := Int.fdiv_eq_ediv_of_nonneg d.marchYear (by decide : (0 : Int) ≤ 400)
  have hlt : (d.marchYear - d.marchYear / 400 * 400).toNat < 400 := by omega
  have hstart := marchStart_era (d.marchYear / 400) hlt
  rw [show d.marchYear / 400 * 400 + ((d.marchYear - d.marchYear / 400 * 400).toNat : Int) =
    d.marchYear by omega] at hstart
  simp only [toDays, hyear, hday, hera, hstart, yearStart]
  omega

/-! ## Months -/

/-- A day of the calendar: its month is one of the twelve and has that many days. -/
structure Valid (d : Date) : Prop where
  one_le_month : 1 ≤ d.month
  month_le : d.month ≤ 12
  one_le_day : 1 ≤ d.day
  day_le : d.day ≤ daysInMonth d.year d.month

theorem daysInMonth_bounds (year : Int) (month : Nat) :
    1 ≤ daysInMonth year month ∧ daysInMonth year month ≤ 31 := by
  unfold daysInMonth
  repeat' split
  all_goals decide

theorem march_of_february {d : Date} (h : d.month = 2) :
    d.marchYear = d.year - 1 ∧ d.marchMonth = 11 := by
  simp [marchYear, marchMonth, h]

-- Every month but February ends where the next one starts; February ends with the year.
theorem monthStart_marchMonth_succ {d : Date} (hpos : 1 ≤ d.month) (hle : d.month ≤ 12)
    (hne : d.month ≠ 2) :
    monthStart (d.marchMonth + 1) = monthStart d.marchMonth + daysInMonth d.year d.month := by
  obtain ⟨year, month, day⟩ := d
  dsimp only at hpos hle hne
  interval_cases month <;> simp [monthStart, marchMonth, daysInMonth] at hne ⊢

theorem marchStart_february (year : Int) :
    marchStart (year + 1) = marchStart year + monthStart 11 + daysInMonth (year + 1) 2 := by
  rw [marchStart_succ]
  simp only [daysInMonth, monthStart, beq_self_eq_true, if_true]
  split <;> omega

theorem monthStart_bounds {dayOfYear : Nat} (h : dayOfYear < 366) :
    (5 * dayOfYear + 2) / 153 < 12 ∧ monthStart ((5 * dayOfYear + 2) / 153) ≤ dayOfYear ∧
      dayOfYear < monthStart ((5 * dayOfYear + 2) / 153 + 1) := by
  simp only [monthStart]
  omega

theorem marchYear_ofMarch {dayOfYear : Nat} (year : Int) (h : dayOfYear < 366) :
    (ofMarch year dayOfYear).marchYear = year := by
  obtain ⟨hmonth, -, -⟩ := monthStart_bounds h
  simp only [ofMarch]
  split <;> simp only [marchYear] <;> split <;> omega

theorem marchMonth_ofMarch {dayOfYear : Nat} (year : Int) (h : dayOfYear < 366) :
    (ofMarch year dayOfYear).marchMonth = (5 * dayOfYear + 2) / 153 := by
  obtain ⟨hmonth, -, -⟩ := monthStart_bounds h
  simp only [ofMarch]
  split <;> simp only [marchMonth] <;> split <;> omega

theorem day_ofMarch (year : Int) (dayOfYear : Nat) :
    (ofMarch year dayOfYear).day =
      dayOfYear - monthStart ((5 * dayOfYear + 2) / 153) + 1 := by
  simp only [ofMarch]
  split <;> rfl

theorem marchDay_ofMarch {dayOfYear : Nat} (year : Int) (h : dayOfYear < 366) :
    (ofMarch year dayOfYear).marchDay = dayOfYear := by
  obtain ⟨-, hstart, -⟩ := monthStart_bounds h
  rw [marchDay, marchMonth_ofMarch year h, day_ofMarch]
  omega

theorem valid_ofMarch {year : Int} {dayOfYear : Nat}
    (h : marchStart year + dayOfYear < marchStart (year + 1)) :
    (ofMarch year dayOfYear).Valid := by
  have hlt := lt_of_marchStart_add h
  obtain ⟨hmonth, hstart, hnext⟩ := monthStart_bounds hlt
  have hyear := marchYear_ofMarch year hlt
  have hmarch := marchMonth_ofMarch year hlt
  have hday := day_ofMarch year dayOfYear
  have hbounds : 1 ≤ (ofMarch year dayOfYear).month ∧ (ofMarch year dayOfYear).month ≤ 12 := by
    simp only [ofMarch]
    split <;> dsimp only <;> omega
  refine ⟨hbounds.1, hbounds.2, by omega, ?_⟩
  generalize ofMarch year dayOfYear = d at *
  rw [← hmarch] at hday hstart hnext
  by_cases hfebruary : d.month = 2
  · obtain ⟨hbefore, heleven⟩ := march_of_february hfebruary
    have hend := marchStart_february year
    rw [heleven] at hday hstart
    rw [hfebruary, show d.year = year + 1 by omega]
    omega
  · have hlength := monthStart_marchMonth_succ hbounds.1 hbounds.2 hfebruary
    omega

theorem Valid.marchDay_lt {d : Date} (h : d.Valid) :
    d.marchDay < monthStart (d.marchMonth + 1) := by
  obtain ⟨hpos, hle, hday, hdays⟩ := h
  rw [marchDay]
  by_cases hfebruary : d.month = 2
  · obtain ⟨-, heleven⟩ := march_of_february hfebruary
    have hgap : monthStart (11 + 1) = monthStart 11 + 30 := by decide
    have hlast : daysInMonth d.year 2 ≤ 29 := by
      simp only [daysInMonth, beq_self_eq_true, if_true]
      split <;> decide
    rw [hfebruary] at hdays
    rw [heleven]
    omega
  · have hlength := monthStart_marchMonth_succ hpos hle hfebruary
    omega

theorem Valid.marchStart_add_lt {d : Date} (h : d.Valid) :
    marchStart d.marchYear + d.marchDay < marchStart (d.marchYear + 1) := by
  have hlt := h.marchDay_lt
  have hend := marchStart_february d.marchYear
  by_cases hfebruary : d.month = 2
  · obtain ⟨hbefore, heleven⟩ := march_of_february hfebruary
    have hday := h.one_le_day
    have hdays := h.day_le
    rw [hfebruary] at hdays
    rw [show d.marchYear + 1 = d.year by omega] at hend ⊢
    rw [hend, marchDay, heleven]
    omega
  · have hmonth : d.marchMonth + 1 ≤ 11 := by
      have hle := h.month_le
      rw [marchMonth]
      split <;> omega
    have hlast : monthStart (d.marchMonth + 1) ≤ monthStart 11 := by
      simp only [monthStart]
      omega
    omega

-- Month and day are found again in the days before them.
theorem Valid.ofMarch_march {d : Date} (h : d.Valid) : ofMarch d.marchYear d.marchDay = d := by
  have hlt := h.marchDay_lt
  obtain ⟨hpos, hle, hday, -⟩ := h
  have hstart : monthStart d.marchMonth ≤ d.marchDay := by
    rw [marchDay]
    omega
  have hmonth : (5 * d.marchDay + 2) / 153 = d.marchMonth := by
    simp only [monthStart] at hlt hstart
    omega
  have hrest : d.marchDay - monthStart d.marchMonth + 1 = d.day := by
    rw [marchDay] at hstart ⊢
    omega
  simp only [ofMarch, hmonth, hrest]
  by_cases hwinter : d.month ≤ 2
  · simp only [marchYear, marchMonth, if_pos hwinter]
    rw [if_neg (by omega), Date.mk.injEq]
    omega
  · simp only [marchYear, marchMonth, if_neg hwinter]
    rw [if_pos (by omega), Date.mk.injEq]
    omega

theorem toDays_ofDays (days : Int) : (ofDays days).toDays = days := by
  obtain ⟨year, dayOfYear, hdays, hlt, hof⟩ := exists_ofMarch days
  have hday := lt_of_marchStart_add hlt
  rw [hof, toDays_eq, marchYear_ofMarch year hday, marchDay_ofMarch year hday, hdays]

theorem valid_ofDays (days : Int) : (ofDays days).Valid := by
  obtain ⟨year, dayOfYear, -, hlt, hof⟩ := exists_ofMarch days
  rw [hof]
  exact valid_ofMarch hlt

theorem ofDays_toDays {d : Date} (h : d.Valid) : ofDays d.toDays = d := by
  obtain ⟨year, dayOfYear, hdays, hlt, hof⟩ := exists_ofMarch d.toDays
  rw [toDays_eq] at hdays
  obtain ⟨hyear, hday⟩ := eq_of_marchStart_add h.marchStart_add_lt hlt (by omega)
  rw [hof, ← hyear, ← hday, h.ofMarch_march]

/-! ## Counting days -/

/-- The day after a date. -/
def next (d : Date) : Date :=
  if d.day < daysInMonth d.year d.month then { d with day := d.day + 1 }
  else if d.month < 12 then ⟨d.year, d.month + 1, 1⟩
  else ⟨d.year + 1, 1, 1⟩

theorem Valid.next {d : Date} (h : d.Valid) : d.next.Valid := by
  have hfirst := fun year month => (daysInMonth_bounds year month).1
  unfold Date.next
  split
  · rename_i hlt
    exact ⟨h.one_le_month, h.month_le, Nat.le_add_left 1 d.day, hlt⟩
  · split
    · rename_i hmore
      exact ⟨Nat.le_add_left 1 d.month, hmore, le_refl 1, hfirst _ _⟩
    · exact ⟨le_refl 1, Nat.le_add_left 1 11, le_refl 1, hfirst _ _⟩

-- The first of a month comes right after the last day of the month before.
theorem toDays_first {d first : Date} (h : d.Valid) (hlast : d.day = daysInMonth d.year d.month)
    (hfirst : first.day = 1)
    (hnext : first.year = d.year ∧ first.month = d.month + 1 ∧ d.month < 12 ∨
      first.year = d.year + 1 ∧ first.month = 1 ∧ d.month = 12) :
    first.toDays = d.toDays + 1 := by
  obtain ⟨hpos, hle, hday, -⟩ := h
  rw [toDays_eq, toDays_eq, marchDay, marchDay, hfirst]
  by_cases hfebruary : d.month = 2
  · obtain ⟨hyear, hmonth⟩ := march_of_february hfebruary
    have hyear' : first.marchYear = d.year := by
      rw [marchYear]
      split <;> omega
    have hmonth' : first.marchMonth = 0 := by
      rw [marchMonth]
      split <;> omega
    have hend := marchStart_february (d.year - 1)
    have hzero : monthStart 0 = 0 := rfl
    rw [sub_add_cancel] at hend
    rw [hfebruary] at hlast
    rw [hyear, hmonth, hyear', hmonth', hlast, hend, hzero]
    omega
  · have hlength := monthStart_marchMonth_succ hpos hle hfebruary
    have hyear : first.marchYear = d.marchYear := by
      rw [marchYear, marchYear]
      split <;> split <;> omega
    have hmonth : first.marchMonth = d.marchMonth + 1 := by
      rw [marchMonth, marchMonth]
      split <;> split <;> omega
    rw [hyear, hmonth]
    omega

theorem toDays_next {d : Date} (h : d.Valid) : d.next.toDays = d.toDays + 1 := by
  have hday := h.day_le
  unfold Date.next
  split
  · have hpos := h.one_le_day
    rw [toDays_eq, toDays_eq]
    simp only [marchDay, marchYear, marchMonth]
    omega
  · split
    · rename_i hmore
      exact toDays_first h (by omega) rfl (.inl ⟨rfl, rfl, hmore⟩)
    · have hmonth := h.month_le
      exact toDays_first h (by omega) rfl (.inr ⟨rfl, rfl, by omega⟩)

theorem next_ofDays (n : Int) : (ofDays n).next = ofDays (n + 1) := by
  have hvalid := valid_ofDays n
  rw [← ofDays_toDays hvalid.next, toDays_next hvalid, toDays_ofDays]

/-- `d.FallsOn n`: counted along the calendar, the date `d` is `n` days after the first of January
1970, or before it if `n` is negative. -/
inductive FallsOn : Date → Int → Prop where
  | epoch : FallsOn ⟨1970, 1, 1⟩ 0
  | next {d : Date} {n : Int} : FallsOn d n → FallsOn d.next (n + 1)
  | previous {d : Date} {n : Int} : d.Valid → FallsOn d.next n → FallsOn d (n - 1)

theorem fallsOn_ofDays (n : Int) : (ofDays n).FallsOn n := by
  have hepoch : ofDays 0 = ⟨1970, 1, 1⟩ := by decide
  induction n using Int.induction_on with
  | zero =>
    rw [hepoch]
    exact .epoch
  | succ n ih =>
    rw [← next_ofDays]
    exact .next ih
  | pred n ih =>
    apply FallsOn.previous (valid_ofDays _)
    rw [next_ofDays, sub_add_cancel]
    exact ih

theorem FallsOn.eq_ofDays {d : Date} {n : Int} (h : d.FallsOn n) : d = ofDays n := by
  induction h with
  | epoch => decide
  | next _ ih => rw [ih, next_ofDays]
  | @previous d n hvalid _ ih =>
    have hdays := toDays_next hvalid
    rw [ih, toDays_ofDays] at hdays
    rw [← ofDays_toDays hvalid, show d.toDays = n - 1 by omega]

/-- The date of a day is the one that counting along the calendar comes to. -/
theorem fallsOn_iff {d : Date} {n : Int} : d.FallsOn n ↔ d = ofDays n := by
  constructor
  · exact FallsOn.eq_ofDays
  · rintro rfl
    exact fallsOn_ofDays n

theorem year_ofDays {days : Int} (hlow : -719162 ≤ days) (hhigh : days ≤ 2932896) :
    1 ≤ (ofDays days).year ∧ (ofDays days).year ≤ 9999 := by
  obtain ⟨year, dayOfYear, hdays, hlt, hof⟩ := exists_ofMarch days
  have hfirst : marchStart 0 = 0 := by decide
  have hlast : marchStart 9999 = 3652059 := by decide
  have hge : 0 ≤ year := by
    by_contra hneg
    have hle := marchStart_mono (by omega : year + 1 ≤ 0)
    omega
  have hle : year ≤ 9999 := by
    by_contra hmore
    have hge := marchStart_mono (by omega : 9999 + 1 ≤ year)
    have hbehind : marchStart (9999 + 1) = 3652425 := by decide
    omega
  -- Only the ends of the first and of the last of these years need a look at the month.
  rw [hof]
  simp only [ofMarch]
  split
  · rename_i hmonth
    refine ⟨?_, hle⟩
    by_contra hzero
    obtain rfl : year = 0 := by
      dsimp only at hzero
      omega
    omega
  · rename_i hmonth
    refine ⟨Int.le_add_of_nonneg_left hge, ?_⟩
    by_contra hmore
    obtain rfl : year = 9999 := by
      dsimp only at hmore
      omega
    omega

/-! ## The written form -/

/-- The last `width` decimal digits of a number. -/
def digits : Nat → Nat → List Char
  | 0, _ => []
  | width + 1, n => digits width (n / 10) ++ [Nat.digitChar (n % 10)]

/-- `d.Written text`: the text is four digits of the year, two of the month and two of the day, with
a hyphen between them, and no digit is cut off. -/
structure Written (d : Date) (text : String) : Prop where
  year_bounds : 0 ≤ d.year ∧ d.year < 10000
  month_lt : d.month < 100
  day_lt : d.day < 100
  toList_eq : text.toList =
    digits 4 d.year.toNat ++ '-' :: (digits 2 d.month ++ '-' :: digits 2 d.day)

theorem digits_zero (width : Nat) : digits width 0 = List.replicate width '0' := by
  induction width with
  | zero => rfl
  | succ width ih =>
    rw [digits, Nat.zero_div, ih, List.replicate_succ']
    rfl

theorem padded_eq {width n : Nat} (hpos : 0 < width) (h : n < 10 ^ width) :
    padded width n = String.ofList (digits width n) := by
  unfold padded
  dsimp only
  congr 1
  induction width, hpos using Nat.le_induction generalizing n with
  | base =>
    have hsmall : n < 10 := by simpa using h
    rw [Nat.toDigits_of_lt_base hsmall, digits, Nat.mod_eq_of_lt hsmall]
    rfl
  | succ width hpos ih =>
    by_cases hsmall : n < 10
    · rw [Nat.toDigits_of_lt_base hsmall, digits, Nat.div_eq_of_lt hsmall, digits_zero,
        Nat.mod_eq_of_lt hsmall]
      rfl
    · have hdiv : n / 10 < 10 ^ width := by
        rw [Nat.pow_succ] at h
        omega
      rw [Nat.toDigits_of_base_le (by decide) (Nat.le_of_not_lt hsmall), digits, ← ih hdiv,
        List.length_append, List.length_singleton, Nat.add_sub_add_right, List.append_assoc]

theorem Valid.written_toText {d : Date} (h : d.Valid) (hyear : 0 ≤ d.year ∧ d.year < 10000) :
    d.Written d.toText := by
  have hmonth : d.month < 10 ^ 2 := Nat.lt_of_le_of_lt h.month_le (by decide)
  have hday : d.day < 10 ^ 2 :=
    Nat.lt_of_le_of_lt (h.day_le.trans (daysInMonth_bounds _ _).2) (by decide)
  refine ⟨hyear, hmonth, hday, ?_⟩
  rw [toText, padded_eq (by decide) (by omega), padded_eq (by decide) hmonth,
    padded_eq (by decide) hday]
  simp [toString]

/-! ## Dates of instants -/

/-- `d.Covers seconds`: so many seconds after the start of 1970 it is the day `d`, that is, midnight
of `d` is not later and that of the day after is. -/
def Covers (d : Date) (seconds : Int) : Prop :=
  ∃ day, d.FallsOn day ∧ 86400 * day ≤ seconds ∧ seconds < 86400 * day + 86400

theorem covers_iff {d : Date} {seconds : Int} :
    d.Covers seconds ↔ d = Instant.date ⟨seconds * 1000000⟩ := by
  have hdate : Instant.date ⟨seconds * 1000000⟩ = ofDays (seconds / 86400) := by
    rw [Instant.date, Int.fdiv_eq_ediv_of_nonneg _ (by decide)]
    simp only [Instant.second]
    congr 1
    omega
  rw [hdate]
  constructor
  · rintro ⟨day, hfalls, hlow, hhigh⟩
    rw [hfalls.eq_ofDays, show day = seconds / 86400 by omega]
  · rintro rfl
    exact ⟨seconds / 86400, fallsOn_ofDays _, by omega, by omega⟩

theorem Covers.written_toText {d : Date} {seconds : Int} (h : d.Covers seconds)
    (hlow : Instant.firstSecond ≤ seconds) (hhigh : seconds ≤ Instant.lastSecond) :
    d.Written d.toText := by
  obtain ⟨day, hfalls, hstart, hend⟩ := h
  simp only [Instant.firstSecond, Instant.lastSecond] at hlow hhigh
  have hyear := year_ofDays (by omega : -719162 ≤ day) (by omega)
  obtain rfl := hfalls.eq_ofDays
  exact (valid_ofDays day).written_toText ⟨by omega, by omega⟩

end HeadLint.Date
