import HeadLint.Proofs.Text.Runs
import HeadLint.Timestamp

/-!
Points in time that are written without a distance from UTC.  They are those of UTC: writing the
distance zero behind them changes nothing.
-/

namespace HeadLint.Timestamp

open Text

/-- `Naive s`: the text has a time of day, and no distance from UTC, so neither a sign nor the
letter `Z` stands behind the separator. -/
def Naive (s : List Char) : Prop :=
  ∃ length, dateLength? s = some length ∧ length < s.length ∧
    ∀ c ∈ s.drop (length + 1), c ≠ '+' ∧ c ≠ '-' ∧ c ≠ 'Z'

/-- The distance zero from UTC. -/
def utcMark : List Char := ['+', '0', '0', ':', '0', '0']

/-! ## The time of day -/

theorem length_of_readNumber? {width : Nat} {s : List Char} {found : Nat × List Char}
    (h : readNumber? width s = some found) : width ≤ s.length := by
  simp only [readNumber?, beq_iff_eq, Option.ite_none_right_eq_some] at h
  have hle := List.length_filterMap_le asciiDigit? (s.take width)
  rw [h.1, List.length_take] at hle
  omega

theorem length_of_readTime? {s : List Char} {found : Clock × Int}
    (h : readTime? s = some found) : 2 ≤ s.length := by
  simp only [readTime?, readClock?, readParts?, Option.bind_eq_bind, Option.bind_eq_some_iff] at h
  obtain ⟨_, ⟨_, ⟨_, hnumber, -⟩, -⟩, -⟩ := h
  exact (length_of_readNumber? hnumber).trans (List.takeWhile_prefix _).length_le

theorem readTime?_append_utcMark {s : List Char} {found : Clock × Int}
    (hs : ∀ c ∈ s, c ≠ '+' ∧ c ≠ '-' ∧ c ≠ 'Z') (h : readTime? s = some found) :
    readTime? (s ++ utcMark) = some found := by
  have hall : ∀ c ∈ s, (c != '+' && c != '-' && c != 'Z') = true := by
    intro c hc
    simpa [and_assoc] using hs c hc
  have hbody : s.takeWhile (fun c => c != '+' && c != '-' && c != 'Z') = s :=
    List.takeWhile_eq_self_iff.2 hall
  have hbody' : (s ++ utcMark).takeWhile (fun c => c != '+' && c != '-' && c != 'Z') = s :=
    takeWhile_run hall (stops_cons.2 rfl)
  simp only [readTime?, hbody, List.drop_length, Option.bind_eq_bind, Option.bind_eq_some_iff,
    Prod.exists] at h
  obtain ⟨clock, whole, hclock, h⟩ := h
  have hzero : readOffset? ['0', '0', ':', '0', '0'] = some 0 := by decide
  simp only [readTime?, hbody', hclock, List.drop_left]
  cases whole with
  | false => cases h
  | true => simpa [utcMark, hzero] using h

/-! ## The date -/

theorem seven_le_of_dateLength? {s : List Char} {length : Nat} (h : dateLength? s = some length) :
    7 ≤ length := by
  simp only [dateLength?, plainWeekLength] at h
  grind

theorem any_getElem?_append_utcMark {s : List Char} {i : Nat} {p : Char → Bool}
    (hi : i ≤ s.length) (hp : p '+' = false) : ((s ++ utcMark)[i]?).any p = s[i]?.any p := by
  rcases Nat.lt_or_eq_of_le hi with hlt | rfl
  · rw [List.getElem?_append_left hlt]
  · simp [utcMark, hp]

theorem beq_getElem?_append_utcMark {s : List Char} {i : Nat} {c : Char} (hi : i ≤ s.length)
    (hc : '+' ≠ c) : ((s ++ utcMark)[i]? == some c) = (s[i]? == some c) := by
  rcases Nat.lt_or_eq_of_le hi with hlt | rfl
  · rw [List.getElem?_append_left hlt]
  · simp [utcMark, hc]

theorem plainWeekLength_append_utcMark {s : List Char} (h : 7 ≤ s.length) :
    plainWeekLength (s ++ utcMark) = plainWeekLength s := by
  have hstops : utcMark.takeWhile isAsciiDigit = [] := takeWhile_of_stops (stops_cons.2 rfl)
  have hrun : (s.drop 7 ++ utcMark).takeWhile isAsciiDigit = (s.drop 7).takeWhile isAsciiDigit := by
    rw [List.takeWhile_append, hstops, List.append_nil]
    split
    · rename_i hall
      exact ((List.takeWhile_prefix isAsciiDigit).eq_of_length hall).symm
    · rfl
  rw [plainWeekLength, plainWeekLength, List.drop_append_of_le_length h, hrun]

-- The form of a date shows within ten characters.
theorem dateLength?_append_utcMark {s : List Char} (h : 10 ≤ s.length) :
    dateLength? (s ++ utcMark) = dateLength? s := by
  have hlong : ∀ t : List Char, 10 ≤ t.length →
      ¬ t.length < 7 ∧ (t.length == 7) = false ∧ (t.length == 9) = false := by
    intro t ht
    simp only [beq_eq_false_iff_ne]
    omega
  obtain ⟨hseven, hnotSeven, hnotNine⟩ := hlong s h
  obtain ⟨hseven', hnotSeven', hnotNine'⟩ := hlong (s ++ utcMark) (by simp; omega)
  simp only [dateLength?, if_neg hseven, if_neg hseven', hnotSeven, hnotSeven', hnotNine, hnotNine',
    beq_getElem?_append_utcMark (by omega : 4 ≤ s.length) (by decide : '+' ≠ '-'),
    beq_getElem?_append_utcMark (by omega : 4 ≤ s.length) (by decide : '+' ≠ 'W'),
    beq_getElem?_append_utcMark (by omega : 5 ≤ s.length) (by decide : '+' ≠ 'W'),
    beq_getElem?_append_utcMark (by omega : 8 ≤ s.length) (by decide : '+' ≠ '-'),
    any_getElem?_append_utcMark h (by decide : isAsciiDigit '+' = false),
    plainWeekLength_append_utcMark (by omega : 7 ≤ s.length)]

theorem readAll?_append_utcMark {s : List Char} {found : Date × Clock × Int} (hnaive : Naive s)
    (h : readAll? s = some found) : readAll? (s ++ utcMark) = some found := by
  obtain ⟨length, hlength, hlt, hsigns⟩ := hnaive
  have hseven := seven_le_of_dateLength? hlength
  have hdrop := List.drop_eq_getElem_cons hlt
  simp only [readAll?, hlength, hdrop, Option.bind_eq_bind, Option.bind_some,
    Option.bind_eq_some_iff, Prod.exists] at h
  obtain ⟨date, hdate, clock, offset, htime, hfound⟩ := h
  have hten : 10 ≤ s.length := by
    have htwo := length_of_readTime? htime
    rw [List.length_drop] at htwo
    omega
  simp only [readAll?, dateLength?_append_utcMark hten, hlength,
    List.take_append_of_le_length (Nat.le_of_lt hlt),
    List.drop_append_of_le_length (Nat.le_of_lt hlt), hdrop, List.cons_append, hdate,
    readTime?_append_utcMark hsigns htime, Option.bind_eq_bind, Option.bind_some, hfound]

/-- A point in time without a distance from UTC is the same with the distance zero. -/
theorem read_append_utc {stamp : String} {t : Instant} (hnaive : Naive stamp.toList)
    (h : read stamp = .ok t) : read (stamp ++ "+00:00") = .ok t := by
  have htext : (stamp ++ "+00:00").toList = stamp.toList ++ utcMark := String.toList_append
  unfold read at h ⊢
  cases hall : readAll? stamp.toList with
  | none =>
    rw [hall] at h
    cases h
  | some found =>
    rw [hall] at h
    rw [htext, readAll?_append_utcMark hnaive hall]
    exact h

end HeadLint.Timestamp
