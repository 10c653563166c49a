import HeadLint.Markup.Locate
import HeadLint.Proofs.Entries
import HeadLint.Proofs.Text.Case
import HeadLint.Proofs.Text.Runs

/-!
Where the scans for source ranges end.  Every scan stays within the text it is given and never goes
back, and a scan that ends within a first part of the text finds the same in that part alone.
-/

namespace HeadLint.Markup

open Text

/-! ## Attribute values -/

/-- What stands between an attribute name and its value: an equals sign with any white space around
it. -/
def IsLink (s : List Char) : Prop :=
  ∃ before behind, s = before ++ '=' :: behind ∧ (∀ c ∈ before, isBlank c = true) ∧
    ∀ c ∈ behind, isBlank c = true

/-- `ValueAt s lo hi after`: behind an attribute name the text goes on with a value from offset
`lo` to offset `hi`, and the attribute ends at offset `after`. -/
inductive ValueAt : List Char → Nat → Nat → Nat → Prop where
  | quoted {link value rest : List Char} {q : Char} (hlink : IsLink link)
      (hq : isQuote q = true) (hvalue : q ∉ value) :
      ValueAt (link ++ q :: (value ++ q :: rest)) (link.length + 1)
        (link.length + 1 + value.length) (link.length + value.length + 2)
  | loose {link value rest : List Char} (hlink : IsLink link) (hne : value ≠ [])
      (hvalue : ∀ c ∈ value, isLooseChar c = true) (hrest : Stops isLooseChar rest)
      (hopen : ∀ q tail, value ++ rest = q :: tail → isQuote q = true → q ∉ tail) :
      ValueAt (link ++ (value ++ rest)) link.length (link.length + value.length)
        (link.length + value.length)

-- An equals sign is not white space.
theorem isBlank_equals : isBlank '=' = false := by decide

theorem isBlank_of_isQuote {q : Char} (hq : isQuote q = true) : isBlank q = false := by
  simp only [isQuote, Bool.or_eq_true, beq_iff_eq] at hq
  rcases hq with rfl | rfl <;> decide

-- The scan for a value behind a link.
theorem valueRange?_link {link body : List Char} (offset : Nat) (hlink : IsLink link)
    (hbody : Stops isBlank body) :
    valueRange? offset (link ++ body) =
      (quotedRange? (offset + link.length) body).or (looseRange? (offset + link.length) body) := by
  obtain ⟨before, behind, rfl, hbefore, hbehind⟩ := hlink
  have htrim : trimStart (before ++ '=' :: behind ++ body) = '=' :: (behind ++ body) := by
    rw [List.append_assoc]
    exact trimStart_run hbefore (stops_cons.2 isBlank_equals)
  have hbody' : trimStart (behind ++ body) = body := trimStart_run hbehind hbody
  have hstart : (before ++ '=' :: behind ++ body).length - body.length =
      (before ++ '=' :: behind).length := by
    rw [List.length_append]
    omega
  rw [valueRange?, htrim]
  simp only [hbody', hstart]

-- There is a range only behind a link.
theorem exists_link_of_valueRange? {offset : Nat} {s : List Char}
    (h : (valueRange? offset s).isSome) :
    ∃ link body, s = link ++ body ∧ IsLink link ∧ Stops isBlank body := by
  obtain ⟨before, hs, hbefore, -⟩ := exists_blanks s
  unfold valueRange? at h
  split at h
  · rename_i rest hrest
    obtain ⟨behind, hrest', hbehind, hstops⟩ := exists_blanks rest
    refine ⟨before ++ '=' :: behind, trimStart rest, ?_, ⟨before, behind, rfl, hbefore, hbehind⟩,
      hstops⟩
    rw [List.append_assoc, List.cons_append, ← hrest', ← hrest]
    exact hs
  · cases h

theorem quotedRange?_eq_some_iff {start : Nat} {body : List Char} {found : (Nat × Nat) × Nat} :
    quotedRange? start body = some found ↔
      ∃ q value rest, body = q :: (value ++ q :: rest) ∧ isQuote q = true ∧ q ∉ value ∧
        found = ((start + 1, start + 1 + value.length), start + value.length + 2) := by
  cases body with
  | nil => simp [quotedRange?]
  | cons q inside =>
    rw [quotedRange?]
    constructor
    · intro h
      split at h
      · rename_i hq
        split at h
        · rename_i value rest hcut
          obtain ⟨rfl, hvalue⟩ := cutFirst_eq_some_iff.1 hcut
          exact ⟨q, value, rest, rfl, hq, hvalue, (Option.some.inj h).symm⟩
        · cases h
      · cases h
    · rintro ⟨q', value, rest, hbody, hq, hvalue, rfl⟩
      obtain ⟨rfl, rfl⟩ := List.cons.inj hbody
      have hcut : cutFirst q (value ++ q :: rest) = (value, some rest) :=
        cutFirst_eq_some_iff.2 ⟨rfl, hvalue⟩
      rw [if_pos hq, hcut]

theorem looseRange?_eq_some_iff {start : Nat} {body : List Char} {found : (Nat × Nat) × Nat} :
    looseRange? start body = some found ↔
      body.takeWhile isLooseChar ≠ [] ∧
        found = ((start, start + (body.takeWhile isLooseChar).length),
          start + (body.takeWhile isLooseChar).length) := by
  simp only [looseRange?, beq_iff_eq, List.length_eq_zero_iff]
  split
  · rename_i h
    simp [h]
  · rename_i h
    simp [h, eq_comm]

-- The scan for a value finds what `ValueAt` describes.
theorem valueRange?_eq_some_iff {offset lo hi after : Nat} {s : List Char} :
    valueRange? offset s = some ((lo, hi), after) ↔
      ∃ lo' hi' after', ValueAt s lo' hi' after' ∧ lo = offset + lo' ∧ hi = offset + hi' ∧
        after = offset + after' := by
  constructor
  · intro h
    obtain ⟨link, body, rfl, hlink, hbody⟩ := exists_link_of_valueRange? (by rw [h]; rfl)
    rw [valueRange?_link offset hlink hbody] at h
    cases hquoted : quotedRange? (offset + link.length) body with
    | some found =>
      rw [hquoted, Option.some_or, Option.some.injEq] at h
      obtain ⟨q, value, rest, rfl, hq, hvalue, hfound⟩ := quotedRange?_eq_some_iff.1 hquoted
      rw [hfound] at h
      simp only [Prod.mk.injEq] at h
      exact ⟨_, _, _, .quoted hlink hq hvalue, by omega, by omega, by omega⟩
    | none =>
      rw [hquoted, Option.none_or] at h
      obtain ⟨hne, hfound⟩ := looseRange?_eq_some_iff.1 h
      obtain ⟨value, rest, rfl, hvalue, hrest, htake, -⟩ := exists_run isLooseChar body
      rw [htake] at hne hfound
      simp only [Prod.mk.injEq] at hfound
      refine ⟨_, _, _, .loose hlink hne hvalue hrest ?_, by omega, by omega, by omega⟩
      -- Had the quote been closed, the scan for a quoted value would have found it first.
      intro q tail htail hq hmem
      obtain ⟨inner, after, rfl, hinner⟩ := List.eq_append_cons_of_mem hmem
      rw [htail, quotedRange?_eq_some_iff.2 ⟨q, inner, after, rfl, hq, hinner, rfl⟩] at hquoted
      cases hquoted
  · rintro ⟨lo', hi', after', hvalue, rfl, rfl, rfl⟩
    cases hvalue with
    | @quoted link value rest q hlink hq hvalue =>
      rw [valueRange?_link offset hlink (stops_cons.2 (isBlank_of_isQuote hq)),
        quotedRange?_eq_some_iff.2 ⟨q, value, rest, rfl, hq, hvalue, rfl⟩, Option.some_or]
      simp only [Option.some.injEq, Prod.mk.injEq]
      omega
    | @loose link value rest hlink hne hvalue hrest hopen =>
      -- A loose value has no white space, so the link is all that the scan skips.
      have hbody : Stops isBlank (value ++ rest) := by
        cases value with
        | nil => exact absurd rfl hne
        | cons c value =>
          have hc := hvalue c List.mem_cons_self
          simp only [isLooseChar, Bool.and_eq_true, Bool.not_eq_true'] at hc
          exact stops_cons.2 hc.1
      have hquoted : quotedRange? (offset + link.length) (value ++ rest) = none := by
        cases h : quotedRange? (offset + link.length) (value ++ rest) with
        | none => rfl
        | some found =>
          obtain ⟨q, inner, after, hs, hq, -, -⟩ := quotedRange?_eq_some_iff.1 h
          exact absurd (by simp) (hopen q _ hs hq)
      have htake : (value ++ rest).takeWhile isLooseChar = value := takeWhile_run hvalue hrest
      rw [valueRange?_link offset hlink hbody, hquoted, Option.none_or, looseRange?_eq_some_iff,
        htake]
      exact ⟨hne, by rw [Nat.add_assoc]⟩

theorem IsLink.length_pos {link : List Char} (h : IsLink link) : 0 < link.length := by
  obtain ⟨before, behind, rfl, -, -⟩ := h
  rw [List.length_append, List.length_cons]
  omega

theorem ValueAt.bounds {s : List Char} {lo hi after : Nat} (h : ValueAt s lo hi after) :
    0 < lo ∧ lo ≤ hi ∧ hi ≤ after ∧ after ≤ s.length := by
  cases h with
  | quoted hlink hq hvalue =>
    have hpos := hlink.length_pos
    simp only [List.length_append, List.length_cons]
    omega
  | loose hlink hne hvalue hrest hopen =>
    have hpos := hlink.length_pos
    simp only [List.length_append]
    omega

-- A value that ends within the first part of a text is the value there.
theorem ValueAt.of_append {s t : List Char} {lo hi after : Nat} (h : ValueAt (s ++ t) lo hi after)
    (hle : after ≤ s.length) : ValueAt s lo hi after := by
  generalize hw : s ++ t = w at h
  cases h with
  | @quoted link value rest q hlink hq hvalue =>
    have hcut : s ++ t = (link ++ q :: (value ++ [q])) ++ rest := by
      rw [hw]
      simp
    obtain ⟨rest', rfl, -⟩ := exists_rest_of_length_le hcut (by
      simp only [List.length_append, List.length_cons, List.length_nil]
      omega)
    have hs : link ++ q :: (value ++ [q]) ++ rest' = link ++ q :: (value ++ q :: rest') := by simp
    rw [hs]
    exact .quoted hlink hq hvalue
  | @loose link value rest hlink hne hvalue hrest hopen =>
    have hcut : s ++ t = (link ++ value) ++ rest := by rw [hw, List.append_assoc]
    obtain ⟨rest', rfl, rfl⟩ := exists_rest_of_length_le hcut (by rw [List.length_append]; omega)
    rw [List.append_assoc]
    refine .loose hlink hne hvalue ?_ ?_
    · cases rest' with
      | nil => exact stops_nil
      | cons c rest' => exact stops_cons.2 (stops_cons.1 hrest)
    · intro q tail htail hq hmem
      apply hopen q (tail ++ t) _ hq (List.mem_append_left t hmem)
      rw [← List.append_assoc, htail, List.cons_append]

theorem valueRange?_bounds {offset lo hi after : Nat} {s : List Char}
    (h : valueRange? offset s = some ((lo, hi), after)) :
    offset < lo ∧ lo ≤ hi ∧ hi ≤ after ∧ after ≤ offset + s.length := by
  obtain ⟨lo', hi', after', hvalue, rfl, rfl, rfl⟩ := valueRange?_eq_some_iff.1 h
  have hbounds := hvalue.bounds
  omega

-- A value does not vanish when the text goes on.
theorem valueRange?_isSome_append {offset : Nat} {s : List Char} (t : List Char)
    (h : (valueRange? offset s).isSome) : (valueRange? offset (s ++ t)).isSome := by
  obtain ⟨link, body, rfl, hlink, hbody⟩ := exists_link_of_valueRange? h
  cases body with
  | nil =>
    rw [valueRange?_link offset hlink stops_nil] at h
    cases h
  | cons c body =>
    have hblank := stops_cons.1 hbody
    rw [List.append_assoc, List.cons_append,
      valueRange?_link offset hlink (stops_cons.2 hblank)]
    by_cases hloose : isLooseChar c = true
    · have hsome : (looseRange? (offset + link.length) (c :: (body ++ t))).isSome := by
        simp [looseRange?, List.takeWhile_cons_of_pos hloose]
      rw [Option.isSome_or, hsome, Bool.or_true]
    · have hgt : c = '>' := by
        simpa [isLooseChar, hblank] using hloose
      subst hgt
      rw [valueRange?_link offset hlink hbody] at h
      simp [quotedRange?, looseRange?, isQuote, isLooseChar] at h

-- A search for a value that ends within the first part of a text finds the same there.
theorem valueRange?_of_append {offset : Nat} {s t : List Char}
    (h : ∀ range after, valueRange? offset (s ++ t) = some (range, after) →
      after ≤ offset + s.length) :
    valueRange? offset s = valueRange? offset (s ++ t) := by
  cases hwhole : valueRange? offset (s ++ t) with
  | none =>
    by_contra hsome
    have hmore := valueRange?_isSome_append t (Option.isSome_iff_ne_none.2 hsome)
    rw [hwhole] at hmore
    cases hmore
  | some found =>
    obtain ⟨⟨lo, hi⟩, after⟩ := found
    have hle := h _ _ hwhole
    obtain ⟨lo', hi', after', hvalue, rfl, rfl, rfl⟩ := valueRange?_eq_some_iff.1 hwhole
    exact valueRange?_eq_some_iff.2
      ⟨lo', hi', after', hvalue.of_append (by omega), rfl, rfl, rfl⟩

/-! ## Attributes -/

theorem attributeRange_bounds (offset : Nat) (s : List Char) :
    offset + (s.takeWhile isAttrNameChar).length ≤ (attributeRange offset s).after ∧
      (attributeRange offset s).after ≤ offset + s.length := by
  have hname := (List.takeWhile_prefix isAttrNameChar (l := s)).length_le
  simp only [attributeRange]
  cases h : valueRange? (offset + (s.takeWhile isAttrNameChar).length)
      (s.drop (s.takeWhile isAttrNameChar).length) with
  | none =>
    simp only [Option.map_none, Option.getD_none]
    omega
  | some found =>
    obtain ⟨⟨lo, hi⟩, after⟩ := found
    have hbounds := valueRange?_bounds h
    rw [List.length_drop] at hbounds
    simp only [Option.map_some, Option.getD_some]
    omega

-- An attribute that ends within the first part of a text is the same there.
theorem attributeRange_of_append {offset : Nat} {s t : List Char}
    (h : (attributeRange offset (s ++ t)).after ≤ offset + s.length) :
    attributeRange offset s = attributeRange offset (s ++ t) := by
  have hbounds := attributeRange_bounds offset (s ++ t)
  have hname : (s ++ t).takeWhile isAttrNameChar = s.takeWhile isAttrNameChar :=
    takeWhile_of_length_le (by omega)
  have hlength := (List.takeWhile_prefix isAttrNameChar (l := s)).length_le
  have hdrop : (s ++ t).drop (s.takeWhile isAttrNameChar).length =
      s.drop (s.takeWhile isAttrNameChar).length ++ t := List.drop_append_of_le_length hlength
  simp only [attributeRange, hname, hdrop] at h ⊢
  rw [valueRange?_of_append]
  intro range after hsome
  rw [hsome] at h
  rw [List.length_drop]
  simp only [Option.map_some, Option.getD_some] at h
  omega

theorem length_takeWhile_pos {p : Char → Bool} {c : Char} (rest : List Char) (hc : p c = true) :
    0 < ((c :: rest).takeWhile p).length := by
  rw [List.takeWhile_cons_of_pos hc, List.length_cons]
  omega

-- The scan over attributes at an attribute.
theorem attributeRanges_attribute {offset : Nat} {c : Char} {rest : List Char}
    (hgap : (isBlank c || c == '/') = false) (hname : isAttrNameChar c = true) :
    attributeRanges 0 offset (c :: rest) =
      ((attributeRange offset (c :: rest)).entries ++
          (attributeRanges ((attributeRange offset (c :: rest)).after - offset - 1) (offset + 1)
            rest).1,
        (attributeRanges ((attributeRange offset (c :: rest)).after - offset - 1) (offset + 1)
          rest).2) := by
  rw [attributeRanges, hgap, if_neg Bool.false_ne_true, if_pos hname]

-- The scan over attributes does not go back, and stays within the text.
theorem attributeRanges_bounds (skip offset : Nat) (s : List Char) :
    offset + min skip s.length ≤ (attributeRanges skip offset s).2 ∧
      (attributeRanges skip offset s).2 ≤ offset + s.length := by
  induction s generalizing skip offset with
  | nil =>
    cases skip <;> simp [attributeRanges]
  | cons c rest ih =>
    cases skip with
    | succ skip =>
      have hrest := ih skip (offset + 1)
      rw [attributeRanges, List.length_cons]
      omega
    | zero =>
      by_cases hgap : (isBlank c || c == '/') = true
      · have hrest := ih 0 (offset + 1)
        rw [attributeRanges, if_pos hgap, List.length_cons]
        omega
      · rw [Bool.not_eq_true] at hgap
        by_cases hname : isAttrNameChar c = true
        · rw [attributeRanges_attribute hgap hname, List.length_cons]
          have hrest := ih ((attributeRange offset (c :: rest)).after - offset - 1) (offset + 1)
          omega
        · rw [attributeRanges, hgap, if_neg Bool.false_ne_true, if_neg hname, List.length_cons]
          simp only
          omega

-- The scan goes on behind an attribute that it finds.
theorem attributeRange_le_attributeRanges (offset : Nat) {c : Char} (rest : List Char)
    (hgap : (isBlank c || c == '/') = false) (hname : isAttrNameChar c = true) :
    offset < (attributeRange offset (c :: rest)).after ∧
      (attributeRange offset (c :: rest)).after ≤ (attributeRanges 0 offset (c :: rest)).2 := by
  have hfound := attributeRange_bounds offset (c :: rest)
  have hpos := length_takeWhile_pos (p := isAttrNameChar) rest hname
  have hrest := attributeRanges_bounds
    ((attributeRange offset (c :: rest)).after - offset - 1) (offset + 1) rest
  rw [List.length_cons] at hfound
  rw [attributeRanges_attribute hgap hname]
  omega

-- A scan over attributes that ends within the first part of a text is the same there.
theorem attributeRanges_of_append {skip offset : Nat} {s t : List Char}
    (h : (attributeRanges skip offset (s ++ t)).2 ≤ offset + s.length) :
    attributeRanges skip offset s = attributeRanges skip offset (s ++ t) := by
  induction s generalizing skip offset with
  | nil =>
    -- The scan may not move at all, so it stops at the first character.
    rw [List.nil_append, List.length_nil] at *
    cases t with
    | nil => rfl
    | cons c rest =>
      have hbounds := attributeRanges_bounds skip offset (c :: rest)
      rw [List.length_cons] at hbounds
      have hskip : skip = 0 := by omega
      subst hskip
      by_cases hgap : (isBlank c || c == '/') = true
      · have hrest := attributeRanges_bounds 0 (offset + 1) rest
        rw [attributeRanges, if_pos hgap] at h
        omega
      · rw [Bool.not_eq_true] at hgap
        by_cases hname : isAttrNameChar c = true
        · have hfound := attributeRange_le_attributeRanges offset rest hgap hname
          omega
        · rw [attributeRanges, attributeRanges, hgap, if_neg Bool.false_ne_true, if_neg hname]
  | cons c s ih =>
    rw [List.cons_append] at *
    rw [List.length_cons] at h
    cases skip with
    | succ skip =>
      rw [attributeRanges] at h ⊢
      rw [attributeRanges]
      exact ih (by omega)
    | zero =>
      by_cases hgap : (isBlank c || c == '/') = true
      · rw [attributeRanges, if_pos hgap] at h ⊢
        rw [attributeRanges, if_pos hgap]
        exact ih (by omega)
      · rw [Bool.not_eq_true] at hgap
        by_cases hname : isAttrNameChar c = true
        · have hfound := attributeRange_le_attributeRanges offset (s ++ t) hgap hname
          have hsame : attributeRange offset (c :: s) = attributeRange offset (c :: (s ++ t)) :=
            attributeRange_of_append (s := c :: s) (by
              rw [List.cons_append, List.length_cons]
              omega)
          rw [attributeRanges_attribute hgap hname] at h
          rw [attributeRanges_attribute hgap hname, attributeRanges_attribute hgap hname, hsame,
            ih (by omega)]
        · rw [attributeRanges, attributeRanges, hgap, if_neg Bool.false_ne_true, if_neg hname,
            if_neg Bool.false_ne_true, if_neg hname]

-- The first range of each name is kept as attributes are.
theorem firstRanges_eq_firsts (ranges : List (String × Nat × Nat)) :
    firstRanges ranges = Entries.firsts ranges := rfl

/-! ## The end of a start tag -/

theorem takeWhile_ne_run {c : Char} {run : List Char} (rest : List Char) (hrun : c ∉ run) :
    (run ++ c :: rest).takeWhile (· != c) = run := by
  apply takeWhile_run
  · intro a ha
    simp only [bne_iff_ne, ne_eq]
    rintro rfl
    exact hrun ha
  · rw [stops_cons]
    simp

-- A start tag ends behind the next greater-than sign.
theorem startTagEnd_of_run {source run rest : List Char} {offset : Nat}
    (hdrop : source.drop offset = run ++ '>' :: rest) (hrun : '>' ∉ run) :
    startTagEnd source offset = offset + run.length + 1 := by
  have hmem : (run ++ '>' :: rest).contains '>' = true := by simp
  rw [startTagEnd, hdrop, takeWhile_ne_run rest hrun, if_pos hmem]

theorem startTagEnd_of_not_mem {source : List Char} {offset : Nat} (h : '>' ∉ source.drop offset) :
    startTagEnd source offset = offset + (source.drop offset).length := by
  have hrun : (source.drop offset).takeWhile (· != '>') = source.drop offset := by
    rw [List.takeWhile_eq_self_iff]
    intro a ha
    simp only [bne_iff_ne, ne_eq]
    rintro rfl
    exact h ha
  have hmem : (source.drop offset).contains '>' = false := by simpa using h
  rw [startTagEnd, hrun, hmem]
  rfl

theorem startTagEnd_bounds {source : List Char} {offset : Nat} (h : offset ≤ source.length) :
    offset ≤ startTagEnd source offset ∧ startTagEnd source offset ≤ source.length := by
  by_cases hgt : '>' ∈ source.drop offset
  · obtain ⟨run, rest, hdrop, hrun⟩ := List.eq_append_cons_of_mem hgt
    have hlength := congrArg List.length hdrop
    rw [startTagEnd_of_run hdrop hrun]
    simp only [List.length_drop, List.length_append, List.length_cons] at hlength
    omega
  · rw [startTagEnd_of_not_mem hgt, List.length_drop]
    omega

-- A start tag ends with a greater-than sign, or with the text.
theorem getElem?_startTagEnd {source : List Char} {offset : Nat} (h : offset ≤ source.length) :
    startTagEnd source offset = source.length ∨
      0 < startTagEnd source offset ∧ source[startTagEnd source offset - 1]? = some '>' := by
  by_cases hgt : '>' ∈ source.drop offset
  · obtain ⟨run, rest, hdrop, hrun⟩ := List.eq_append_cons_of_mem hgt
    have hget : (source.drop offset)[run.length]? = some '>' := by rw [hdrop]; simp
    rw [List.getElem?_drop] at hget
    rw [startTagEnd_of_run hdrop hrun]
    exact .inr ⟨by omega, hget⟩
  · rw [startTagEnd_of_not_mem hgt, List.length_drop]
    exact .inl (by omega)

-- A start tag that ends within the first part of a text ends there in that part, too.
theorem startTagEnd_of_append {s t : List Char} {offset : Nat} (hoffset : offset ≤ s.length)
    (h : startTagEnd (s ++ t) offset ≤ s.length) :
    startTagEnd s offset = startTagEnd (s ++ t) offset := by
  have hdrop : (s ++ t).drop offset = s.drop offset ++ t := List.drop_append_of_le_length hoffset
  by_cases hgt : '>' ∈ (s ++ t).drop offset
  · obtain ⟨run, rest, hrun, hnot⟩ := List.eq_append_cons_of_mem hgt
    rw [startTagEnd_of_run hrun hnot] at h ⊢
    have hcut : s.drop offset ++ t = (run ++ ['>']) ++ rest := by rw [← hdrop, hrun]; simp
    obtain ⟨rest', hs, -⟩ := exists_rest_of_length_le hcut (by
      simp only [List.length_append, List.length_cons, List.length_nil, List.length_drop]
      omega)
    have hpart : s.drop offset = run ++ '>' :: rest' := by rw [hs]; simp
    exact startTagEnd_of_run hpart hnot
  · have hend := startTagEnd_of_not_mem hgt
    rw [hdrop, List.length_append, List.length_drop] at hend
    have ht : t = [] := List.eq_nil_of_length_eq_zero (by omega)
    rw [ht, List.append_nil]

/-! ## The end of an element in which nothing is nested -/

-- An end tag: its name, any white space and a greater-than sign.
theorem flatTag?_eq_some_iff {name s rest : List Char} :
    flatTag? name s = some rest ↔
      ∃ found blanks, s = '<' :: '/' :: (found ++ (blanks ++ '>' :: rest)) ∧
        SameWord name found ∧
        ∀ c ∈ blanks, isBlank c = true := by
  have hgt : isBlank '>' = false := by decide
  simp only [flatTag?, Option.bind_eq_bind, Option.bind_eq_some_iff, after?_eq_some_iff,
    dropWord_eq_some_iff]
  constructor
  · rintro ⟨body, rfl, behind, ⟨found, rfl, hfound⟩, htrim⟩
    obtain ⟨blanks, hbehind, hblanks, -⟩ := exists_blanks behind
    rw [htrim] at hbehind
    exact ⟨found, blanks, by rw [hbehind]; rfl, hfound, hblanks⟩
  · rintro ⟨found, blanks, rfl, hfound, hblanks⟩
    exact ⟨_, rfl, _, ⟨found, rfl, hfound⟩, trimStart_run hblanks (stops_cons.2 hgt)⟩

theorem flatTag?_append {name s rest : List Char} (h : flatTag? name s = some rest)
    (t : List Char) : flatTag? name (s ++ t) = some (rest ++ t) := by
  obtain ⟨found, blanks, rfl, hfound, hblanks⟩ := flatTag?_eq_some_iff.1 h
  exact flatTag?_eq_some_iff.2 ⟨found, blanks, by simp, hfound, hblanks⟩

theorem flatTag?_of_append {name s t rest : List Char} (h : flatTag? name (s ++ t) = some rest)
    (hle : t.length ≤ rest.length) : ∃ rest', flatTag? name s = some rest' ∧ rest = rest' ++ t := by
  obtain ⟨found, blanks, hs, hfound, hblanks⟩ := flatTag?_eq_some_iff.1 h
  have hcut : s ++ t = ('<' :: '/' :: (found ++ (blanks ++ ['>']))) ++ rest := by rw [hs]; simp
  have hlength := congrArg List.length hcut
  rw [List.length_append, List.length_append] at hlength
  obtain ⟨rest', rfl, hrest⟩ := exists_rest_of_length_le hcut (by omega)
  exact ⟨rest', flatTag?_eq_some_iff.2 ⟨found, blanks, by simp, hfound, hblanks⟩, hrest⟩

theorem length_flatTag? {name s rest : List Char} (h : flatTag? name s = some rest) :
    rest.length < s.length := by
  obtain ⟨found, blanks, rfl, -, -⟩ := flatTag?_eq_some_iff.1 h
  simp only [List.length_cons, List.length_append]
  omega

theorem flatEnd?_bounds {name s : List Char} {offset stop : Nat}
    (h : flatEnd? name offset s = some stop) : offset < stop ∧ stop ≤ offset + s.length := by
  induction s generalizing offset with
  | nil => cases h
  | cons c s ih =>
    rw [flatEnd?] at h
    split at h
    · rename_i rest hrest
      have hlt := length_flatTag? hrest
      rw [Option.some.injEq] at h
      omega
    · have hrest := ih h
      rw [List.length_cons]
      omega

-- The search for an end tag ends behind a greater-than sign.
theorem getElem?_flatEnd? {name s : List Char} {offset stop : Nat}
    (h : flatEnd? name offset s = some stop) : s[stop - 1 - offset]? = some '>' := by
  induction s generalizing offset with
  | nil => cases h
  | cons c s ih =>
    rw [flatEnd?] at h
    split at h
    · rename_i rest hrest
      obtain ⟨found, blanks, hs, -, -⟩ := flatTag?_eq_some_iff.1 hrest
      have hcut : c :: s = ('<' :: '/' :: (found ++ blanks)) ++ '>' :: rest := by rw [hs]; simp
      have hlength := congrArg List.length hcut
      have hindex : stop - 1 - offset = ('<' :: '/' :: (found ++ blanks)).length := by
        simp only [Option.some.injEq, List.length_cons, List.length_append] at h hlength ⊢
        omega
      rw [hindex, hcut]
      simp
    · have hbounds := flatEnd?_bounds h
      have hrest := ih h
      have hindex : stop - 1 - offset = stop - 1 - (offset + 1) + 1 := by omega
      rw [hindex, List.getElem?_cons_succ, hrest]

-- A search for an end tag finds the same in the first part of a text, when it ends there or
-- fails.
theorem flatEnd?_of_append {name s t : List Char} {offset : Nat}
    (h : ∀ stop, flatEnd? name offset (s ++ t) = some stop → stop ≤ offset + s.length) :
    flatEnd? name offset s = flatEnd? name offset (s ++ t) := by
  induction s generalizing offset with
  | nil =>
    cases hwhole : flatEnd? name offset ([] ++ t) with
    | none => rfl
    | some stop =>
      have hbounds := flatEnd?_bounds hwhole
      have hle := h stop hwhole
      rw [List.length_nil] at hle
      omega
  | cons c s ih =>
    rw [List.cons_append, flatEnd?] at h ⊢
    rw [flatEnd?]
    cases hwhole : flatTag? name (c :: (s ++ t)) with
    | some rest =>
      have hlt := length_flatTag? hwhole
      simp only [hwhole] at h ⊢
      have hle := h _ rfl
      simp only [List.length_cons, List.length_append] at hle hlt
      -- The end tag found lies within `c :: s`, hence it is found there as well.
      obtain ⟨rest', hpart, rfl⟩ := flatTag?_of_append (s := c :: s) hwhole (by omega)
      have hlt' := length_flatTag? hpart
      simp only [hpart, List.length_cons, List.length_append] at hlt' ⊢
      rw [Option.some.injEq]
      omega
    | none =>
      -- A tag in the first part would be one in the whole text.
      have hpart : flatTag? name (c :: s) = none := by
        cases hpart : flatTag? name (c :: s) with
        | none => rfl
        | some rest =>
          have hmore := flatTag?_append hpart t
          rw [List.cons_append, hwhole] at hmore
          cases hmore
      simp only [hwhole, hpart] at h ⊢
      apply ih
      intro stop hstop
      have hle := h stop hstop
      rw [List.length_cons] at hle
      omega

/-! ## The end of an element that may be nested -/

theorem tagInside?_eq_some_iff {name s inside : List Char} :
    tagInside? name s = some inside ↔
      ∃ found rest, s = found ++ (inside ++ '>' :: rest) ∧
        SameWord name found ∧ '>' ∉ inside ∧
        ∀ c ∈ inside.head?, (isBlank c || c == '/') = true := by
  simp only [tagInside?, Option.bind_eq_bind, Option.bind_eq_some_iff, dropWord_eq_some_iff,
    Option.ite_none_right_eq_some, Bool.and_eq_true, List.contains_iff_mem]
  constructor
  · rintro ⟨behind, ⟨found, rfl, hfound⟩, next, hnext, ⟨hkind, hgt⟩, htake⟩
    obtain ⟨inside', rest, rfl, hinside⟩ := List.eq_append_cons_of_mem hgt
    rw [takeWhile_ne_run rest hinside, Option.some.injEq] at htake
    subst htake
    refine ⟨found, rest, rfl, hfound, hinside, ?_⟩
    intro c hc
    cases inside' with
    | nil => cases hc
    | cons d tail =>
      have hcd : d = c := Option.some.inj hc
      have hdn : d = next := Option.some.inj hnext
      have hne : next ≠ '>' := by
        rintro rfl
        exact hinside (hdn ▸ List.mem_cons_self)
      rw [← hcd, hdn]
      simpa [hne] using hkind
  · rintro ⟨found, rest, rfl, hfound, hinside, hnext⟩
    refine ⟨_, ⟨found, rfl, hfound⟩, ?_⟩
    cases inside with
    | nil => exact ⟨'>', rfl, by simp, rfl⟩
    | cons d tail =>
      have hd := hnext d rfl
      refine ⟨d, rfl, ⟨by simp [hd], by simp⟩, ?_⟩
      rw [takeWhile_ne_run rest hinside]

theorem tagInside?_append {name s inside : List Char} (h : tagInside? name s = some inside)
    (t : List Char) : tagInside? name (s ++ t) = some inside := by
  obtain ⟨found, rest, rfl, hfound, hinside, hnext⟩ := tagInside?_eq_some_iff.1 h
  exact tagInside?_eq_some_iff.2 ⟨found, rest ++ t, by simp, hfound, hinside, hnext⟩

theorem tagInside?_of_append {name s t inside : List Char}
    (h : tagInside? name (s ++ t) = some inside)
    (hle : name.length + inside.length + 1 ≤ s.length) : tagInside? name s = some inside := by
  obtain ⟨found, rest, hs, hfound, hinside, hnext⟩ := tagInside?_eq_some_iff.1 h
  have hcut : s ++ t = (found ++ (inside ++ ['>'])) ++ rest := by rw [hs]; simp
  obtain ⟨rest', rfl, -⟩ := exists_rest_of_length_le hcut (by
    simp only [List.length_append, List.length_cons, List.length_nil, ← hfound.length_eq]
    omega)
  exact tagInside?_eq_some_iff.2 ⟨found, rest', by simp, hfound, hinside, hnext⟩

theorem length_tagInside? {name s inside : List Char} (h : tagInside? name s = some inside) :
    name.length + inside.length + 1 ≤ s.length ∧
      s[name.length + inside.length]? = some '>' := by
  obtain ⟨found, rest, rfl, hfound, -, -⟩ := tagInside?_eq_some_iff.1 h
  constructor
  · simp only [List.length_append, List.length_cons, hfound.length_eq]
    omega
  · rw [hfound.length_eq, ← List.append_assoc, ← List.length_append]
    simp

-- A tag is an end tag or a start tag.
theorem nestedTag?_cases {name s : List Char} {nesting : Nesting} {length : Nat}
    (h : nestedTag? name s = some (nesting, length)) :
    (∃ rest inside, s = '<' :: '/' :: rest ∧ tagInside? name rest = some inside ∧
      nesting = .closes ∧ length = name.length + inside.length + 3) ∨
    (∃ rest inside, s = '<' :: rest ∧ rest.head? ≠ some '/' ∧ tagInside? name rest = some inside ∧
      nesting = (if inside.getLast? == some '/' then .keeps else .opens) ∧
      length = name.length + inside.length + 2) := by
  unfold nestedTag? at h
  split at h
  · rename_i rest
    obtain ⟨inside, hinside, hfound⟩ := Option.map_eq_some_iff.1 h
    simp only [Prod.mk.injEq] at hfound
    exact .inl ⟨rest, inside, rfl, hinside, hfound.1.symm, hfound.2.symm⟩
  · rename_i rest hslash
    obtain ⟨inside, hinside, hfound⟩ := Option.map_eq_some_iff.1 h
    simp only [Prod.mk.injEq] at hfound
    refine .inr ⟨rest, inside, rfl, ?_, hinside, hfound.1.symm, hfound.2.symm⟩
    intro hhead
    cases rest with
    | nil => cases hhead
    | cons c tail => exact hslash tail (by rw [Option.some.inj hhead])
  · cases h

theorem nestedTag?_endTag {name rest inside : List Char} (h : tagInside? name rest = some inside) :
    nestedTag? name ('<' :: '/' :: rest) = some (.closes, name.length + inside.length + 3) := by
  rw [nestedTag?, h]
  rfl

theorem nestedTag?_startTag {name rest inside : List Char} (hslash : rest.head? ≠ some '/')
    (h : tagInside? name rest = some inside) :
    nestedTag? name ('<' :: rest) =
      some (if inside.getLast? == some '/' then .keeps else .opens,
        name.length + inside.length + 2) := by
  unfold nestedTag?
  split
  · rename_i tail heq
    obtain ⟨-, rfl⟩ := List.cons.inj heq
    exact absurd rfl hslash
  · rename_i rest' _ heq
    obtain ⟨-, rfl⟩ := List.cons.inj heq
    rw [h]
    rfl
  · rename_i hnot
    exact absurd rfl (hnot rest)

theorem nestedTag?_bounds {name s : List Char} {nesting : Nesting} {length : Nat}
    (h : nestedTag? name s = some (nesting, length)) :
    0 < length ∧ length ≤ s.length ∧ s[length - 1]? = some '>' := by
  rcases nestedTag?_cases h with ⟨rest, inside, rfl, hinside, -, rfl⟩ |
    ⟨rest, inside, rfl, -, hinside, -, rfl⟩
  · obtain ⟨hlength, hget⟩ := length_tagInside? hinside
    refine ⟨by omega, by simp only [List.length_cons]; omega, ?_⟩
    show ('<' :: '/' :: rest)[name.length + inside.length + 1 + 1]? = some '>'
    rw [List.getElem?_cons_succ, List.getElem?_cons_succ, hget]
  · obtain ⟨hlength, hget⟩ := length_tagInside? hinside
    refine ⟨by omega, by simp only [List.length_cons]; omega, ?_⟩
    show ('<' :: rest)[name.length + inside.length + 1]? = some '>'
    rw [List.getElem?_cons_succ, hget]

theorem nestedTag?_append {name s : List Char} {nesting : Nesting} {length : Nat}
    (h : nestedTag? name s = some (nesting, length)) (t : List Char) :
    nestedTag? name (s ++ t) = some (nesting, length) := by
  rcases nestedTag?_cases h with ⟨rest, inside, rfl, hinside, rfl, rfl⟩ |
    ⟨rest, inside, rfl, hslash, hinside, rfl, rfl⟩
  · exact nestedTag?_endTag (tagInside?_append hinside t)
  · refine nestedTag?_startTag ?_ (tagInside?_append hinside t)
    cases rest with
    | nil =>
      have hlength := (length_tagInside? hinside).1
      simp at hlength
    | cons c rest => exact hslash

theorem nestedTag?_of_append {name s t : List Char} {nesting : Nesting} {length : Nat}
    (h : nestedTag? name (s ++ t) = some (nesting, length)) (hle : length ≤ s.length) :
    nestedTag? name s = some (nesting, length) := by
  rcases nestedTag?_cases h with ⟨rest, inside, hs, hinside, rfl, rfl⟩ |
    ⟨rest, inside, hs, hslash, hinside, rfl, rfl⟩
  · obtain ⟨rest', rfl, rfl⟩ := exists_rest_of_length_le (a := ['<', '/']) (b := rest) hs
      (by simp; omega)
    have hroom : name.length + inside.length + 3 ≤ 2 + rest'.length := by
      rwa [List.length_append] at hle
    have hpart := tagInside?_of_append hinside (by omega)
    exact nestedTag?_endTag hpart
  · obtain ⟨rest', rfl, rfl⟩ := exists_rest_of_length_le (a := ['<']) (b := rest) hs
      (by simp; omega)
    have hroom : name.length + inside.length + 2 ≤ 1 + rest'.length := by
      rwa [List.length_append] at hle
    have hpart := tagInside?_of_append hinside (by omega)
    refine nestedTag?_startTag ?_ hpart
    intro hhead
    apply hslash
    cases rest' with
    | nil => cases hhead
    | cons c rest' => exact hhead

theorem nestedEnd?_other {name rest : List Char} {c : Char} (depth offset : Nat)
    (h : nestedTag? name (c :: rest) = none) :
    nestedEnd? name 0 depth offset (c :: rest) = nestedEnd? name 0 depth (offset + 1) rest := by
  rw [nestedEnd?, h]

theorem nestedEnd?_last {name rest : List Char} {c : Char} {depth length : Nat} {nesting : Nesting}
    (offset : Nat) (h : nestedTag? name (c :: rest) = some (nesting, length))
    (hdepth : nesting.depthAfter depth = none) :
    nestedEnd? name 0 depth offset (c :: rest) = some (offset + length) := by
  rw [nestedEnd?, h]
  simp only [hdepth]

theorem nestedEnd?_tag {name rest : List Char} {c : Char} {depth depth' length : Nat}
    {nesting : Nesting} (offset : Nat) (h : nestedTag? name (c :: rest) = some (nesting, length))
    (hdepth : nesting.depthAfter depth = some depth') :
    nestedEnd? name 0 depth offset (c :: rest) =
      nestedEnd? name (length - 1) depth' (offset + 1) rest := by
  rw [nestedEnd?, h]
  simp only [hdepth]

-- The search ends behind a greater-than sign of the text.
theorem nestedEnd?_bounds {name s : List Char} {skip depth offset stop : Nat}
    (h : nestedEnd? name skip depth offset s = some stop) :
    offset + skip < stop ∧ stop ≤ offset + s.length ∧ s[stop - 1 - offset]? = some '>' := by
  induction s generalizing skip depth offset with
  | nil => cases skip <;> cases h
  | cons c s ih =>
    -- Every branch but the last tag goes on behind `c`: the bounds there, one place further.
    have hshift : ∀ {skip depth : Nat}, nestedEnd? name skip depth (offset + 1) s = some stop →
        offset + 1 + skip < stop ∧ stop ≤ offset + (c :: s).length ∧
          (c :: s)[stop - 1 - offset]? = some '>' := by
      intro skip depth hrest
      obtain ⟨hlow, hhigh, hget⟩ := ih hrest
      have hindex : stop - 1 - offset = stop - 1 - (offset + 1) + 1 := by omega
      rw [List.length_cons, hindex, List.getElem?_cons_succ]
      exact ⟨hlow, by omega, hget⟩
    cases skip with
    | succ skip =>
      rw [nestedEnd?] at h
      obtain ⟨hlow, hrest⟩ := hshift h
      exact ⟨by omega, hrest⟩
    | zero =>
      cases htag : nestedTag? name (c :: s) with
      | none =>
        rw [nestedEnd?_other depth offset htag] at h
        obtain ⟨hlow, hrest⟩ := hshift h
        exact ⟨by omega, hrest⟩
      | some found =>
        obtain ⟨nesting, length⟩ := found
        cases hdepth : nesting.depthAfter depth with
        | none =>
          rw [nestedEnd?_last offset htag hdepth, Option.some.injEq] at h
          obtain ⟨hpos, hlength, hget⟩ := nestedTag?_bounds htag
          have hindex : stop - 1 - offset = length - 1 := by omega
          rw [hindex]
          exact ⟨by omega, by omega, hget⟩
        | some depth' =>
          rw [nestedEnd?_tag offset htag hdepth] at h
          obtain ⟨hlow, hrest⟩ := hshift h
          exact ⟨by omega, hrest⟩

-- The search ends only behind a greater-than sign.
theorem nestedEnd?_eq_none {name s : List Char} (skip depth offset : Nat) (h : '>' ∉ s) :
    nestedEnd? name skip depth offset s = none := by
  cases hfound : nestedEnd? name skip depth offset s with
  | none => rfl
  | some stop =>
    have hget := (nestedEnd?_bounds hfound).2.2
    exact absurd (List.mem_of_getElem? hget) h

-- A tag that is not complete in the first part of a text has no greater-than sign there, when
-- its name has none.
theorem not_mem_of_nestedTag?_beyond {name s t : List Char} {nesting : Nesting} {length : Nat}
    (hname : ∀ a ∈ name, sameLetter a '>' = false)
    (h : nestedTag? name (s ++ t) = some (nesting, length)) (hlt : s.length < length) :
    '>' ∉ s := by
  have hfound : ∀ {found : List Char}, SameWord name found → '>' ∉ found := by
    intro found hsame hmem
    obtain ⟨a, ha, hletter⟩ := hsame.exists_of_mem hmem
    rw [hname a ha] at hletter
    cases hletter
  have hpart : ∀ whole rest : List Char, s ++ t = whole ++ '>' :: rest → '>' ∉ whole →
      s.length ≤ whole.length → '>' ∉ s := by
    intro whole rest hs hnot hle hmem
    obtain ⟨rest', rfl, -⟩ := exists_rest_of_length_le hs.symm hle
    exact hnot (List.mem_append_left _ hmem)
  rcases nestedTag?_cases h with ⟨rest, inside, hs, hinside, -, rfl⟩ |
    ⟨rest, inside, hs, -, hinside, -, rfl⟩
  · obtain ⟨found, rest', rfl, hsame, hgt, -⟩ := tagInside?_eq_some_iff.1 hinside
    apply hpart ('<' :: '/' :: (found ++ inside)) rest'
    · rw [hs]; simp
    · simpa using ⟨hfound hsame, hgt⟩
    · simp only [List.length_cons, List.length_append, ← hsame.length_eq]
      omega
  · obtain ⟨found, rest', rfl, hsame, hgt, -⟩ := tagInside?_eq_some_iff.1 hinside
    apply hpart ('<' :: (found ++ inside)) rest'
    · rw [hs]; simp
    · simpa using ⟨hfound hsame, hgt⟩
    · simp only [List.length_cons, List.length_append, ← hsame.length_eq]
      omega

-- The search for the end of an element finds the same in the first part of a text, when it ends
-- there or fails.
theorem nestedEnd?_of_append {name s t : List Char} {skip depth offset : Nat}
    (hname : ∀ a ∈ name, sameLetter a '>' = false)
    (h : ∀ stop, nestedEnd? name skip depth offset (s ++ t) = some stop →
      stop ≤ offset + s.length) :
    nestedEnd? name skip depth offset s = nestedEnd? name skip depth offset (s ++ t) := by
  induction s generalizing skip depth offset with
  | nil =>
    cases hwhole : nestedEnd? name skip depth offset ([] ++ t) with
    | none => cases skip <;> rfl
    | some stop =>
      have hbounds := nestedEnd?_bounds hwhole
      have hle := h stop hwhole
      rw [List.length_nil] at hle
      omega
  | cons c s ih =>
    -- The search behind `c`, whatever is to be skipped and however deep it stands.
    have hrest : ∀ {skip depth : Nat},
        (∀ stop, nestedEnd? name skip depth (offset + 1) (s ++ t) = some stop →
          stop ≤ offset + (c :: s).length) →
        nestedEnd? name skip depth (offset + 1) s =
          nestedEnd? name skip depth (offset + 1) (s ++ t) := by
      intro skip depth hstop
      apply ih
      intro stop hfound
      have hle := hstop stop hfound
      rw [List.length_cons] at hle
      omega
    cases skip with
    | succ skip =>
      rw [List.cons_append, nestedEnd?] at h ⊢
      rw [nestedEnd?]
      exact hrest h
    | zero =>
      cases hwhole : nestedTag? name (c :: (s ++ t)) with
      | none =>
        have hpart : nestedTag? name (c :: s) = none := by
          cases hpart : nestedTag? name (c :: s) with
          | none => rfl
          | some found =>
            have hmore := nestedTag?_append hpart t
            rw [List.cons_append, hwhole] at hmore
            cases hmore
        rw [List.cons_append, nestedEnd?_other depth offset hwhole] at h ⊢
        rw [nestedEnd?_other depth offset hpart]
        exact hrest h
      | some found =>
        obtain ⟨nesting, length⟩ := found
        by_cases hle : length ≤ (c :: s).length
        · have hpart := nestedTag?_of_append (s := c :: s) hwhole hle
          rw [List.cons_append] at h ⊢
          cases hdepth : nesting.depthAfter depth with
          | none => rw [nestedEnd?_last offset hwhole hdepth, nestedEnd?_last offset hpart hdepth]
          | some depth' =>
            rw [nestedEnd?_tag offset hwhole hdepth] at h ⊢
            rw [nestedEnd?_tag offset hpart hdepth]
            exact hrest h
        · -- The tag runs on beyond `s`, so `s` has no tag at all and the search may not end.
          have hgt : '>' ∉ c :: s :=
            not_mem_of_nestedTag?_beyond (s := c :: s) hname hwhole (by omega)
          rw [nestedEnd?_eq_none 0 depth offset hgt]
          cases hend : nestedEnd? name 0 depth offset (c :: s ++ t) with
          | none => rfl
          | some stop =>
            have hstop := h stop hend
            rw [List.cons_append] at hend
            cases hdepth : nesting.depthAfter depth with
            | none =>
              rw [nestedEnd?_last offset hwhole hdepth, Option.some.injEq] at hend
              omega
            | some depth' =>
              rw [nestedEnd?_tag offset hwhole hdepth] at hend
              have hbounds := nestedEnd?_bounds hend
              omega

/-! ## Whole elements -/

-- An element ends with its start tag, or behind a greater-than sign that comes later.
theorem elementEnd_cases (source : List Char) (name : String) (tagEnd : Nat) :
    elementEnd source name tagEnd = tagEnd ∨
      tagEnd < elementEnd source name tagEnd ∧
        elementEnd source name tagEnd ≤ tagEnd + (source.drop tagEnd).length ∧
        source[elementEnd source name tagEnd - 1]? = some '>' := by
  have hbehind : ∀ stop, tagEnd < stop → (source.drop tagEnd)[stop - 1 - tagEnd]? = some '>' →
      source[stop - 1]? = some '>' := by
    intro stop hlt hget
    rw [List.getElem?_drop] at hget
    have hindex : tagEnd + (stop - 1 - tagEnd) = stop - 1 := by omega
    rwa [hindex] at hget
  unfold elementEnd
  split
  · exact .inl rfl
  · split
    · cases hend : flatEnd? name.toList tagEnd (source.drop tagEnd) with
      | none => exact .inl rfl
      | some stop =>
        have hbounds := flatEnd?_bounds hend
        exact .inr ⟨hbounds.1, hbounds.2, hbehind stop hbounds.1 (getElem?_flatEnd? hend)⟩
    · cases hend : nestedEnd? name.toList 0 1 tagEnd (source.drop tagEnd) with
      | none => exact .inl rfl
      | some stop =>
        obtain ⟨hlow, hhigh, hget⟩ := nestedEnd?_bounds hend
        exact .inr ⟨hlow, hhigh, hbehind stop hlow hget⟩

-- An element that ends within the first part of a text ends there in that part, too.
theorem elementEnd_of_append {s t : List Char} {name : String} {tagEnd : Nat}
    (hname : ∀ a ∈ name.toList, sameLetter a '>' = false) (htag : tagEnd ≤ s.length)
    (h : elementEnd (s ++ t) name tagEnd ≤ s.length) :
    elementEnd s name tagEnd = elementEnd (s ++ t) name tagEnd := by
  -- What the start tag closes with is the same in both texts.
  have hslice : slice (tagEnd - 2) tagEnd (s ++ t) = slice (tagEnd - 2) tagEnd s := by
    rw [slice, slice, List.take_append_of_le_length htag]
  have hdrop : (s ++ t).drop tagEnd = s.drop tagEnd ++ t := List.drop_append_of_le_length htag
  have hroom : tagEnd + (s.drop tagEnd).length = s.length := by
    rw [List.length_drop]
    omega
  unfold elementEnd at h ⊢
  rw [hslice, hdrop] at h ⊢
  split
  · rfl
  · rename_i hclosed
    rw [if_neg hclosed] at h
    split
    · rename_i hflat
      rw [if_pos hflat] at h
      rw [flatEnd?_of_append]
      intro stop hstop
      rw [hstop, Option.getD_some] at h
      omega
    · rename_i hflat
      rw [if_neg hflat] at h
      rw [nestedEnd?_of_append hname]
      intro stop hstop
      rw [hstop, Option.getD_some] at h
      omega

/-- The name at the start of a tag and what follows it. -/
structure OpensTag (source : List Char) (name : String) (start : Nat) (run rest : List Char) :
    Prop where
  text : source.drop start = '<' :: (run ++ rest)
  ne_nil : run ≠ []
  name_chars : ∀ c ∈ run, isOpenNameChar c = true
  stops : Stops isOpenNameChar rest
  name_eq : String.ofList (lower run) = lowered name

/-- The end of the element whose start tag has a name of so many characters. -/
def extentEnd (source : List Char) (name : String) (behind : Nat) (rest : List Char) : Nat :=
  elementEnd source (lowered name) (startTagEnd source (attributeRanges 0 behind rest).2)

/-- An element is located exactly where its start tag stands. -/
theorem locate?_eq_some_iff {source : List Char} {name : String} {start : Nat}
    {found : Span × List (String × Span)} :
    locate? source name start = some found ↔
      ∃ run rest, OpensTag source name start run rest ∧
        found = (spanOf source start (extentEnd source name (start + 1 + run.length) rest),
          (firstRanges (attributeRanges 0 (start + 1 + run.length) rest).1).map
            fun (attr, lo, hi) => (attr, spanOf source lo hi)) := by
  -- The attributes are read from the text behind the name.
  have hbehind : ∀ {run rest : List Char}, source.drop start = '<' :: (run ++ rest) →
      source.drop (start + 1 + run.length) = rest := by
    intro run rest htext
    rw [Nat.add_assoc, ← List.drop_drop, htext, Nat.add_comm 1 run.length, List.drop_succ_cons,
      List.drop_left]
  simp only [locate?, Option.bind_eq_bind, Option.bind_eq_some_iff, after?_eq_some_iff]
  constructor
  · rintro ⟨body, htext, hfound⟩
    obtain ⟨run, rest, rfl, hrun, hrest, htake, -⟩ := exists_run isOpenNameChar body
    rw [htake] at hfound
    split at hfound
    · cases hfound
    · rename_i hname
      simp only [Bool.or_eq_true, List.isEmpty_iff, bne_iff_ne, ne_eq, not_or, not_not] at hname
      have htail : source.drop (start + 1 + run.length) = rest := hbehind htext
      simp only [htail, Option.some.injEq] at hfound
      exact ⟨run, rest, ⟨htext, hname.1, hrun, hrest, hname.2⟩, hfound.symm⟩
  · rintro ⟨run, rest, ⟨htext, hne, hrun, hrest, hname⟩, rfl⟩
    refine ⟨run ++ rest, htext, ?_⟩
    have htake : (run ++ rest).takeWhile isOpenNameChar = run := takeWhile_run hrun hrest
    have hopen : ¬ (run.isEmpty || String.ofList (lower run) != lowered name) = true := by
      simp [hne, hname]
    rw [htake, if_neg hopen]
    simp only [hbehind htext]
    rfl

theorem OpensTag.length_eq {source : List Char} {name : String} {start : Nat}
    {run rest : List Char} (h : OpensTag source name start run rest) :
    source.length = start + 1 + run.length + rest.length := by
  have hlength := congrArg List.length h.text
  simp only [List.length_drop, List.length_cons, List.length_append] at hlength
  omega

-- The name of a located element has no greater-than sign.
theorem OpensTag.sameLetter_gt {source : List Char} {name : String} {start : Nat}
    {run rest : List Char} (h : OpensTag source name start run rest) :
    ∀ a ∈ (lowered name).toList, sameLetter a '>' = false := by
  rw [← h.name_eq, String.toList_ofList]
  apply sameLetter_gt_of_lower
  intro hmem
  have hgt := h.name_chars '>' hmem
  revert hgt
  decide

-- The start tag of a located element ends within the text.
theorem OpensTag.startTagEnd_bounds {source : List Char} {name : String} {start : Nat}
    {run rest : List Char} (h : OpensTag source name start run rest) :
    start + 1 + run.length ≤ (attributeRanges 0 (start + 1 + run.length) rest).2 ∧
      (attributeRanges 0 (start + 1 + run.length) rest).2 ≤
        startTagEnd source (attributeRanges 0 (start + 1 + run.length) rest).2 ∧
      startTagEnd source (attributeRanges 0 (start + 1 + run.length) rest).2 ≤
        source.length := by
  have hlength := h.length_eq
  have hattrs := attributeRanges_bounds 0 (start + 1 + run.length) rest
  have hlast : (attributeRanges 0 (start + 1 + run.length) rest).2 ≤ source.length := by omega
  have htag := Markup.startTagEnd_bounds hlast
  omega

theorem OpensTag.extentEnd_bounds {source : List Char} {name : String} {start : Nat}
    {run rest : List Char} (h : OpensTag source name start run rest) :
    startTagEnd source (attributeRanges 0 (start + 1 + run.length) rest).2 ≤
        extentEnd source name (start + 1 + run.length) rest ∧
      extentEnd source name (start + 1 + run.length) rest ≤ source.length := by
  have htag := h.startTagEnd_bounds
  rcases elementEnd_cases source (lowered name)
    (startTagEnd source (attributeRanges 0 (start + 1 + run.length) rest).2) with hend | hend
  · rw [extentEnd, hend]
    omega
  · rw [List.length_drop] at hend
    rw [extentEnd]
    omega

-- A located element opens with a less-than sign, and ends with a greater-than sign or with the
-- text.
theorem OpensTag.closes {source : List Char} {name : String} {start : Nat}
    {run rest : List Char} (h : OpensTag source name start run rest) :
    extentEnd source name (start + 1 + run.length) rest = source.length ∨
      source[extentEnd source name (start + 1 + run.length) rest - 1]? = some '>' := by
  have htag := h.startTagEnd_bounds
  have hlast : (attributeRanges 0 (start + 1 + run.length) rest).2 ≤ source.length := by omega
  rcases elementEnd_cases source (lowered name)
    (startTagEnd source (attributeRanges 0 (start + 1 + run.length) rest).2) with hend | hend
  · rw [extentEnd, hend]
    rcases getElem?_startTagEnd hlast with hwhole | hgt
    · exact .inl hwhole
    · exact .inr hgt.2
  · exact .inr hend.2.2

/-- An element that ends within the first part of a text is located in that part alone, with the
same span. -/
theorem locate?_of_append {s t : List Char} {name : String} {start : Nat} {run rest : List Char}
    (h : OpensTag (s ++ t) name start run rest)
    (hle : extentEnd (s ++ t) name (start + 1 + run.length) rest ≤ s.length) :
    (locate? s name start).map (·.1) =
      some (spanOf (s ++ t) start (extentEnd (s ++ t) name (start + 1 + run.length) rest)) := by
  have htag := h.startTagEnd_bounds
  have hend := h.extentEnd_bounds
  have hdrop : (s ++ t).drop start = s.drop start ++ t :=
    List.drop_append_of_le_length (by omega)
  -- The start tag stands in `s` with the same name.
  have hcut : s.drop start ++ t = ('<' :: run) ++ rest := by
    rw [← hdrop, h.text]
    rfl
  obtain ⟨rest', hs, rfl⟩ := exists_rest_of_length_le hcut (by
    rw [List.length_drop, List.length_cons]
    omega)
  have hlength := congrArg List.length hs
  simp only [List.length_drop, List.length_append, List.length_cons] at hlength
  have hopens : OpensTag s name start run rest' := by
    refine ⟨hs, h.ne_nil, h.name_chars, ?_, h.name_eq⟩
    cases rest' with
    | nil => exact stops_nil
    | cons c rest' => exact stops_cons.2 (stops_cons.1 h.stops)
  -- Each scan in turn ends within `s`: the attributes, the start tag, the element.
  have hattrs : attributeRanges 0 (start + 1 + run.length) rest' =
      attributeRanges 0 (start + 1 + run.length) (rest' ++ t) :=
    attributeRanges_of_append (by omega)
  have htagEnd : startTagEnd s (attributeRanges 0 (start + 1 + run.length) (rest' ++ t)).2 =
      startTagEnd (s ++ t) (attributeRanges 0 (start + 1 + run.length) (rest' ++ t)).2 :=
    startTagEnd_of_append (by omega) (by omega)
  have hextent : extentEnd s name (start + 1 + run.length) rest' =
      extentEnd (s ++ t) name (start + 1 + run.length) (rest' ++ t) := by
    rw [extentEnd, hattrs, htagEnd]
    exact elementEnd_of_append h.sameLetter_gt (by omega) hle
  have hspan : ∀ stop, spanOf s start stop = spanOf (s ++ t) start stop := by
    intro stop
    rw [spanOf, spanOf, List.take_append_of_le_length (by omega)]
  rw [locate?_eq_some_iff.2 ⟨run, rest', hopens, rfl⟩, Option.map_some, hextent, hspan]

end HeadLint.Markup
