import HeadLint.Proofs.Markup.Extent
import HeadLint.Proofs.Markup.Progress

/-!
Values in a start tag.  A value stands between quotes or for itself; what may stand there in its
place, so that the reader takes it as it is and goes on as before.
-/

namespace HeadLint.Markup

open Text

/-- How a value is enclosed. -/
inductive Enclosure where
  | quoted (q : Char)
  | bare
deriving DecidableEq

namespace Enclosure

/-- A value with what encloses it. -/
def wrap : Enclosure → List Char → List Char
  | .quoted q, value => q :: (value ++ [q])
  | .bare, value => value

/-- What stands on either side of a value. -/
def marks : Enclosure → List Char
  | .quoted q => [q]
  | .bare => []

/-- What is read as it is in front of a rest.  A value without quotes may be empty only where the
tag ends. -/
def Holds : Enclosure → List Char → List Char → Prop
  | .quoted q, value, _ => isQuote q = true ∧ q ∉ value
  | .bare, [], rest => Stops isBareChar (trimStart rest)
  | .bare, c :: value, rest =>
    (∀ d ∈ c :: value, isBareChar d = true) ∧ c ≠ '=' ∧ isQuote c = false ∧ Stops isBareChar rest

end Enclosure

-- A located value stands in an enclosure.
theorem ValueAt.exists_enclosure {s : List Char} {lo hi after : Nat} (h : ValueAt s lo hi after) :
    ∃ link enclosure value rest, s = link ++ (Enclosure.wrap enclosure value ++ rest) ∧
      IsLink link ∧ (∀ q, enclosure = .quoted q → isQuote q = true) ∧
      lo = link.length + enclosure.marks.length ∧ hi = lo + value.length := by
  cases h with
  | @quoted link value rest q hlink hq _ =>
    refine ⟨link, .quoted q, value, rest, by simp [Enclosure.wrap], hlink, ?_, rfl, rfl⟩
    intro q' heq
    rwa [← Enclosure.quoted.inj heq]
  | @loose link value rest hlink _ _ _ _ =>
    refine ⟨link, .bare, value, rest, rfl, hlink, ?_, rfl, rfl⟩
    intro q' heq
    cases heq

theorem isBareChar_blank {c : Char} (h : isBareChar c = true) : isBlank c = false := by
  simp only [isBareChar, Bool.not_eq_true', Bool.or_eq_false_iff] at h
  exact h.1

-- Behind an attribute name the reader takes one equals sign and the white space around it; another
-- equals sign counts too when it follows at once.
theorem signs_of_link {link body : List Char} (hlink : IsLink link) (hbody : Stops isBlank body)
    (hequals : body.head? = some '=' → link.getLast? ≠ some '=') :
    (trimStart (link ++ body)).takeWhile (· == '=') = ['='] ∧
      trimStart ((trimStart (link ++ body)).dropWhile (· == '=')) = body := by
  obtain ⟨before, behind, rfl, hbefore, hbehind⟩ := hlink
  have hsigns : trimStart (before ++ '=' :: behind ++ body) = ['='] ++ (behind ++ body) := by
    rw [List.append_assoc]
    exact trimStart_run hbefore (stops_cons.2 isBlank_equals)
  have hstop : Stops (· == '=') (behind ++ body) := by
    cases behind with
    | nil =>
      intro c hc
      rw [List.nil_append] at hc
      rw [beq_eq_false_iff_ne]
      rintro rfl
      exact hequals hc (by simp)
    | cons c behind =>
      have hc := hbehind c (List.mem_cons_self ..)
      rw [List.cons_append, stops_cons, beq_eq_false_iff_ne]
      rintro rfl
      rw [isBlank_equals] at hc
      cases hc
  rw [hsigns, takeWhile_run (by simp) hstop, dropWhile_run (by simp) hstop,
    trimStart_run hbehind hbody]
  exact ⟨rfl, rfl⟩

theorem readValue_quoted {link value : List Char} {q : Char} (rest : List Char)
    (hlink : IsLink link) (hq : isQuote q = true) (hvalue : q ∉ value) :
    readValue (link ++ q :: (value ++ q :: rest)) = (some value, rest) := by
  have hequals : (q :: (value ++ q :: rest)).head? ≠ some '=' := by
    intro heq
    rw [Option.some.inj heq] at hq
    revert hq
    decide
  obtain ⟨htake, htrim⟩ :=
    signs_of_link hlink (stops_cons.2 (isBlank_of_isQuote hq)) fun heq => absurd heq hequals
  have hcut : cutFirst q (value ++ q :: rest) = (value, some rest) :=
    cutFirst_eq_some_iff.2 ⟨rfl, hvalue⟩
  have hq' : (q == '"' || q == '\x27') = true := hq
  simp only [readValue, htake, htrim, if_pos hq', hcut]

theorem readValue_bare {link body : List Char} (hlink : IsLink link) (hbody : Stops isBlank body)
    (hequals : body.head? = some '=' → link.getLast? ≠ some '=') (hquote : Stops isQuote body) :
    readValue (link ++ body) = (some (body.takeWhile isBareChar), body.dropWhile isBareChar) := by
  obtain ⟨htake, htrim⟩ := signs_of_link hlink hbody hequals
  simp only [readValue, htake, htrim]
  cases body with
  | nil => rfl
  | cons q rest =>
    have hq : ¬ (q == '"' || q == '\x27') = true := by
      have hstop := stops_cons.1 hquote
      rw [isQuote] at hstop
      rw [hstop]
      exact Bool.false_ne_true
    simp only [if_neg hq]

theorem IsLink.append_blanks {link blanks : List Char} (h : IsLink link)
    (hblanks : ∀ c ∈ blanks, isBlank c = true) : IsLink (link ++ blanks) := by
  obtain ⟨before, behind, rfl, hbefore, hbehind⟩ := h
  refine ⟨before, behind ++ blanks, by simp, hbefore, fun c hc => ?_⟩
  rcases List.mem_append.1 hc with hmem | hmem
  · exact hbehind c hmem
  · exact hblanks c hmem

-- White space in front does not matter for the gap behind an attribute.
theorem skipGap_trimStart (s : List Char) : skipGap (trimStart s) = skipGap s := by
  induction s with
  | nil => rfl
  | cons c rest ih =>
    by_cases hc : isBlank c = true
    · have htrim : trimStart (c :: rest) = trimStart rest := List.dropWhile_cons_of_pos hc
      rw [htrim, ih, skipGap, hc, Bool.true_or, if_pos rfl]
    · have htrim : trimStart (c :: rest) = c :: rest := List.dropWhile_cons_of_neg hc
      rw [htrim]

-- A value that its enclosure holds is read as it is, and the reader goes on behind it.
theorem Enclosure.Holds.readValue {enclosure : Enclosure} {link value rest : List Char}
    (h : enclosure.Holds value rest) (hlink : IsLink link) :
    (readValue (link ++ (enclosure.wrap value ++ rest))).1 = some value ∧
      skipGap (readValue (link ++ (enclosure.wrap value ++ rest))).2 = skipGap rest := by
  cases enclosure with
  | quoted q =>
    have htext : (Enclosure.quoted q).wrap value ++ rest = q :: (value ++ q :: rest) := by
      simp [Enclosure.wrap]
    rw [htext, readValue_quoted rest hlink h.1 h.2]
    exact ⟨rfl, rfl⟩
  | bare =>
    cases value with
    | nil =>
      -- With no value, the white space of the rest counts to the link.
      obtain ⟨blanks, hrest, hblanks, hstops⟩ := exists_blanks rest
      have hbare : Stops isBareChar (trimStart rest) := h
      have htext : link ++ (Enclosure.bare.wrap [] ++ rest) =
          (link ++ blanks) ++ trimStart rest := by
        rw [List.append_assoc, ← hrest]
        rfl
      have hequals : (trimStart rest).head? ≠ some '=' := by
        intro heq
        have hfalse := hbare '=' heq
        revert hfalse
        decide
      have hquote : Stops isQuote (trimStart rest) := by
        intro c hc
        by_contra hq
        have hfalse := hbare c hc
        simp only [Bool.not_eq_false, isQuote, Bool.or_eq_true, beq_iff_eq] at hq
        revert hfalse
        rcases hq with rfl | rfl <;> decide
      have htake : (trimStart rest).takeWhile isBareChar = [] :=
        takeWhile_of_stops hbare
      have hdrop : (trimStart rest).dropWhile isBareChar = trimStart rest :=
        dropWhile_of_stops hbare
      rw [htext, readValue_bare (hlink.append_blanks hblanks) hstops
        (fun heq => absurd heq hequals) hquote, htake, hdrop]
      exact ⟨rfl, skipGap_trimStart rest⟩
    | cons c value =>
      obtain ⟨hbare, hequals, hquote, hstops⟩ := h
      have htext : Enclosure.bare.wrap (c :: value) ++ rest = c :: value ++ rest := rfl
      have hblank : Stops isBlank (c :: value ++ rest) :=
        stops_cons.2 (isBareChar_blank (hbare c (List.mem_cons_self ..)))
      have hread := readValue_bare hlink hblank
        (fun heq => absurd (Option.some.inj heq) hequals) (stops_cons.2 hquote)
      rw [htext, hread, takeWhile_run hbare hstops, dropWhile_run hbare hstops]
      exact ⟨rfl, rfl⟩

/-- The name of an attribute as the reader takes it. -/
def IsAttributeName (name : List Char) : Prop :=
  ∃ c cs, name = c :: cs ∧ canStartName c = true ∧ ∀ d ∈ cs, canContinueName d = true

theorem stops_link {link : List Char} (hlink : IsLink link) (rest : List Char) :
    Stops canContinueName (link ++ rest) := by
  obtain ⟨before, behind, rfl, hbefore, -⟩ := hlink
  cases before with
  | nil => exact stops_cons.2 (by decide)
  | cons c before =>
    have hc := hbefore c (List.mem_cons_self ..)
    exact stops_cons.2 (by simp [canContinueName, hc])

theorem readAttribute_of_readValue {name s rest : List Char} {value : Option (List Char)}
    (hname : IsAttributeName name) (hstops : Stops canContinueName s)
    (h : readValue s = (value, rest)) :
    readAttribute (name ++ s) = ((name, value), skipGap rest) := by
  obtain ⟨c, cs, rfl, -, hcs⟩ := hname
  simp only [readAttribute, List.cons_append, List.take_succ_cons, List.take_zero,
    List.drop_succ_cons, List.drop_zero, takeWhile_run hcs hstops, dropWhile_run hcs hstops, h,
    List.nil_append]

theorem Enclosure.Holds.readAttribute {enclosure : Enclosure} {name link value rest : List Char}
    (h : enclosure.Holds value rest) (hname : IsAttributeName name) (hlink : IsLink link) :
    readAttribute (name ++ (link ++ (enclosure.wrap value ++ rest))) =
      ((name, some value), skipGap rest) := by
  obtain ⟨hvalue, hgap⟩ := h.readValue hlink
  have hstops := stops_link hlink (enclosure.wrap value ++ rest)
  rw [readAttribute_of_readValue hname hstops (Prod.eta _).symm, hvalue, hgap]

-- Between quotes the reader takes a value as a whole exactly when the quote is not in it.
theorem readAttribute_quoted_iff {name link : List Char} {q : Char} (value rest : List Char)
    (hname : IsAttributeName name) (hlink : IsLink link) (hq : isQuote q = true) :
    (readAttribute (name ++ (link ++ ((Enclosure.quoted q).wrap value ++ rest)))).1 =
      (name, some value) ↔ q ∉ value := by
  constructor
  · intro hread hmem
    obtain ⟨first, more, rfl, hfirst⟩ := List.eq_append_cons_of_mem hmem
    have htext : (Enclosure.quoted q).wrap (first ++ q :: more) ++ rest =
        (Enclosure.quoted q).wrap first ++ (more ++ q :: rest) := by
      simp [Enclosure.wrap]
    have hholds : (Enclosure.quoted q).Holds first (more ++ q :: rest) := ⟨hq, hfirst⟩
    rw [htext, hholds.readAttribute hname hlink] at hread
    have hvalue := Option.some.inj (Prod.mk.inj hread).2
    rw [← hvalue] at hmem
    exact hfirst hmem
  · intro hnot
    have hholds : (Enclosure.quoted q).Holds value rest := ⟨hq, hnot⟩
    rw [hholds.readAttribute hname hlink]

-- No attribute begins where a tag ends.
theorem readAttributes_of_stops {s : List Char} (previous : Char) (hblank : Stops isBlank s)
    (hbare : Stops isBareChar s) : readAttributes 0 previous s = ([], s) := by
  cases s with
  | nil => rfl
  | cons c rest =>
    have hgt : c = '>' := by
      have hc := stops_cons.1 hbare
      simpa [isBareChar, stops_cons.1 hblank] using hc
    have hstart : canStartName '>' = false := by decide
    subst hgt
    rw [readAttributes, hstart, Bool.and_false, if_neg Bool.false_ne_true]

theorem stops_skipGap (s : List Char) : Stops isBlank (skipGap s) := by
  induction s with
  | nil => exact stops_nil
  | cons c rest ih =>
    rw [skipGap]
    split
    · exact ih
    · rename_i hgap
      rw [Bool.or_eq_true, not_or] at hgap
      exact stops_cons.2 (by simpa using hgap.1)

/-- The mark that stands behind a value, as far as it matters for what follows. -/
def Enclosure.mark : Enclosure → Char
  | .quoted q => q
  | .bare => ' '

-- Whatever value the enclosure holds, the attributes behind it are read alike.
theorem Enclosure.exists_readAttributes (enclosure : Enclosure) {name link : List Char}
    (rest : List Char) (hname : IsAttributeName name) (hlink : IsLink link) :
    ∃ mark, ∀ value previous, enclosure.Holds value rest → canPrecedeName previous = true →
      readAttributes 0 previous (name ++ (link ++ (enclosure.wrap value ++ rest))) =
        ((name, some value) :: (readAttributes 0 mark (skipGap rest)).1,
          (readAttributes 0 mark (skipGap rest)).2) := by
  obtain ⟨gap, hgap, -⟩ := skipGap_suffix rest
  refine ⟨(enclosure.mark :: gap).getLast (List.cons_ne_nil _ _), ?_⟩
  intro value previous h hprevious
  have hread := h.readAttribute hname hlink
  obtain ⟨c, cs, rfl, hc, -⟩ := hname
  have htext : c :: cs ++ (link ++ (enclosure.wrap value ++ rest)) =
      c :: ((cs ++ (link ++ (enclosure.wrap value ++ gap))) ++ skipGap rest) := by
    conv => lhs; rw [hgap]
    simp
  rw [htext] at hread ⊢
  rw [readAttributes_step hprevious hc hread]
  -- The character behind which the reader goes on is the same, or it does not matter.
  have hsame : readAttributes 0 ((c :: (cs ++ (link ++ (enclosure.wrap value ++ gap)))).getLast
      (List.cons_ne_nil _ _)) (skipGap rest) =
        readAttributes 0 ((enclosure.mark :: gap).getLast (List.cons_ne_nil _ _))
          (skipGap rest) := by
    by_cases hnil : gap = []
    · subst hnil
      rw [List.nil_append] at hgap
      cases enclosure with
      | quoted q =>
        congr 1
        simp [Enclosure.wrap, Enclosure.mark]
      | bare =>
        have hblank := stops_skipGap rest
        have hbare : Stops isBareChar (skipGap rest) := by
          rw [← hgap] at hblank ⊢
          cases value with
          | nil =>
            have hstops : Stops isBareChar (trimStart rest) := h
            rwa [trimStart_of_stops hblank] at hstops
          | cons d value => exact h.2.2.2
        rw [readAttributes_of_stops _ hblank hbare, readAttributes_of_stops _ hblank hbare]
    · congr 1
      simp [hnil]
  rw [hsame]

end HeadLint.Markup
