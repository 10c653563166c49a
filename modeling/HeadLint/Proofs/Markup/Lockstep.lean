import HeadLint.Proofs.Markup.ForestExtent
import HeadLint.Proofs.Markup.Slot

/-!
A start tag is scanned twice: the reader takes its attributes, and the locator finds the ranges of
their values.  The two go through the tag in lockstep, attribute by attribute, until an equals sign
stands right behind another one or an opening quote is not closed.
-/

namespace HeadLint.Markup

open Text

/-! ## What the locator passes -/

/-- The attributes that the scan of `attributeRanges` passes, with or without a value; the arguments
are the same. -/
def foundAttributes : Nat → Nat → List Char → List FoundAttribute
  | _, _, [] => []
  | skip + 1, offset, _ :: rest => foundAttributes skip (offset + 1) rest
  | 0, offset, c :: rest =>
    if isBlank c || c == '/' then foundAttributes 0 (offset + 1) rest
    else if isAttrNameChar c then
      let found := attributeRange offset (c :: rest)
      found :: foundAttributes (found.after - offset - 1) (offset + 1) rest
    else []

theorem attributeRanges_eq_flatMap (skip offset : Nat) (s : List Char) :
    (attributeRanges skip offset s).1 =
      (foundAttributes skip offset s).flatMap FoundAttribute.entries := by
  induction s generalizing skip offset with
  | nil => cases skip <;> rfl
  | cons c rest ih =>
    cases skip with
    | succ skip => exact ih skip (offset + 1)
    | zero =>
      simp only [attributeRanges, foundAttributes]
      split
      · exact ih 0 (offset + 1)
      · split
        · rw [List.flatMap_cons, ← ih]
        · rfl

theorem foundAttributes_skip (run rest : List Char) (offset : Nat) :
    foundAttributes run.length offset (run ++ rest) =
      foundAttributes 0 (offset + run.length) rest := by
  induction run generalizing offset with
  | nil => rfl
  | cons c run ih =>
    rw [List.length_cons, List.cons_append, foundAttributes, ih]
    congr 1
    omega

theorem foundAttributes_gap {gap : List Char} (rest : List Char) (offset : Nat)
    (hgap : ∀ c ∈ gap, (isBlank c || c == '/') = true) :
    foundAttributes 0 offset (gap ++ rest) = foundAttributes 0 (offset + gap.length) rest := by
  induction gap generalizing offset with
  | nil => rfl
  | cons c gap ih =>
    rw [List.forall_mem_cons] at hgap
    rw [List.cons_append, foundAttributes, if_pos hgap.1, ih _ hgap.2, List.length_cons]
    congr 1
    omega

-- The characters of a name are no gap.
theorem gap_of_isAttrNameChar {c : Char} (h : isAttrNameChar c = true) :
    (isBlank c || c == '/') = false := by
  simp only [isAttrNameChar, Bool.not_eq_true', Bool.or_eq_false_iff] at h
  simp [h]

theorem foundAttributes_stop {rest : List Char} (offset : Nat)
    (hgap : Stops (fun c => isBlank c || c == '/') rest) (hname : Stops isAttrNameChar rest) :
    foundAttributes 0 offset rest = [] := by
  cases rest with
  | nil => rfl
  | cons c rest =>
    rw [foundAttributes, stops_cons.1 hgap, if_neg Bool.false_ne_true, stops_cons.1 hname,
      if_neg Bool.false_ne_true]

theorem foundAttributes_name {source name rest : List Char} {offset : Nat}
    (htext : source.drop offset = name ++ rest) (hne : name ≠ [])
    (hname : ∀ c ∈ name, isAttrNameChar c = true) :
    foundAttributes 0 offset (source.drop offset) =
      attributeRange offset (source.drop offset) ::
        foundAttributes 0 (attributeRange offset (source.drop offset)).after
          (source.drop (attributeRange offset (source.drop offset)).after) := by
  obtain ⟨c, cs, rfl⟩ := List.exists_cons_of_ne_nil hne
  have hc := hname c (List.mem_cons_self ..)
  have hbounds := attributeRange_bounds offset (source.drop offset)
  have hpos := length_takeWhile_pos (p := isAttrNameChar) (cs ++ rest) hc
  rw [htext, List.cons_append] at hbounds ⊢
  generalize hfound : attributeRange offset (c :: (cs ++ rest)) = found at *
  -- The rest of the attribute is passed over.
  obtain ⟨run, tail, hcut, hrun⟩ : ∃ run tail, cs ++ rest = run ++ tail ∧
      run.length = found.after - offset - 1 := by
    rw [List.length_cons] at hbounds
    exact ⟨_, _, (List.take_append_drop (found.after - offset - 1) _).symm,
      List.length_take_of_le (by omega)⟩
  have hbehind : source.drop found.after = tail := by
    have hdrop : source.drop offset = (c :: run) ++ tail := by
      rw [htext, List.cons_append, hcut, List.cons_append]
    have hafter := drop_add_of_drop hdrop
    have hlength : offset + (c :: run).length = found.after := by
      rw [List.length_cons]
      omega
    rwa [hlength] at hafter
  have hnext : offset + 1 + run.length = found.after := by omega
  rw [foundAttributes, gap_of_isAttrNameChar hc, if_neg Bool.false_ne_true, if_pos hc, hfound,
    hbehind]
  dsimp only
  rw [← hrun, hcut, foundAttributes_skip, hnext]

/-! ## What the reader does there -/

theorem skipGap_run {gap rest : List Char} {c : Char}
    (hgap : ∀ d ∈ gap, (isBlank d || d == '/') = true) (hc : isAttrNameChar c = true) :
    skipGap (gap ++ c :: rest) = c :: rest := by
  induction gap with
  | nil =>
    have hnot : (isBlank c || (c == '/' && rest.head? != some '>')) = false := by
      have hstop := gap_of_isAttrNameChar hc
      rw [Bool.or_eq_false_iff] at hstop ⊢
      exact ⟨hstop.1, by rw [hstop.2, Bool.false_and]⟩
    rw [List.nil_append, skipGap, hnot, if_neg Bool.false_ne_true]
  | cons d gap ih =>
    rw [List.forall_mem_cons] at hgap
    -- A slash counts as space, since no greater-than sign follows it.
    have hnext : ((gap ++ c :: rest).head? != some '>') = true := by
      rw [bne_iff_ne]
      intro heq
      cases gap with
      | nil =>
        obtain rfl := Option.some.inj heq
        revert hc
        decide
      | cons e gap =>
        obtain rfl := Option.some.inj heq
        have hgt := hgap.2 '>' (List.mem_cons_self ..)
        revert hgt
        decide
    rw [List.cons_append, skipGap, hnext, Bool.and_true, if_pos hgap.1, ih hgap.2]

/-- `NameAt source offset found name rest`: behind a gap at the offset, the locator comes to a name
and the text behind it, and so does the reader. -/
structure NameAt (source : List Char) (offset : Nat) (found : FoundAttribute)
    (name rest : List Char) : Prop where
  isName : IsAttributeName name
  stops : Stops isAttrNameChar rest
  reached : skipGap (source.drop offset) = name ++ rest
  located : ∃ start, source.drop start = rest ∧
    found = ⟨String.ofList (lower name), (valueRange? start rest).map (·.1),
      ((valueRange? start rest).map (·.2)).getD start⟩

-- Where an attribute is passed, its name stands behind the gap.
theorem exists_name_of_foundAttributes {source : List Char} {offset : Nat} {found : FoundAttribute}
    {more : List FoundAttribute}
    (h : foundAttributes 0 offset (source.drop offset) = found :: more) :
    ∃ name rest, NameAt source offset found name rest ∧
      foundAttributes 0 found.after (source.drop found.after) = more := by
  obtain ⟨gap, tail, htext, hgap, hstops, -, -⟩ :=
    exists_run (fun c => isBlank c || c == '/') (source.drop offset)
  obtain ⟨name, rest, rfl, hname, hrest, htake, -⟩ := exists_run isAttrNameChar tail
  have hbehind := drop_add_of_drop htext
  rw [htext, foundAttributes_gap _ _ hgap] at h
  by_cases hne : name = []
  · -- No name stands there.
    subst hne
    rw [foundAttributes_stop _ hstops hrest] at h
    cases h
  rw [← hbehind, foundAttributes_name hbehind hne hname, hbehind] at h
  obtain ⟨rfl, hmore⟩ := List.cons.inj h
  refine ⟨name, rest, ⟨isAttributeName_of_run hne hname, hrest, ?_,
    offset + gap.length + name.length, drop_add_of_drop hbehind, ?_⟩, hmore⟩
  · obtain ⟨c, cs, rfl⟩ := List.exists_cons_of_ne_nil hne
    rw [htext]
    exact skipGap_run hgap (hname c (List.mem_cons_self ..))
  · simp only [attributeRange, htake, List.drop_left]

-- Where the reader finds no gap and no name, the locator finds no more.
theorem foundAttributes_of_skipGap {s : List Char} (offset : Nat) (hgap : skipGap s = s)
    (hname : Stops isAttrNameChar s) : foundAttributes 0 offset s = [] := by
  cases s with
  | nil => rfl
  | cons c rest =>
    have hskip : (isBlank c || (c == '/' && rest.head? != some '>')) = false := by
      rw [skipGap] at hgap
      split at hgap
      · obtain ⟨gap, hrest, -⟩ := skipGap_suffix rest
        have hlength := congrArg List.length hrest
        rw [hgap, List.length_append, List.length_cons] at hlength
        omega
      · rename_i hnot
        simpa using hnot
    rw [Bool.or_eq_false_iff, Bool.and_eq_false_iff] at hskip
    rcases hskip.2 with hslash | hend
    · refine foundAttributes_stop _ (stops_cons.2 ?_) hname
      rw [hskip.1, hslash, Bool.or_false]
    · -- A slash in front of the end of the tag.
      rw [foundAttributes, stops_cons.1 hname]
      split
      · refine foundAttributes_stop _ ?_ ?_ <;>
        · intro d hd
          have hgt : rest.head? = some '>' := by simpa using hend
          rw [Option.mem_def.1 hd] at hgt
          obtain rfl := Option.some.inj hgt
          decide
      · rfl

theorem canPrecedeName_of_gap {c : Char} (h : (isBlank c || c == '/') = true) :
    canPrecedeName c = true := by
  rw [Bool.or_eq_true] at h
  rcases h with hblank | hslash
  · simp [canPrecedeName, hblank]
  · simp [canPrecedeName, eq_of_beq hslash]

/-- `ReadsTo s value rest`: behind an attribute name the reader takes the value and goes on with the
rest, where another attribute may begin at once or does not begin at all. -/
structure ReadsTo (s : List Char) (value : Option (List Char)) (rest : List Char) : Prop where
  reads : readValue s = (value, rest)
  goesOn : ∃ used, s = used ++ rest ∧
    ((∃ front c, used = front ++ [c] ∧ canPrecedeName c = true) ∨ Stops isAttrNameChar rest)

-- The reader takes an attribute and comes to the next one.
theorem ReadsTo.exists_readAttributes {name s rest : List Char} {value : Option (List Char)}
    {previous : Char} (h : ReadsTo s value rest) (hname : IsAttributeName name)
    (hstops : Stops canContinueName s) (hprevious : canPrecedeName previous = true) :
    ∃ last, (readAttributes 0 previous (name ++ s)).1 =
        (name, value) :: (readAttributes 0 last (skipGap rest)).1 ∧
      (canPrecedeName last = true ∨ skipGap rest = rest ∧ Stops isAttrNameChar rest) := by
  have hread := readAttribute_of_readValue hname hstops h.reads
  obtain ⟨used, rfl, hlast⟩ := h.goesOn
  obtain ⟨gap, hgap, hchars⟩ := skipGap_suffix rest
  obtain ⟨c, cs, rfl, hc, -⟩ := hname
  have htext : c :: cs ++ (used ++ rest) = c :: ((cs ++ (used ++ gap)) ++ skipGap rest) := by
    conv => lhs; rw [hgap]
    simp
  rw [htext] at hread ⊢
  refine ⟨_, congrArg Prod.fst (readAttributes_step hprevious hc hread), ?_⟩
  by_cases hnil : gap = []
  · subst hnil
    rcases hlast with ⟨front, d, rfl, hd⟩ | hstop
    · exact .inl (by simpa using hd)
    · exact .inr ⟨hgap.symm, hstop⟩
  · -- The last character of the gap.
    have hend := canPrecedeName_of_gap (hchars _ (List.getLast_mem hnil))
    refine .inl ?_
    simpa only [hnil, ne_eq, List.append_eq_nil_iff, and_false, not_false_eq_true,
      List.getLast_cons, List.getLast_append_of_ne_nil] using hend

/-! ## Values -/

/-- A range that starts with an equals sign right behind another one. -/
def Doubled (source : List Char) (lo : Nat) : Prop :=
  source[lo - 1]? = some '=' ∧ source[lo]? = some '='

/-- A range that starts with a quote and stands behind none: the quote is never closed. -/
def Unclosed (source : List Char) (lo : Nat) : Prop :=
  (source[lo]?).any isQuote = true ∧ (source[lo - 1]?).any isQuote = false

instance (source : List Char) (lo : Nat) : Decidable (Doubled source lo) :=
  inferInstanceAs (Decidable (_ ∧ _))

instance (source : List Char) (lo : Nat) : Decidable (Unclosed source lo) :=
  inferInstanceAs (Decidable (_ ∧ _))

-- The characters on either side of the start of a value.
theorem getElem?_link {source link body : List Char} {start : Nat}
    (h : source.drop start = link ++ body) (hlink : IsLink link) :
    source[start + link.length]? = body.head? ∧
      source[start + link.length - 1]? = link.getLast? := by
  have hpos := hlink.length_pos
  constructor
  · rw [← List.head?_drop, drop_add_of_drop h]
  · rw [Nat.add_sub_assoc hpos, ← List.getElem?_drop, h, List.getElem?_append_left (by omega),
      List.getLast?_eq_getElem?]

theorem IsLink.not_isQuote {link : List Char} (h : IsLink link) :
    link.getLast?.any isQuote = false := by
  obtain ⟨before, behind, rfl, -, hbehind⟩ := h
  rcases List.eq_nil_or_concat behind with rfl | ⟨front, c, rfl⟩
  · rw [List.getLast?_concat]
    decide
  · have hc := hbehind c (by simp)
    rw [List.concat_eq_append, ← List.cons_append, ← List.append_assoc, List.getLast?_concat,
      Option.any_some]
    by_contra hquote
    rw [isBlank_of_isQuote (by simpa using hquote)] at hc
    cases hc

-- Without equals sign there is no value.
theorem readValue_none {s : List Char} (h : (trimStart s).head? ≠ some '=') :
    readValue s = (none, s) := by
  have hsigns : (trimStart s).takeWhile (· == '=') = [] := by
    apply takeWhile_of_stops
    intro c hc
    rw [beq_eq_false_iff_ne]
    rintro rfl
    exact h hc
  simp only [readValue, hsigns]

-- A value with a quote that is not closed is empty or missing.
theorem readValue_unclosed {link tail : List Char} {q : Char} (hlink : IsLink link)
    (hq : isQuote q = true) (htail : q ∉ tail) :
    (readValue (link ++ q :: tail)).1 = none ∨ (readValue (link ++ q :: tail)).1 = some [] := by
  have hequals : (q :: tail).head? ≠ some '=' := by
    intro heq
    rw [Option.some.inj heq] at hq
    revert hq
    decide
  obtain ⟨htake, htrim⟩ :=
    signs_of_link hlink (stops_cons.2 (isBlank_of_isQuote hq)) fun heq => absurd heq hequals
  have hcut : ∃ value, cutFirst q tail = (value, none) := by
    cases hcut : cutFirst q tail with
    | mk value after =>
      cases after with
      | none => exact ⟨value, rfl⟩
      | some rest =>
        obtain ⟨rfl, -⟩ := cutFirst_eq_some_iff.1 hcut
        exact absurd (by simp) htail
  obtain ⟨value, hcut⟩ := hcut
  have hq' : (q == '"' || q == '\x27') = true := hq
  simp only [readValue, htake, htrim, if_pos hq', hcut, List.isEmpty_nil, if_true]
  split
  · exact .inr rfl
  · exact .inl rfl

theorem isBareChar_eq_isLooseChar (c : Char) : isBareChar c = isLooseChar c := by
  rw [isBareChar, isLooseChar, Bool.not_or]
  rfl

-- Behind a value without quotes no name begins.
theorem stops_of_isLooseChar {rest : List Char} (h : Stops isLooseChar rest) :
    Stops isAttrNameChar rest := by
  intro c hc
  have hstop := h c hc
  simp only [isLooseChar, Bool.and_eq_false_iff, Bool.not_eq_false', bne_eq_false_iff_eq] at hstop
  rcases hstop with hblank | rfl
  · simp [isAttrNameChar, hblank]
  · decide

-- A quote at the start of a range without quotes is one that is not closed.
theorem unclosed_iff_of_link {source link body : List Char} {start : Nat}
    (htext : source.drop start = link ++ body) (hlink : IsLink link) :
    Unclosed source (start + link.length) ↔ body.head?.any isQuote = true := by
  obtain ⟨hbody, hlast⟩ := getElem?_link htext hlink
  rw [Unclosed, hbody, hlast, hlink.not_isQuote]
  simp

theorem readsTo_quoted {link value : List Char} {q : Char} (rest : List Char) (hlink : IsLink link)
    (hq : isQuote q = true) (hvalue : q ∉ value) :
    ReadsTo (link ++ q :: (value ++ q :: rest)) (some value) rest := by
  refine ⟨readValue_quoted rest hlink hq hvalue, link ++ q :: (value ++ [q]), by simp, .inl ?_⟩
  refine ⟨link ++ q :: value, q, by simp, ?_⟩
  simp only [isQuote, Bool.or_eq_true, beq_iff_eq] at hq
  rcases hq with rfl | rfl <;> decide

theorem readsTo_loose {link value rest : List Char} (hlink : IsLink link) (hne : value ≠ [])
    (hvalue : ∀ c ∈ value, isLooseChar c = true) (hrest : Stops isLooseChar rest)
    (hequals : (value ++ rest).head? = some '=' → link.getLast? ≠ some '=')
    (hquote : Stops isQuote (value ++ rest)) :
    ReadsTo (link ++ (value ++ rest)) (some value) rest := by
  have hbare : ∀ c ∈ value, isBareChar c = true := fun c hc => by
    rw [isBareChar_eq_isLooseChar, hvalue c hc]
  have hstops : Stops isBareChar rest := fun c hc => by
    rw [isBareChar_eq_isLooseChar, hrest c hc]
  have hblank : Stops isBlank (value ++ rest) := by
    obtain ⟨c, cs, rfl⟩ := List.exists_cons_of_ne_nil hne
    exact stops_cons.2 (isBareChar_blank (hbare c (List.mem_cons_self ..)))
  refine ⟨?_, link ++ value, by simp, .inr (stops_of_isLooseChar hrest)⟩
  rw [readValue_bare hlink hblank hequals hquote, takeWhile_run hbare hstops,
    dropWhile_run hbare hstops]

/-- The reader takes the value that the locator finds, unless a slip puts them apart. -/
theorem readsTo_of_valueRange? {source : List Char} {start lo hi after : Nat}
    (h : valueRange? start (source.drop start) = some ((lo, hi), after))
    (hdoubled : ¬ Doubled source lo) (hunclosed : ¬ Unclosed source lo) :
    ReadsTo (source.drop start) (some (slice lo hi source)) (source.drop after) := by
  obtain ⟨lo', hi', after', hvalue, rfl, rfl, rfl⟩ := valueRange?_eq_some_iff.1 h
  generalize htext : source.drop start = s at hvalue ⊢
  cases hvalue with
  | @quoted link value rest q hlink hq hvalue =>
    have hopen : source.drop start = (link ++ [q]) ++ (value ++ q :: rest) := by
      rw [htext]
      simp
    have hclosed : source.drop start = (link ++ q :: (value ++ [q])) ++ rest := by
      rw [htext]
      simp
    have hslice := slice_of_drop (drop_add_of_drop hopen)
    have hrest := drop_add_of_drop hclosed
    simp only [List.length_append, List.length_cons, List.length_nil, Nat.zero_add] at hslice hrest
    have hhi : start + (link.length + 1 + value.length) =
        start + (link.length + 1) + value.length := by omega
    have hafter : start + (link.length + value.length + 2) =
        start + (link.length + (value.length + 1 + 1)) := by omega
    rw [hhi, hslice, hafter, hrest]
    exact readsTo_quoted rest hlink hq hvalue
  | @loose link value rest hlink hne hvalue hrest hopen =>
    obtain ⟨hfirst, hlast⟩ := getElem?_link htext hlink
    have hinside := drop_add_of_drop htext
    rw [← Nat.add_assoc, slice_of_drop hinside, drop_add_of_drop hinside]
    refine readsTo_loose hlink hne hvalue hrest ?_ ?_
    · intro hsign hlink'
      exact hdoubled ⟨hlast.trans hlink', hfirst.trans hsign⟩
    · intro c hc
      rw [unclosed_iff_of_link htext hlink, Option.mem_def.1 hc, Option.any_some] at hunclosed
      simpa using hunclosed

-- Where the quote of a value is not closed, the reader has no value.
theorem readValue_of_unclosed {source : List Char} {start lo hi after : Nat}
    (h : valueRange? start (source.drop start) = some ((lo, hi), after))
    (hunclosed : Unclosed source lo) :
    (readValue (source.drop start)).1 = none ∨ (readValue (source.drop start)).1 = some [] := by
  obtain ⟨lo', hi', after', hvalue, rfl, rfl, rfl⟩ := valueRange?_eq_some_iff.1 h
  generalize htext : source.drop start = s at hvalue ⊢
  cases hvalue with
  | @quoted link value rest q hlink hq hvalue =>
    have hquote := (getElem?_link htext hlink).1
    have hbefore := hunclosed.2
    rw [← Nat.add_assoc, Nat.add_sub_cancel, hquote, List.head?_cons, Option.any_some,
      hq] at hbefore
    cases hbefore
  | @loose link value rest hlink hne hvalue hrest hopen =>
    rw [unclosed_iff_of_link htext hlink] at hunclosed
    cases htail : value ++ rest with
    | nil => rw [htail] at hunclosed; cases hunclosed
    | cons q tail =>
      rw [htail] at hunclosed
      exact readValue_unclosed hlink hunclosed (hopen q tail htail hunclosed)

/-! ## Side by side -/

/-- An attribute that the reader and the locator pass alike. -/
def FoundAttribute.Plain (source : List Char) (found : FoundAttribute) : Prop :=
  ∀ range ∈ found.range, ¬ Doubled source range.1 ∧ ¬ Unclosed source range.1

instance (source : List Char) (found : FoundAttribute) : Decidable (found.Plain source) :=
  inferInstanceAs (Decidable (∀ range ∈ found.range, _))

/-- The same attribute, as it was read and as it was found. -/
def FoundAttribute.Matches (source : List Char) (found : FoundAttribute)
    (attr : List Char × Option (List Char)) : Prop :=
  found.name = String.ofList (lower attr.1) ∧
    attr.2 = found.range.map fun range => slice range.1 range.2 source

-- The locator goes on only behind a whole name, and only where no equals sign is left.
theorem stops_of_foundAttributes {s : List Char} {offset : Nat} (hname : Stops isAttrNameChar s)
    (h : foundAttributes 0 offset s ≠ []) :
    Stops isQuote s ∧ (trimStart s).head? ≠ some '=' := by
  constructor
  · intro c hc
    by_contra hquote
    rw [Bool.not_eq_false] at hquote
    apply h
    refine foundAttributes_stop _ (fun d hd => ?_) hname
    obtain rfl := Option.some.inj ((Option.mem_def.1 hc).symm.trans hd)
    simp only [isQuote, Bool.or_eq_true, beq_iff_eq] at hquote
    rcases hquote with rfl | rfl <;> decide
  · intro hequals
    obtain ⟨blanks, hs, hblanks, -⟩ := exists_blanks s
    apply h
    rw [hs, foundAttributes_gap _ _ fun c hc => by rw [hblanks c hc, Bool.true_or]]
    refine foundAttributes_stop _ ?_ ?_ <;>
    · intro c hc
      obtain rfl := Option.some.inj (hequals.symm.trans hc)
      decide

theorem stops_canContinueName {s : List Char} (hname : Stops isAttrNameChar s)
    (hquote : Stops isQuote s) : Stops canContinueName s := by
  intro c hc
  have hstop := hname c hc
  have hplain := hquote c hc
  simp only [isQuote, Bool.or_eq_false_iff] at hplain
  simp only [isAttrNameChar, hplain, Bool.or_false, Bool.not_eq_false'] at hstop
  simp only [canContinueName, Bool.not_eq_false']
  simp only [Bool.or_eq_true] at hstop ⊢
  tauto

-- Behind a name, the value is read up to the place where the locator goes on.
theorem NameAt.readsTo {source name rest : List Char} {offset : Nat} {found : FoundAttribute}
    (hat : NameAt source offset found name rest) (hplain : found.Plain source)
    (hmore : found.range = none →
      foundAttributes 0 found.after (source.drop found.after) ≠ []) :
    Stops canContinueName rest ∧
      ReadsTo rest (found.range.map fun range => slice range.1 range.2 source)
        (source.drop found.after) := by
  obtain ⟨start, hstart, hfound⟩ := hat.located
  cases hvalue : valueRange? start rest with
  | none =>
    have hrange : found.range = none := by rw [hfound, hvalue]; rfl
    have hafter : source.drop found.after = rest := by rw [hfound, hvalue]; exact hstart
    replace hmore := hmore hrange
    rw [hafter] at hmore
    obtain ⟨hquote, hequals⟩ := stops_of_foundAttributes hat.stops hmore
    rw [hrange, hafter]
    exact ⟨stops_canContinueName hat.stops hquote, readValue_none hequals, [], rfl, .inr hat.stops⟩
  | some value =>
    obtain ⟨⟨lo, hi⟩, after⟩ := value
    have hrange : found.range = some (lo, hi) := by rw [hfound, hvalue]; rfl
    have hafter : found.after = after := by rw [hfound, hvalue]; rfl
    obtain ⟨link, body, hbody, hlink, -⟩ := exists_link_of_valueRange? (by rw [hvalue]; rfl)
    obtain ⟨hdoubled, hunclosed⟩ := hplain (lo, hi) hrange
    have hreads := readsTo_of_valueRange? (hstart.symm ▸ hvalue) hdoubled hunclosed
    rw [hstart] at hreads
    rw [hrange, hafter]
    exact ⟨hbody ▸ stops_link hlink body, hreads⟩

/-- One step: the reader takes the attribute that the locator passes, and both go on behind it. -/
theorem exists_matches_of_foundAttributes {source : List Char} {offset : Nat} {previous : Char}
    {found : FoundAttribute} {more : List FoundAttribute}
    (h : foundAttributes 0 offset (source.drop offset) = found :: more)
    (hprevious : canPrecedeName previous = true) (hplain : found.Plain source)
    (hmore : found.range = none → more ≠ []) :
    ∃ attr last, found.Matches source attr ∧
      foundAttributes 0 found.after (source.drop found.after) = more ∧
      (readAttributes 0 previous (skipGap (source.drop offset))).1 =
        attr :: (readAttributes 0 last (skipGap (source.drop found.after))).1 ∧
      (more ≠ [] → canPrecedeName last = true) := by
  obtain ⟨name, rest, hat, hnext⟩ := exists_name_of_foundAttributes h
  obtain ⟨start, -, hfound⟩ := hat.located
  obtain ⟨hstops, hreads⟩ := hat.readsTo hplain fun hnone => hnext.symm ▸ hmore hnone
  obtain ⟨last, hread, hlast⟩ := hreads.exists_readAttributes hat.isName hstops hprevious
  refine ⟨_, last, ⟨by rw [hfound], rfl⟩, hnext, hat.reached ▸ hread, fun hmore' => ?_⟩
  rcases hlast with hcan | ⟨hgap, hstop⟩
  · exact hcan
  · rw [← hnext, foundAttributes_of_skipGap _ hgap hstop] at hmore'
    exact absurd rfl hmore'

/-- The run up to an attribute: the reader comes to it too, and has read the attributes before. -/
theorem exists_readAttributes_of_foundAttributes {source : List Char} {offset : Nat}
    {previous : Char} {before behind : List FoundAttribute} {found : FoundAttribute}
    (h : foundAttributes 0 offset (source.drop offset) = before ++ found :: behind)
    (hprevious : canPrecedeName previous = true) (hplain : ∀ g ∈ before, g.Plain source) :
    ∃ attrs start last, List.Forall₂ (FoundAttribute.Matches source) before attrs ∧
      foundAttributes 0 start (source.drop start) = found :: behind ∧
      canPrecedeName last = true ∧
      (readAttributes 0 previous (skipGap (source.drop offset))).1 =
        attrs ++ (readAttributes 0 last (skipGap (source.drop start))).1 := by
  induction before generalizing offset previous with
  | nil => exact ⟨[], offset, previous, .nil, h, hprevious, rfl⟩
  | cons first before ih =>
    rw [List.forall_mem_cons] at hplain
    have hmore : before ++ found :: behind ≠ [] := by simp
    obtain ⟨attr, next, hattr, hfound, hread, hnext⟩ :=
      exists_matches_of_foundAttributes h hprevious hplain.1 fun _ => hmore
    obtain ⟨attrs, start, last, hattrs, hstart, hlast, hreads⟩ :=
      ih hfound (hnext hmore) hplain.2
    refine ⟨attr :: attrs, start, last, .cons hattr hattrs, hstart, hlast, ?_⟩
    rw [hread, hreads, List.cons_append]

-- The attribute itself: its value, or none where the quote is not closed.
theorem exists_attribute_of_foundAttributes {source : List Char} {offset lo hi : Nat}
    {previous : Char} {found : FoundAttribute} {behind : List FoundAttribute}
    (h : foundAttributes 0 offset (source.drop offset) = found :: behind)
    (hprevious : canPrecedeName previous = true) (hrange : found.range = some (lo, hi))
    (hdoubled : ¬ Doubled source lo) :
    ∃ name value more, found.name = String.ofList (lower name) ∧
      (readAttributes 0 previous (skipGap (source.drop offset))).1 = (name, value) :: more ∧
      value.getD [] = if Unclosed source lo then [] else slice lo hi source := by
  by_cases hunclosed : Unclosed source lo
  · obtain ⟨name, rest, hat, -⟩ := exists_name_of_foundAttributes h
    obtain ⟨start, hstart, hfound⟩ := hat.located
    rw [hfound, Option.map_eq_some_iff] at hrange
    obtain ⟨⟨range, after⟩, hvalue, rfl⟩ := hrange
    obtain ⟨link, body, hbody, hlink, -⟩ := exists_link_of_valueRange? (by rw [hvalue]; rfl)
    have hread := readAttribute_of_readValue hat.isName (hbody ▸ stops_link hlink body)
      (Prod.eta (readValue rest)).symm
    have hnone := readValue_of_unclosed (hstart.symm ▸ hvalue) hunclosed
    rw [hstart] at hnone
    obtain ⟨c, cs, rfl, hc, -⟩ := hat.isName
    obtain ⟨more, hmore⟩ : ∃ more, (readAttributes 0 previous (c :: cs ++ rest)).1 =
        (c :: cs, (readValue rest).1) :: more := by
      rw [List.cons_append] at hread ⊢
      rw [readAttributes, if_pos (by rw [hprevious, hc]; rfl), hread]
      exact ⟨_, rfl⟩
    refine ⟨c :: cs, (readValue rest).1, more, by rw [hfound], hat.reached ▸ hmore, ?_⟩
    · rw [if_pos hunclosed]
      rcases hnone with heq | heq <;> rw [heq] <;> rfl
  · have hplain : found.Plain source := by
      intro range hrange'
      obtain rfl := Option.some.inj (hrange.symm.trans hrange')
      exact ⟨hdoubled, hunclosed⟩
    obtain ⟨⟨name, value⟩, last, hmatches, -, hread, -⟩ :=
      exists_matches_of_foundAttributes h hprevious hplain fun hnone => by
        rw [hrange] at hnone
        cases hnone
    refine ⟨name, value, _, hmatches.1, hread, ?_⟩
    have hvalue : value = found.range.map fun range => slice range.1 range.2 source := hmatches.2
    rw [if_neg hunclosed, hvalue, hrange]
    rfl

end HeadLint.Markup
