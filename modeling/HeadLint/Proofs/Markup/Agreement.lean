import HeadLint.Proofs.Markup.Lockstep
import HeadLint.Proofs.Markup.Outline
import HeadLint.Proofs.Markup.Position

/-!
Attribute values and their ranges.  The value of an attribute is the text of its range with the
references replaced, unless one of three slips puts the two apart: an equals sign right behind
another one, an opening quote that is not closed, and an attribute that is repeated after it stood
there without a value.
-/

namespace HeadLint.Markup

open Text

/-! ## Start tags -/

-- The names of tags end at different characters for the reader and the locator.
theorem null_of_isTagNameChar {c : Char} (hopen : isOpenNameChar c = true)
    (htag : isTagNameChar c = false) : c = '\x00' := by
  by_contra hnull
  simp only [isTagNameChar, Bool.not_eq_false', Bool.or_eq_true, beq_iff_eq] at htag
  revert hopen
  rcases htag with ((((((rfl | rfl) | rfl) | rfl) | rfl) | rfl) | rfl) | rfl
  all_goals first | exact absurd rfl hnull | decide

theorem blank_of_isOpenNameChar {c : Char} (hopen : isOpenNameChar c = false)
    (htag : isTagNameChar c = true) : isBlank c = true := by
  simp only [isOpenNameChar, Bool.not_eq_false', Bool.or_eq_true, beq_iff_eq] at hopen
  revert htag
  rcases hopen with (hblank | rfl) | rfl
  · exact fun _ => hblank
  · decide
  · decide

-- Where the two names are the same in lower case, they are the same run of the text.
theorem stops_isTagNameChar {run rest : List Char}
    (hrun : ∀ c ∈ run, isOpenNameChar c = true) (hrest : Stops isOpenNameChar rest)
    (hsame : lower run = lower (lower ((run ++ rest).takeWhile isTagNameChar))) :
    (∀ c ∈ run, isTagNameChar c = true) ∧ Stops isTagNameChar rest := by
  -- White space and the null character stay, so either name has those of the other.
  have hmem : ∀ d, Caseless d → (d ∈ run ↔ d ∈ (run ++ rest).takeWhile isTagNameChar) := by
    intro d hd
    rw [← mem_lower_iff hd, hsame, mem_lower_iff hd, mem_lower_iff hd]
  have hchars : ∀ c ∈ run, isTagNameChar c = true := by
    intro c hc
    by_contra htag
    obtain rfl := null_of_isTagNameChar (hrun c hc) (by simpa using htag)
    exact htag (List.mem_takeWhile_imp ((hmem _ caseless_null).1 hc))
  refine ⟨hchars, fun c hc => ?_⟩
  by_contra htag
  rw [Bool.not_eq_false] at htag
  have hblank := blank_of_isOpenNameChar (hrest c hc) htag
  have hrun' : c ∈ run := by
    obtain ⟨tail, rfl⟩ := List.head?_eq_some_iff.1 (Option.mem_def.1 hc)
    rw [hmem c (caseless_of_isBlank hblank), List.takeWhile_append_of_pos hchars,
      List.takeWhile_cons_of_pos htag]
    simp
  have hopen := hrest c hc
  rw [hrun c hrun'] at hopen
  cases hopen

theorem stops_of_isOpenNameChar {rest : List Char} (h : Stops isOpenNameChar rest) :
    Stops isAttrNameChar rest := by
  intro c hc
  have hopen := h c hc
  simp only [isOpenNameChar, Bool.not_eq_false', Bool.or_eq_true, beq_iff_eq] at hopen
  rcases hopen with (hblank | rfl) | rfl
  · simp [isAttrNameChar, hblank]
  · decide
  · decide

/-- What the reader takes from a start tag, when the locator finds the tag there too. -/
theorem OpensTag.exists_attributes {source run rest after : List Char} {tag : StartTag}
    {start : Nat} (hopens : OpensTag source tag.name start run rest)
    (hat : TagAt (source.drop start) tag after) :
    ∃ previous, tag.attributes =
        (readAttributes 0 previous (skipGap rest)).1.map cookAttribute ∧
      (skipGap rest ≠ rest → canPrecedeName previous = true) := by
  obtain ⟨c, tail, htext, -, hread⟩ := hat.text
  have hbody : c :: tail = run ++ rest := by
    rw [hopens.text] at htext
    exact (List.cons.inj htext).2.symm
  rw [hbody] at hread
  obtain ⟨ending, -, -, htag⟩ := closeTag?_eq_ok_iff.1 hread
  have hsame : lower run = lower (lower ((run ++ rest).takeWhile isTagNameChar)) := by
    have hname := hopens.name_eq
    rw [htag, lowered, String.toList_ofList] at hname
    exact String.ofList_injective hname
  obtain ⟨hchars, hstops⟩ := stops_isTagNameChar hopens.name_chars hopens.stops hsame
  rw [dropWhile_run hchars hstops, takeWhile_run hchars hstops] at htag
  refine ⟨_, congrArg StartTag.attributes htag, fun hskip => ?_⟩
  -- The name of the tag is followed by a gap, and the reader stands behind its last character.
  obtain ⟨gap, hgap, hgapChars⟩ := skipGap_suffix rest
  have hne : gap ≠ [] := by
    rintro rfl
    exact hskip hgap.symm
  have htake : rest.take (rest.length - (skipGap rest).length) = gap := by
    have hlength := congrArg List.length hgap
    rw [List.length_append] at hlength
    rw [hlength, Nat.add_sub_cancel]
    conv => lhs; rw [hgap]
    exact List.take_left
  rw [htake, List.getLast?_append_of_ne_nil _ hne, List.getLast?_eq_getLast_of_ne_nil hne,
    Option.getD_some]
  exact canPrecedeName_of_gap (hgapChars _ (List.getLast_mem hne))

/-- The text of a range, with the references replaced. -/
def textAt (source : List Char) (span : Span) : String :=
  String.ofList (unescape (slice span.start.toNat span.stop.toNat source))

/-- The attributes that the locator passes in the start tag at an offset, before the first of a name
that has a value. -/
def passedBefore (source : List Char) (start : Nat) (attr : String) : List FoundAttribute :=
  let behind := start + 1 + ((source.drop (start + 1)).takeWhile isOpenNameChar).length
  (foundAttributes 0 behind (source.drop behind)).takeWhile fun found =>
    !(found.name == attr && found.range.isSome)

theorem OpensTag.drop_eq {source run rest : List Char} {name : String} {start : Nat}
    (h : OpensTag source name start run rest) :
    source.drop (start + 1 + run.length) = rest := by
  rw [Nat.add_assoc, ← List.drop_drop, h.text, Nat.add_comm 1, List.drop_succ_cons, List.drop_left]

theorem OpensTag.passedBefore_eq {source run rest : List Char} {name : String} {start : Nat}
    (h : OpensTag source name start run rest) (attr : String) :
    passedBefore source start attr =
      (foundAttributes 0 (start + 1 + run.length) rest).takeWhile fun found =>
        !(found.name == attr && found.range.isSome) := by
  have hbody : source.drop (start + 1) = run ++ rest := by
    rw [← List.drop_drop, h.text, List.drop_succ_cons, List.drop_zero]
  simp only [passedBefore, hbody, takeWhile_run h.name_chars h.stops, h.drop_eq]

-- The range that is kept for a name is the first one.
theorem exists_found_of_mem_firsts {founds : List FoundAttribute} {attr : String} {lo hi : Nat}
    (h : (attr, lo, hi) ∈ Entries.firsts (founds.flatMap FoundAttribute.entries)) :
    ∃ found behind, found.name = attr ∧ found.range = some (lo, hi) ∧
      founds = founds.takeWhile (fun found => !(found.name == attr && found.range.isSome)) ++
        found :: behind := by
  replace h := Entries.get?_of_mem (Entries.nodup_keys_firsts _) h
  rw [Entries.get?_firsts] at h
  induction founds with
  | nil => cases h
  | cons found founds ih =>
    rw [List.flatMap_cons, Entries.get?_append] at h
    by_cases hfound : (found.name == attr && found.range.isSome) = true
    · rw [List.takeWhile_cons_of_neg (by simp [hfound])]
      rw [Bool.and_eq_true, beq_iff_eq, Option.isSome_iff_exists] at hfound
      obtain ⟨hname, range, hrange⟩ := hfound
      refine ⟨found, founds, hname, ?_, rfl⟩
      have hget : Entries.get? attr found.entries = some range := by
        simp [FoundAttribute.entries, hrange, hname, Entries.get?]
      rw [hget, Option.some_or] at h
      rw [hrange, Option.some.inj h]
    · have hget : Entries.get? attr found.entries = none := by
        rw [Entries.get?_eq_none_iff]
        intro hmem
        apply hfound
        cases hrange : found.range with
        | none => simp [FoundAttribute.entries, hrange] at hmem
        | some range =>
          simp only [FoundAttribute.entries, hrange, Option.map_some, Option.toList_some,
            List.map_cons, List.map_nil, List.mem_singleton] at hmem
          simp [hmem]
      rw [hget, Option.none_or] at h
      obtain ⟨found', behind, hname, hrange, hsplit⟩ := ih h
      refine ⟨found', behind, hname, hrange, ?_⟩
      rw [List.takeWhile_cons_of_pos (by rw [Bool.not_eq_true] at hfound; rw [hfound]; rfl),
        List.cons_append, ← hsplit]

-- Attributes that stood there without a value are empty.
theorem get?_of_matches {source : List Char} {attr : String} {passed : List FoundAttribute}
    {attrs : List (List Char × Option (List Char))}
    (h : List.Forall₂ (FoundAttribute.Matches source) passed attrs)
    (hnone : ∀ found ∈ passed, found.name = attr → found.range = none) :
    Entries.get? attr (attrs.map fun a => Builder.entryOf (cookAttribute a)) =
      if attr ∈ passed.map (·.name) then some "" else none := by
  induction h with
  | nil => rfl
  | @cons found a passed attrs hmatches _ ih =>
    obtain ⟨name, value⟩ := a
    rw [List.forall_mem_cons] at hnone
    rw [List.map_cons, ← List.singleton_append, Entries.get?_append, ih hnone.2]
    by_cases hname : found.name = attr
    · have hvalue : value = none := by
        have hvalue := hmatches.2
        rw [hnone.1 hname] at hvalue
        exact hvalue
      have hget : Entries.get? attr [Builder.entryOf (cookAttribute (name, value))] = some "" := by
        simp [Entries.get?, Builder.entryOf, cookAttribute, hvalue, ← hmatches.1, hname]
      rw [hget, Option.some_or, if_pos (by simp [hname])]
    · have hget : Entries.get? attr [Builder.entryOf (cookAttribute (name, value))] = none := by
        simp [Entries.get?, Builder.entryOf, cookAttribute, ← hmatches.1, hname]
      rw [hget, Option.none_or, List.map_cons]
      simp only [List.mem_cons, Ne.symm hname, false_or]

-- The first attribute of a name decides, and it is empty when it stood there without a value.
theorem get?_keepFirst_of_matches {source name : List Char} {value : Option (List Char)}
    {passed : List FoundAttribute} {attrs more : List (List Char × Option (List Char))}
    {attr : String} (h : List.Forall₂ (FoundAttribute.Matches source) passed attrs)
    (hnone : ∀ found ∈ passed, found.name = attr → found.range = none)
    (hname : attr = String.ofList (lower name)) :
    Entries.get? attr (Builder.keepFirst ((attrs ++ (name, value) :: more).map cookAttribute)) =
      some (if attr ∈ passed.map (·.name) then ""
        else String.ofList (unescape (value.getD []))) := by
  have hvalue : (value.map fun v => String.ofList (unescape v)).getD "" =
      String.ofList (unescape (value.getD [])) := by
    cases value <;> rfl
  have hget : Entries.get? attr (((name, value) :: more).map fun a =>
      Builder.entryOf (cookAttribute a)) = some (String.ofList (unescape (value.getD []))) := by
    simp [Entries.get?, Builder.entryOf, cookAttribute, ← hname, hvalue]
  rw [Builder.keepFirst_eq_firsts, Entries.get?_firsts, List.map_map, List.map_append,
    Entries.get?_append]
  simp only [Function.comp_def]
  rw [get?_of_matches h hnone, hget]
  split <;> rfl

/-- A start tag as it is read, up to an attribute that the locator finds in it. -/
theorem OpensTag.exists_matches {source run rest after : List Char} {tag : StartTag}
    {start lo hi : Nat} {before behind : List FoundAttribute} {found : FoundAttribute}
    (hopens : OpensTag source tag.name start run rest) (hat : TagAt (source.drop start) tag after)
    (hfounds : foundAttributes 0 (start + 1 + run.length) rest = before ++ found :: behind)
    (hplain : ∀ passed ∈ before, passed.Plain source) (hrange : found.range = some (lo, hi))
    (hdoubled : ¬ Doubled source lo) :
    ∃ attrs name value more,
      tag.attributes = (attrs ++ (name, value) :: more).map cookAttribute ∧
      List.Forall₂ (FoundAttribute.Matches source) before attrs ∧
      found.name = String.ofList (lower name) ∧
      value.getD [] = if Unclosed source lo then [] else slice lo hi source := by
  obtain ⟨previous, hattributes, hprevious⟩ := hopens.exists_attributes hat
  have hcan : canPrecedeName previous = true := by
    apply hprevious
    intro hgap
    rw [foundAttributes_of_skipGap _ hgap (stops_of_isOpenNameChar hopens.stops)] at hfounds
    simp at hfounds
  rw [← hopens.drop_eq] at hfounds hattributes
  obtain ⟨attrs, offset, last, hmatches, hfound, hlast, hread⟩ :=
    exists_readAttributes_of_foundAttributes hfounds hcan hplain
  obtain ⟨name, value, more, hname, hattr, hvalue⟩ :=
    exists_attribute_of_foundAttributes hfound hlast hrange hdoubled
  refine ⟨attrs, name, value, more, ?_, hmatches, hname, hvalue⟩
  rw [hattributes, hread, hattr]

-- The value that is kept of a start tag, for an attribute whose value is located.
theorem TagAt.get?_keepFirst {source after : List Char} {tag : StartTag} {start : Nat}
    {attr : String} {span : Span} {found : Span × List (String × Span)}
    (hat : TagAt (source.drop start) tag after)
    (hlocate : locate? source tag.name start = some found) (hmem : (attr, span) ∈ found.2)
    (hplain : ∀ passed ∈ passedBefore source start attr, passed.Plain source)
    (hdoubled : ¬ Doubled source span.start.toNat) :
    Entries.get? attr (Builder.keepFirst tag.attributes) =
      some (if attr ∈ (passedBefore source start attr).map (·.name) ∨
          Unclosed source span.start.toNat then ""
        else textAt source span) := by
  obtain ⟨run, rest, hopens, rfl⟩ := locate?_eq_some_iff.1 hlocate
  obtain ⟨⟨attr, lo, hi⟩, hfirst, heq⟩ := List.mem_map.1 hmem
  obtain ⟨rfl, rfl⟩ := Prod.mk.inj heq
  have hlo : (spanOf source lo hi).start.toNat = lo := Int.toNat_natCast lo
  have hhi : (spanOf source lo hi).stop.toNat = hi := Int.toNat_natCast hi
  rw [hlo] at hdoubled
  rw [textAt, hlo, hhi]
  rw [firstRanges_eq_firsts, attributeRanges_eq_flatMap] at hfirst
  obtain ⟨located, behind, hkey, hrange, hfounds⟩ := exists_found_of_mem_firsts hfirst
  rw [← hopens.passedBefore_eq] at hfounds
  obtain ⟨attrs, name, value, more, hattributes, hmatches, hname, hvalue⟩ :=
    hopens.exists_matches hat hfounds hplain hrange hdoubled
  have hnone : ∀ passed ∈ passedBefore source start attr, passed.name = attr →
      passed.range = none := by
    intro passed hpassed hsame
    rw [hopens.passedBefore_eq] at hpassed
    simpa [hsame] using List.mem_takeWhile_imp hpassed
  rw [hattributes, get?_keepFirst_of_matches hmatches hnone (hkey.symm.trans hname), hvalue]
  by_cases hunclosed : Unclosed source lo
  · have hempty : String.ofList (unescape []) = "" := rfl
    simp only [hunclosed, or_true, if_true, hempty, ite_self]
  · simp only [hunclosed, or_false, if_false]

end HeadLint.Markup

namespace HeadLint.Document

open Markup Text

-- Every element comes from a start tag of the text.
theorem exists_tagAt_of_contains {html : String} {doc : Document} {e : Element}
    (hparse : parse html = .ok doc) (h : doc.Contains e) :
    ∃ n tag after, e = locateNode html.toList (markLength html.toList) n ∧
      TagAt (html.toList.drop (n.offset + markLength html.toList)) tag after ∧
      n.name = tag.name ∧ n.attributes = Builder.keepFirst tag.attributes := by
  obtain ⟨tokens, hlex, rfl⟩ := parse_eq_ok_iff.1 hparse
  obtain ⟨head, hhead, h⟩ := h
  rw [locateNodes_eq_map] at hhead
  obtain ⟨m, hm, rfl⟩ := List.mem_map.1 hhead
  have hall : Node.AllAmong (fun name attributes offset => ∃ tag after,
      TagAt (html.toList.drop (offset + markLength html.toList)) tag after ∧
        name = tag.name ∧ attributes = Builder.keepFirst tag.attributes)
      (Node.ofTokens tokens) := by
    refine Node.all_ofTokens fun tag offset hmem => ?_
    obtain ⟨-, -, after, -, hat⟩ := exists_arrives_of_lexFrom hlex hmem
    rw [Nat.sub_zero, List.drop_drop, Nat.add_comm] at hat
    exact ⟨tag, after, hat, rfl, rfl⟩
  obtain ⟨n, rfl, hn⟩ := exists_node_of_contains h rfl
  obtain ⟨tag, after, hat, hname, hattributes⟩ :=
    (hn _ (Node.All.namedAmong "head" _ hall m hm)).self
  exact ⟨n, tag, after, rfl, hat, hname, hattributes⟩

section Values

variable {html : String} {doc : Document} {e : Element} {span value : Span} {attr : String}

-- The value of an attribute is the text of its range, or empty: when the attribute stood there
-- without a value before, and when the quote of its value is not closed.
theorem get?_attrs_eq (hparse : parse html = .ok doc) (hcontains : doc.Contains e)
    (hspan : e.span = some span) (hvalue : (attr, value) ∈ e.attrSpans)
    (hplain : ∀ passed ∈ passedBefore html.toList span.start.toNat attr, passed.Plain html.toList)
    (hdoubled : ¬ Doubled html.toList value.start.toNat) :
    Entries.get? attr e.attrs =
      some (some (if attr ∈ (passedBefore html.toList span.start.toNat attr).map (·.name) ∨
          Unclosed html.toList value.start.toNat then ""
        else textAt html.toList value)) := by
  obtain ⟨n, tag, after, rfl, hat, hname, hattributes⟩ :=
    exists_tagAt_of_contains hparse hcontains
  rw [span_locateNode, hname] at hspan
  rw [attrSpans_locateNode, hname] at hvalue
  obtain ⟨found, hlocate, rfl⟩ := Option.map_eq_some_iff.1 hspan
  rw [hlocate] at hvalue
  have hstart : found.1.start.toNat = n.offset + markLength html.toList := by
    rw [start_of_locate? (by rw [hlocate]; rfl)]
    rfl
  have hget : Entries.get? attr (elementAttrs n.attributes) =
      (Entries.get? attr n.attributes).map some := Entries.get?_map some attr n.attributes
  rw [hstart] at hplain ⊢
  rw [attrs_locateNode, hget, hattributes, hat.get?_keepFirst hlocate hvalue hplain hdoubled,
    Option.map_some]

/-- An attribute that has a range is there, and its value is the text of the range with the
references replaced exactly when it did not stand there without a value before and the quote of the
value is closed, or when that text is empty.  Neither this value nor one before it in the tag starts
with a second equals sign, and the quotes of those before are closed. -/
theorem value_eq_textAt_iff (hparse : parse html = .ok doc) (hcontains : doc.Contains e)
    (hspan : e.span = some span) (hvalue : (attr, value) ∈ e.attrSpans)
    (hplain : ∀ passed ∈ passedBefore html.toList span.start.toNat attr, passed.Plain html.toList)
    (hdoubled : ¬ Doubled html.toList value.start.toNat) :
    attr ∈ Entries.keys e.attrs ∧
      (Entries.get? attr e.attrs = some (some (textAt html.toList value)) ↔
        attr ∉ (passedBefore html.toList span.start.toNat attr).map (·.name) ∧
            ¬ Unclosed html.toList value.start.toNat ∨
          textAt html.toList value = "") := by
  have hget := get?_attrs_eq hparse hcontains hspan hvalue hplain hdoubled
  refine ⟨List.mem_map_of_mem (Entries.mem_of_get? hget), ?_⟩
  rw [hget, Option.some.injEq, Option.some.injEq, ← not_or]
  split
  · rename_i hslip
    constructor
    · intro heq
      exact .inr heq.symm
    · rintro (hnot | hempty)
      · exact absurd hslip hnot
      · exact hempty.symm
  · rename_i hnot
    exact ⟨fun _ => .inl hnot, fun _ => rfl⟩

end Values

-- A child of a head that fits a description.
theorem exists_child_of_any (html : String) (p : Element → Bool)
    (h : ((parse html).toOption.any fun doc => doc.heads.any fun head => head.children.any p) =
      true) : ∃ doc e, parse html = .ok doc ∧ doc.Contains e ∧ p e = true := by
  cases hparse : parse html with
  | error fault => rw [hparse] at h; cases h
  | ok doc =>
    rw [hparse] at h
    obtain ⟨head, hhead, hany⟩ := List.any_eq_true.1 h
    obtain ⟨e, he, hp⟩ := List.any_eq_true.1 hany
    exact ⟨doc, e, rfl, ⟨head, hhead, .inner he (.self e)⟩, hp⟩

/-- A tag with values of all kinds, an attribute without a value and a repeated one. -/
def variedHead : String := "<head><META a b=&lt; b c = \"x&amp;y\"></head>"

theorem value_eq_textAt_iff_variedHead :
    ∃ doc e, parse variedHead = .ok doc ∧ doc.Contains e ∧
      e.span = some ⟨6, 37, 1, 6⟩ ∧ ("c", (⟨28, 35, 1, 28⟩ : Span)) ∈ e.attrSpans ∧
      (∀ passed ∈ passedBefore variedHead.toList 6 "c", passed.Plain variedHead.toList) ∧
      ¬ Doubled variedHead.toList 28 ∧ "c" ∈ Entries.keys e.attrs ∧
      Entries.get? "c" e.attrs = some (some "x&y") := by
  obtain ⟨doc, e, hparse, hcontains, he⟩ := exists_child_of_any variedHead
    (fun e => decide (e.span = some ⟨6, 37, 1, 6⟩ ∧
      ("c", (⟨28, 35, 1, 28⟩ : Span)) ∈ e.attrSpans)) (by decide +kernel)
  obtain ⟨hspan, hvalue⟩ := of_decide_eq_true he
  have hplain : ∀ passed ∈ passedBefore variedHead.toList 6 "c",
      passed.Plain variedHead.toList := by
    decide +kernel
  have hdoubled : ¬ Doubled variedHead.toList 28 := by decide +kernel
  obtain ⟨hkey, hagrees⟩ := value_eq_textAt_iff hparse hcontains hspan hvalue hplain hdoubled
  have hplaced : "c" ∉ (passedBefore variedHead.toList 6 "c").map (·.name) ∧
      ¬ Unclosed variedHead.toList 28 := by
    decide +kernel
  have htext : textAt variedHead.toList ⟨28, 35, 1, 28⟩ = "x&y" := by decide +kernel
  refine ⟨doc, e, hparse, hcontains, hspan, hvalue, hplain, hdoubled, hkey, ?_⟩
  rw [← htext]
  exact hagrees.2 (.inl hplaced)

/-! ## The three slips -/

/-- A repeated attribute that has no value at first, a second equals sign, and a quote that is not
closed. -/
def slips : List String :=
  ["<head><meta charset charset=latin1></head>", "<head><meta a==b></head>",
    "<head><meta a= \"b></head>"]

-- In each of them there is an attribute whose value is not the text of its range.
theorem value_ne_textAt_of_slip : ∀ html ∈ slips, ∃ doc e, parse html = .ok doc ∧ doc.Contains e ∧
    ∃ attr ∈ e.attrSpans,
      Entries.get? attr.1 e.attrs ≠ some (some (textAt html.toList attr.2)) := by
  have hslips : ∀ html ∈ slips, ((parse html).toOption.any fun doc => doc.heads.any fun head =>
      head.children.any fun e => decide (∃ attr ∈ e.attrSpans,
        Entries.get? attr.1 e.attrs ≠ some (some (textAt html.toList attr.2)))) = true := by
    decide +kernel
  intro html hhtml
  obtain ⟨doc, e, hparse, hcontains, he⟩ := exists_child_of_any html _ (hslips html hhtml)
  exact ⟨doc, e, hparse, hcontains, of_decide_eq_true he⟩

end HeadLint.Document
