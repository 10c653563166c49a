import HeadLint.Proofs.Markup.Extent
import HeadLint.Proofs.Markup.Forest

/-!
Source ranges in a plain head.  The searches for the ends of attribute values and of elements, which
know nothing of tokens, find on the text of a tree what the tree says.
-/

namespace HeadLint.Markup

open Text

/-! ## Attribute values -/

/-- The ranges of the values of attributes whose text stands at `offset`. -/
def plainRanges : Nat → List PlainAttribute → List (String × Nat × Nat)
  | _, [] => []
  | offset, a :: rest =>
    let start := offset + 1 + a.name.toList.length + 2
    (a.name, start, start + a.value.toList.length) :: plainRanges (offset + 1 + a.body.length) rest

theorem attributeRanges_skip (run rest : List Char) (offset : Nat) :
    attributeRanges run.length offset (run ++ rest) =
      attributeRanges 0 (offset + run.length) rest := by
  induction run generalizing offset with
  | nil => rfl
  | cons c run ih =>
    rw [List.length_cons, List.cons_append, attributeRanges, ih]
    congr 1
    omega

-- The scan over attributes takes one attribute and goes on behind it.
theorem attributeRanges_step {offset : Nat} {c : Char} {piece rest : List Char}
    {found : FoundAttribute} (hgap : (isBlank c || c == '/') = false)
    (hname : isAttrNameChar c = true)
    (hfound : attributeRange offset (c :: (piece ++ rest)) = found)
    (hafter : found.after = offset + (c :: piece).length) :
    attributeRanges 0 offset (c :: (piece ++ rest)) =
      (found.entries ++ (attributeRanges 0 found.after rest).1,
        (attributeRanges 0 found.after rest).2) := by
  have hskip : found.after - offset - 1 = piece.length := by
    rw [hafter, List.length_cons]
    omega
  have hnext : offset + 1 + piece.length = found.after := by
    rw [hafter, List.length_cons]
    omega
  rw [attributeRanges_attribute hgap hname, hfound, hskip, attributeRanges_skip, hnext]

theorem PlainAttribute.length_body (a : PlainAttribute) :
    a.body.length = a.name.toList.length + a.value.toList.length + 3 := by
  simp only [PlainAttribute.body, List.length_append, List.length_cons, List.length_nil]
  omega

theorem attributeRange_plain (a : PlainAttribute) (rest : List Char) (offset : Nat) :
    attributeRange offset (a.body ++ rest) =
      ⟨a.name, some (offset + a.name.toList.length + 2,
        offset + a.name.toList.length + 2 + a.value.toList.length), offset + a.body.length⟩ := by
  have htext : a.body ++ rest =
      a.name.toList ++ (['='] ++ '"' :: (a.value.toList ++ '"' :: rest)) := by
    simp [PlainAttribute.body]
  have hstops : Stops isAttrNameChar (['='] ++ '"' :: (a.value.toList ++ '"' :: rest)) :=
    stops_cons.2 (by decide)
  have htake := takeWhile_run (fun c hc => (a.safe hc).2.2.1) hstops
  have hlink : IsLink ['='] := ⟨[], [], rfl, by simp, by simp⟩
  have hat : ValueAt (['='] ++ '"' :: (a.value.toList ++ '"' :: rest)) _ _ _ :=
    .quoted hlink (by decide) a.not_mem_value.1
  have hvalue : valueRange? (offset + a.name.toList.length)
      (['='] ++ '"' :: (a.value.toList ++ '"' :: rest)) = _ :=
    valueRange?_eq_some_iff.2 ⟨_, _, _, hat, rfl, rfl, rfl⟩
  rw [htext]
  simp only [attributeRange, htake, List.drop_left, hvalue, a.lower_name, String.ofList_toList,
    Option.map_some, Option.getD_some, a.length_body, List.length_singleton]
  simp only [FoundAttribute.mk.injEq, Option.some.injEq, Prod.mk.injEq, true_and]
  omega

-- The scan over the attributes of a tag finds all their values, and stops at its end.
theorem attributeRanges_plain (attrs : List PlainAttribute) (rest : List Char) (offset : Nat) :
    attributeRanges 0 offset (renderAttributes attrs ++ '>' :: rest) =
      (plainRanges offset attrs, offset + (renderAttributes attrs).length) := by
  induction attrs generalizing offset with
  | nil =>
    have hgap : (isBlank '>' || '>' == '/') = false := by decide
    have hname : isAttrNameChar '>' = false := by decide
    rw [renderAttributes, List.nil_append, attributeRanges, hgap, if_neg Bool.false_ne_true, hname,
      if_neg Bool.false_ne_true]
    rfl
  | cons a attrs ih =>
    obtain ⟨c, cs, hname⟩ := a.exists_cons
    have hc := a.safe (c := c) (by rw [hname]; exact List.mem_cons_self ..)
    have hspace : (isBlank ' ' || ' ' == '/') = true := by decide
    have hgap : (isBlank c || c == '/') = false := by
      have hstart := hc.1
      simp only [canStartName, Bool.not_eq_true', Bool.or_eq_false_iff] at hstart ⊢
      exact hstart.1
    have hfound := attributeRange_plain a (renderAttributes attrs ++ '>' :: rest) (offset + 1)
    obtain ⟨tail, htail⟩ : ∃ tail, a.body = c :: tail :=
      ⟨_, by rw [PlainAttribute.body, hname]; rfl⟩
    have hstep := attributeRanges_step hgap hc.2.2.1
      (show attributeRange (offset + 1) (c :: (tail ++ (renderAttributes attrs ++ '>' :: rest))) = _
        by rw [← List.cons_append, ← htail, hfound]) (by rw [htail])
    rw [renderAttributes, List.cons_append, List.append_assoc, attributeRanges, if_pos hspace,
      htail, List.cons_append, hstep, ← htail, ih]
    refine Prod.ext rfl ?_
    simp only [List.length_cons, List.length_append]
    omega

theorem map_name_plainRanges (attrs : List PlainAttribute) (offset : Nat) :
    (plainRanges offset attrs).map (·.1) = attrs.map (·.name) := by
  induction attrs generalizing offset with
  | nil => rfl
  | cons a attrs ih => simp only [plainRanges, List.map_cons, ih]

/-! ## Parts of a text -/

theorem slice_of_drop {source text rest : List Char} {start : Nat}
    (h : source.drop start = text ++ rest) :
    slice start (start + text.length) source = text := by
  rw [slice, List.drop_take, h, Nat.add_sub_cancel_left, List.take_left]

theorem drop_add_of_drop {source text rest : List Char} {start : Nat}
    (h : source.drop start = text ++ rest) : source.drop (start + text.length) = rest := by
  rw [← List.drop_drop, h, List.drop_left]

-- Every attribute has a range, and the text there is its value.
theorem exists_mem_plainRanges {source rest : List Char} {offset : Nat}
    {attrs : List PlainAttribute} (h : source.drop offset = renderAttributes attrs ++ rest)
    {a : PlainAttribute} (ha : a ∈ attrs) :
    ∃ lo hi, (a.name, lo, hi) ∈ plainRanges offset attrs ∧
      slice lo hi source = a.value.toList := by
  induction attrs generalizing offset with
  | nil => cases ha
  | cons b attrs ih =>
    -- The first attribute's value stands behind its name; for the others, go on behind it.
    rcases List.mem_cons.1 ha with rfl | hmem
    · refine ⟨_, _, List.mem_cons_self .., ?_⟩
      have hsplit : source.drop offset = (' ' :: (a.name.toList ++ ['=', '"'])) ++
          (a.value.toList ++ '"' :: (renderAttributes attrs ++ rest)) := by
        rw [h]
        simp [renderAttributes, PlainAttribute.body]
      have hdrop := drop_add_of_drop hsplit
      have hstart : offset + (' ' :: (a.name.toList ++ ['=', '"'])).length =
          offset + 1 + a.name.toList.length + 2 := by
        simp only [List.length_cons, List.length_append, List.length_nil]
        omega
      rw [hstart] at hdrop
      exact slice_of_drop hdrop
    · have hsplit : source.drop offset = (' ' :: b.body) ++ (renderAttributes attrs ++ rest) := by
        rw [h]
        simp [renderAttributes]
      have hdrop := drop_add_of_drop hsplit
      have hstart : offset + (' ' :: b.body).length = offset + 1 + b.body.length := by
        rw [List.length_cons]
        omega
      rw [hstart] at hdrop
      obtain ⟨lo, hi, hmem', hslice⟩ := ih hdrop hmem
      exact ⟨lo, hi, List.mem_cons_of_mem _ hmem', hslice⟩

/-! ## The start tag -/

-- Attributes end with a quote.
theorem getLast?_renderAttributes (attrs : List PlainAttribute) (hne : attrs ≠ []) :
    (renderAttributes attrs).getLast? = some '"' := by
  induction attrs with
  | nil => exact absurd rfl hne
  | cons a attrs ih =>
    cases attrs with
    | nil =>
      have hbody : renderAttributes [a] =
          (' ' :: (a.name.toList ++ '=' :: '"' :: a.value.toList)) ++ ['"'] := by
        simp [renderAttributes, PlainAttribute.body]
      rw [hbody, List.getLast?_concat]
    | cons b attrs =>
      have hlast := ih (List.cons_ne_nil _ _)
      rw [renderAttributes, ← List.cons_append, List.getLast?_append, hlast, Option.some_or]

-- No slash stands before the end of a start tag.
theorem exists_renderOpen {name : String} (hname : name ∈ plainNames) (attrs : PlainAttributes) :
    ∃ front last, renderOpen name attrs = front ++ [last, '>'] ∧ last ≠ '/' := by
  have hsafe := safeTagName hname
  obtain ⟨c, cs, hcons, -⟩ := hsafe.exists_cons
  obtain hnil | ⟨front, last, hfront⟩ :=
    List.eq_nil_or_concat (name.toList ++ renderAttributes attrs.list)
  · simp [hcons] at hnil
  rw [List.concat_eq_append] at hfront
  refine ⟨'<' :: front, last, ?_, ?_⟩
  · rw [renderOpen, ← List.append_assoc, hfront]
    simp
  · rintro rfl
    have hlast := congrArg List.getLast? hfront
    rw [List.getLast?_concat] at hlast
    by_cases hattrs : attrs.list = []
    · rw [hattrs, renderAttributes, List.append_nil] at hlast
      have hopen := hsafe.openChars '/' (List.mem_of_getLast? hlast)
      revert hopen
      decide
    · rw [List.getLast?_append, getLast?_renderAttributes _ hattrs, Option.some_or] at hlast
      cases hlast

theorem lowered_plain {name : String} (hname : name ∈ plainNames) : lowered name = name := by
  rw [lowered, (safeTagName hname).lower_eq, String.ofList_toList]

-- The start tag of an element is found where it stands.
theorem opensTag_plain {source rest : List Char} {start : Nat} {name : String}
    (hname : name ∈ plainNames) (attrs : PlainAttributes)
    (h : source.drop start = renderOpen name attrs ++ rest) :
    OpensTag source name start name.toList (renderAttributes attrs.list ++ '>' :: rest) := by
  have hsafe := safeTagName hname
  obtain ⟨c, cs, hcons, -⟩ := hsafe.exists_cons
  refine ⟨?_, by simp [hcons], hsafe.openChars,
    stops_renderAttributes _ attrs.list rest (by decide) (by decide), ?_⟩
  · rw [h]
    simp [renderOpen]
  · rw [lowered, hsafe.lower_eq]

-- The start tag ends where its text ends.
theorem startTagEnd_plain {source rest : List Char} {start : Nat} {name : String}
    (attrs : PlainAttributes) (h : source.drop start = renderOpen name attrs ++ rest) :
    startTagEnd source (attributeRanges 0 (start + 1 + name.toList.length)
        (renderAttributes attrs.list ++ '>' :: rest)).2 =
      start + (renderOpen name attrs).length := by
  have hsplit : source.drop start = ('<' :: (name.toList ++ renderAttributes attrs.list)) ++
      '>' :: rest := by
    rw [h]
    simp [renderOpen]
  have hdrop := drop_add_of_drop hsplit
  have hlast : start + ('<' :: (name.toList ++ renderAttributes attrs.list)).length =
      start + 1 + name.toList.length + (renderAttributes attrs.list).length := by
    simp only [List.length_cons, List.length_append]
    omega
  rw [hlast, ← List.nil_append ('>' :: rest)] at hdrop
  rw [attributeRanges_plain, startTagEnd_of_run hdrop List.not_mem_nil]
  simp only [renderOpen, List.length_cons, List.length_append, List.length_nil]
  omega

-- A start tag that does not end with a slash is not the whole element.
theorem slice_plain_ne {source rest : List Char} {start : Nat} {name : String}
    (hname : name ∈ plainNames) (attrs : PlainAttributes)
    (h : source.drop start = renderOpen name attrs ++ rest) :
    (slice (start + (renderOpen name attrs).length - 2) (start + (renderOpen name attrs).length)
      source == ['/', '>']) = false := by
  obtain ⟨front, last, hopen, hslash⟩ := exists_renderOpen hname attrs
  have hlength : (renderOpen name attrs).length = front.length + 2 := by
    rw [hopen, List.length_append]
    rfl
  have hdrop : source.drop (start + front.length) = [last, '>'] ++ rest :=
    drop_add_of_drop (by rw [h, hopen, List.append_assoc])
  have hslice := slice_of_drop hdrop
  have hlow : start + (front.length + 2) - 2 = start + front.length := by omega
  rw [hlength, hlow]
  rw [List.length_cons, List.length_singleton, Nat.add_assoc] at hslice
  rw [hslice]
  simpa using hslash

/-! ## The end of an element -/

theorem flatEnd?_plain (name : String) {content : List Char} (hlt : '<' ∉ content)
    (rest : List Char) (offset : Nat) :
    flatEnd? name.toList offset (content ++ (renderClose name ++ rest)) =
      some (offset + (content ++ renderClose name).length) := by
  induction content generalizing offset with
  | nil =>
    have htag : flatTag? name.toList (renderClose name ++ rest) = some rest :=
      flatTag?_eq_some_iff.2 ⟨name.toList, [], by simp [renderClose], SameWord.refl _, by simp⟩
    have hconsumed := consumed_append (renderClose name) rest
    simp only [renderClose, List.cons_append, consumed] at htag hconsumed ⊢
    rw [List.nil_append, flatEnd?, htag]
    simp only [hconsumed, List.nil_append]
  | cons c content ih =>
    rw [List.mem_cons, not_or] at hlt
    have htag : flatTag? name.toList (c :: (content ++ (renderClose name ++ rest))) = none := by
      rw [Option.eq_none_iff_forall_ne_some]
      intro after hafter
      obtain ⟨found, blanks, heq, -⟩ := flatTag?_eq_some_iff.1 hafter
      exact hlt.1 (List.cons.inj heq).1.symm
    rw [List.cons_append, flatEnd?, htag]
    simp only [ih hlt.2, List.cons_append, List.length_cons, Option.some.injEq]
    omega

theorem nestedEnd?_skip (name run rest : List Char) (depth offset : Nat) :
    nestedEnd? name run.length depth offset (run ++ rest) =
      nestedEnd? name 0 depth (offset + run.length) rest := by
  induction run generalizing offset with
  | nil => rfl
  | cons c run ih =>
    rw [List.length_cons, List.cons_append, nestedEnd?, ih]
    congr 1
    omega

-- The search passes over a text in which no tag opens.
theorem nestedEnd?_run {name run : List Char} (rest : List Char) (depth offset : Nat)
    (hrun : '<' ∉ run) :
    nestedEnd? name 0 depth offset (run ++ rest) =
      nestedEnd? name 0 depth (offset + run.length) rest := by
  induction run generalizing offset with
  | nil => rfl
  | cons c run ih =>
    rw [List.mem_cons, not_or] at hrun
    have htag : nestedTag? name (c :: (run ++ rest)) = none := by
      cases hfound : nestedTag? name (c :: (run ++ rest)) with
      | none => rfl
      | some found =>
        rcases nestedTag?_cases hfound with ⟨_, _, heq, -⟩ | ⟨_, _, heq, -⟩
        · exact absurd (List.cons.inj heq).1.symm hrun.1
        · exact absurd (List.cons.inj heq).1.symm hrun.1
    rw [List.cons_append, nestedEnd?_other depth offset htag, ih _ hrun.2, List.length_cons]
    congr 1
    omega

-- The search counts a tag and goes on behind it.
theorem nestedEnd?_step {name piece rest : List Char} {depth depth' : Nat} {nesting : Nesting}
    (offset : Nat) (h : nestedTag? name (piece ++ rest) = some (nesting, piece.length))
    (hdepth : nesting.depthAfter depth = some depth') :
    nestedEnd? name 0 depth offset (piece ++ rest) =
      nestedEnd? name 0 depth' (offset + piece.length) rest := by
  cases piece with
  | nil => exact absurd (nestedTag?_bounds h).1 (by simp)
  | cons c piece =>
    rw [List.cons_append] at h ⊢
    rw [nestedEnd?_tag offset h hdepth, List.length_cons, Nat.add_sub_cancel, nestedEnd?_skip]
    congr 1
    omega

/-- Elements that are searched with regard to nesting. -/
def nestedNames : List String := "head" :: groupNames

/-- Whether two words differ at a place that both have, case ignored. -/
def differ (word other : List Char) : Bool :=
  (word.zip other).any fun pair => !sameLetter pair.1 pair.2

theorem dropWord_of_differ {word other : List Char} (h : differ word other = true)
    (rest : List Char) : dropWord word (other ++ rest) = none := by
  induction word generalizing other with
  | nil => simp [differ] at h
  | cons a word ih =>
    cases other with
    | nil => simp [differ] at h
    | cons c other =>
      rw [List.cons_append, dropWord]
      split
      · rename_i hsame
        apply ih
        simpa [differ, hsame] using h
      · rfl

theorem differ_plain : ∀ name ∈ nestedNames, ∀ other ∈ plainNames,
    name ≠ other → differ name.toList other.toList = true := by
  decide +kernel

theorem head?_plain {name : String} (hname : name ∈ plainNames) (rest : List Char) :
    (name.toList ++ rest).head? ≠ some '/' := by
  obtain ⟨c, cs, hcons, hc⟩ := (safeTagName hname).exists_cons
  rw [hcons]
  intro hslash
  rw [Option.some.inj hslash] at hc
  revert hc
  decide

theorem tagInside?_other {name other : String} (hname : name ∈ nestedNames)
    (hother : other ∈ plainNames) (hne : name ≠ other) (rest : List Char) :
    tagInside? name.toList (other.toList ++ rest) = none := by
  rw [tagInside?, dropWord_of_differ (differ_plain name hname other hother hne)]
  rfl

theorem not_mem_renderAttributes {c : Char} (hc : c = '<' ∨ c = '>')
    (attrs : List PlainAttribute) : c ∉ renderAttributes attrs := by
  induction attrs with
  | nil => simp [renderAttributes]
  | cons a attrs ih =>
    have hvalue := a.not_mem_value
    intro hmem
    rcases hc with rfl | rfl
    · have hname : '<' ∉ a.name.toList := fun h => (a.safe h).2.2.2.1 rfl
      simp [renderAttributes, PlainAttribute.body, hname, hvalue, ih] at hmem
    · have hname : '>' ∉ a.name.toList := fun h => (a.safe h).2.2.2.2 rfl
      simp [renderAttributes, PlainAttribute.body, hname, hvalue, ih] at hmem

theorem not_mem_renderOpen {name : String} (hname : name ∈ plainNames) (attrs : PlainAttributes) :
    '<' ∉ name.toList ++ (renderAttributes attrs.list ++ ['>']) := by
  have hattrs := not_mem_renderAttributes (.inl rfl) attrs.list
  simp [(safeTagName hname).no_lt, hattrs]

-- Only where the name reads on does a tag count.
theorem nestedTag?_eq_none {name rest : List Char} (hslash : rest.head? ≠ some '/')
    (h : tagInside? name rest = none) : nestedTag? name ('<' :: rest) = none := by
  cases hfound : nestedTag? name ('<' :: rest) with
  | none => rfl
  | some found =>
    rcases nestedTag?_cases hfound with
      ⟨rest', inside, heq, -⟩ | ⟨rest', inside, heq, -, hinside, -⟩
    · rw [(List.cons.inj heq).2] at hslash
      exact absurd rfl hslash
    · rw [← (List.cons.inj heq).2, h] at hinside
      cases hinside

-- The search passes over a tag that does not count.
theorem nestedEnd?_pass {name run rest : List Char} (depth offset : Nat) (hrun : '<' ∉ run)
    (htag : nestedTag? name ('<' :: (run ++ rest)) = none) :
    nestedEnd? name 0 depth offset ('<' :: (run ++ rest)) =
      nestedEnd? name 0 depth (offset + ('<' :: run).length) rest := by
  rw [nestedEnd?_other depth offset htag, nestedEnd?_run rest depth _ hrun, List.length_cons]
  congr 1
  omega

theorem nestedEnd?_renderOpen_other {name other : String} (hname : name ∈ nestedNames)
    (hother : other ∈ plainNames) (hne : name ≠ other) (attrs : PlainAttributes)
    (rest : List Char) (depth offset : Nat) :
    nestedEnd? name.toList 0 depth offset (renderOpen other attrs ++ rest) =
      nestedEnd? name.toList 0 depth (offset + (renderOpen other attrs).length) rest := by
  apply nestedEnd?_pass depth offset (not_mem_renderOpen hother attrs)
  rw [List.append_assoc]
  exact nestedTag?_eq_none (head?_plain hother _) (tagInside?_other hname hother hne _)

theorem nestedEnd?_renderClose_other {name other : String} (hname : name ∈ nestedNames)
    (hother : other ∈ plainNames) (hne : name ≠ other) (rest : List Char) (depth offset : Nat) :
    nestedEnd? name.toList 0 depth offset (renderClose other ++ rest) =
      nestedEnd? name.toList 0 depth (offset + (renderClose other).length) rest := by
  have hrun : '<' ∉ '/' :: (other.toList ++ ['>']) := by simp [(safeTagName hother).no_lt]
  apply nestedEnd?_pass depth offset hrun
  rw [List.cons_append, List.append_assoc, nestedTag?, tagInside?_other hname hother hne]
  rfl

-- A start tag of the name itself adds to the depth.
theorem nestedEnd?_renderOpen_same {name : String} (hname : name ∈ plainNames)
    (attrs : PlainAttributes) (rest : List Char) (depth offset : Nat) :
    nestedEnd? name.toList 0 depth offset (renderOpen name attrs ++ rest) =
      nestedEnd? name.toList 0 (depth + 1) (offset + (renderOpen name attrs).length) rest := by
  have hinside : tagInside? name.toList
      (name.toList ++ (renderAttributes attrs.list ++ ['>']) ++ rest) =
        some (renderAttributes attrs.list) := by
    refine tagInside?_eq_some_iff.2 ⟨name.toList, rest, by simp, SameWord.refl _,
      not_mem_renderAttributes (.inr rfl) _, ?_⟩
    intro c hc
    cases hattrs : attrs.list with
    | nil => rw [hattrs] at hc; cases hc
    | cons a more =>
      rw [hattrs] at hc
      rw [← Option.some.inj hc]
      decide
  -- It is no self-closing tag: attributes end with a quote.
  have hlast : ((renderAttributes attrs.list).getLast? == some '/') = false := by
    by_cases hattrs : attrs.list = []
    · rw [hattrs]
      rfl
    · rw [getLast?_renderAttributes _ hattrs]
      decide
  have htag := nestedTag?_startTag
    (by rw [List.append_assoc]; exact head?_plain hname _) hinside
  have hlength : name.toList.length + (renderAttributes attrs.list).length + 2 =
      (renderOpen name attrs).length := by
    simp only [renderOpen, List.length_cons, List.length_append, List.length_nil]
    omega
  rw [hlast, if_neg Bool.false_ne_true, hlength] at htag
  exact nestedEnd?_step offset htag rfl

theorem nestedTag?_renderClose (name : String) (rest : List Char) :
    nestedTag? name.toList (renderClose name ++ rest) =
      some (.closes, (renderClose name).length) := by
  have hinside : tagInside? name.toList (name.toList ++ ['>'] ++ rest) = some [] :=
    tagInside?_eq_some_iff.2 ⟨name.toList, rest, by simp, SameWord.refl _, by simp, by simp⟩
  have htag := nestedTag?_endTag hinside
  have hlength : name.toList.length + ([] : List Char).length + 3 = (renderClose name).length := by
    simp only [renderClose, List.length_cons, List.length_append, List.length_nil]
  rwa [hlength] at htag

theorem nestedNames_ne :
    ∀ name ∈ nestedNames, ∀ other ∈ singleNames ++ wordingNames, name ≠ other := by
  decide

-- An end tag of the name itself that does not end the search takes from the depth.
theorem nestedEnd?_renderClose_same (name : String) (rest : List Char) {depth : Nat}
    (hdepth : 1 ≤ depth) (offset : Nat) :
    nestedEnd? name.toList 0 (depth + 1) offset (renderClose name ++ rest) =
      nestedEnd? name.toList 0 depth (offset + (renderClose name).length) rest := by
  have hafter : Nesting.closes.depthAfter (depth + 1) = some depth := by
    rw [Nesting.depthAfter, if_neg (by omega), Nat.add_sub_cancel]
  exact nestedEnd?_step offset (nestedTag?_renderClose name rest) hafter

/-- The tags within a tree are balanced, so the search passes over all of them. -/
theorem Forest.nestedEnd?_render (forest : Forest) {name : String} (hname : name ∈ nestedNames)
    (rest : List Char) {depth : Nat} (hdepth : 1 ≤ depth) (offset : Nat) :
    nestedEnd? name.toList 0 depth offset (forest.render ++ rest) =
      nestedEnd? name.toList 0 depth (offset + forest.render.length) rest := by
  have hgap : ∀ (gap : Gap) (rest : List Char) (depth offset : Nat),
      nestedEnd? name.toList 0 depth offset (gap.text ++ rest) =
        nestedEnd? name.toList 0 depth (offset + gap.text.length) rest :=
    fun gap rest depth offset => nestedEnd?_run rest depth offset (gap.not_mem (by decide))
  induction forest generalizing rest depth offset with
  | done gap => exact hgap gap rest depth offset
  | single gap tag attrs more ih =>
    have hne := nestedNames_ne name hname tag.name (by simp [tag.mem])
    rw [Forest.render, List.append_assoc, List.append_assoc, hgap,
      nestedEnd?_renderOpen_other hname (mem_plainNames_of_single tag.mem) hne, ih _ hdepth]
    simp only [List.length_append, Nat.add_assoc]
  | wording gap tag attrs content more ih =>
    have hother := mem_plainNames_of_wording tag.mem
    have hne := nestedNames_ne name hname tag.name (by simp [tag.mem])
    simp only [Forest.render, renderAround, List.append_assoc]
    rw [hgap, nestedEnd?_renderOpen_other hname hother hne, nestedEnd?_run _ _ _ content.no_lt,
      nestedEnd?_renderClose_other hname hother hne, ih _ hdepth]
    simp only [List.length_append, Nat.add_assoc]
  | group gap tag attrs inner more ihInner ihMore =>
    have hother := mem_plainNames_of_group tag.mem
    simp only [Forest.render, renderAround, List.append_assoc]
    by_cases hne : name = tag.name
    -- The depth is one more within the group and the same behind it.
    · subst hne
      rw [hgap, nestedEnd?_renderOpen_same hother, ihInner _ (by omega),
        nestedEnd?_renderClose_same _ _ hdepth, ihMore _ hdepth]
      simp only [List.length_append, Nat.add_assoc]
    · rw [hgap, nestedEnd?_renderOpen_other hname hother hne, ihInner _ hdepth,
        nestedEnd?_renderClose_other hname hother hne, ihMore _ hdepth]
      simp only [List.length_append, Nat.add_assoc]

/-! ## Whole elements -/

theorem elementEnd_single {source rest : List Char} {start : Nat} (tag : PlainTag singleNames)
    (attrs : PlainAttributes) (h : source.drop start = renderOpen tag.name attrs ++ rest) :
    extentEnd source tag.name (start + 1 + tag.name.toList.length)
        (renderAttributes attrs.list ++ '>' :: rest) =
      start + (renderOpen tag.name attrs).length := by
  have hsingle : ∀ name ∈ singleNames, standaloneTags.contains name = true := by decide
  rw [extentEnd, startTagEnd_plain attrs h, lowered_plain (mem_plainNames_of_single tag.mem),
    elementEnd, hsingle tag.name tag.mem, Bool.true_or, if_pos rfl]

theorem elementEnd_wording {source rest : List Char} {start : Nat} (tag : PlainTag wordingNames)
    (attrs : PlainAttributes) (content : PlainText)
    (h : source.drop start = renderAround tag.name attrs content.text ++ rest) :
    extentEnd source tag.name (start + 1 + tag.name.toList.length)
        (renderAttributes attrs.list ++ '>' :: (content.text ++ (renderClose tag.name ++ rest))) =
      start + (renderAround tag.name attrs content.text).length := by
  have hname := mem_plainNames_of_wording tag.mem
  have hwording : ∀ name ∈ wordingNames,
      standaloneTags.contains name = false ∧ flatTags.contains name = true := by decide
  have hopen : source.drop start =
      renderOpen tag.name attrs ++ (content.text ++ (renderClose tag.name ++ rest)) := by
    rw [h]
    simp [renderAround]
  rw [extentEnd, startTagEnd_plain attrs hopen, lowered_plain hname, elementEnd,
    (hwording tag.name tag.mem).1, slice_plain_ne hname attrs hopen, Bool.false_or,
    if_neg Bool.false_ne_true, if_pos (hwording tag.name tag.mem).2, drop_add_of_drop hopen,
    flatEnd?_plain _ content.no_lt, Option.getD_some]
  simp only [renderAround, List.length_append, Nat.add_assoc]

theorem elementEnd_group {source rest : List Char} {start : Nat} {name : String}
    (hname : name ∈ nestedNames) (attrs : PlainAttributes) (inner : Forest)
    (h : source.drop start = renderAround name attrs inner.render ++ rest) :
    extentEnd source name (start + 1 + name.toList.length)
        (renderAttributes attrs.list ++ '>' :: (inner.render ++ (renderClose name ++ rest))) =
      start + (renderAround name attrs inner.render).length := by
  have hnested : ∀ name ∈ nestedNames, name ∈ plainNames ∧
      standaloneTags.contains name = false ∧ flatTags.contains name = false := by decide
  obtain ⟨hplain, hstandalone, hflat⟩ := hnested name hname
  have hopen : source.drop start =
      renderOpen name attrs ++ (inner.render ++ (renderClose name ++ rest)) := by
    rw [h]
    simp [renderAround]
  have hend : ∀ offset, nestedEnd? name.toList 0 1 offset (renderClose name ++ rest) =
      some (offset + (renderClose name).length) :=
    fun offset => nestedEnd?_last offset (nestedTag?_renderClose name rest) rfl
  rw [extentEnd, startTagEnd_plain attrs hopen, lowered_plain hplain, elementEnd, hstandalone,
    slice_plain_ne hplain attrs hopen, Bool.false_or, if_neg Bool.false_ne_true, hflat,
    if_neg Bool.false_ne_true, drop_add_of_drop hopen, inner.nestedEnd?_render hname _ le_rfl,
    hend, Option.getD_some]
  simp only [renderAround, List.length_append, Nat.add_assoc]

end HeadLint.Markup
