import HeadLint.Markup.Locate
import HeadLint.Proofs.Markup.Reading

/-!
Plain heads: trees of the elements that belong in a head, and their text.  Every part carries what
makes its text unambiguous, so the text of any tree reads back as that tree.
-/

namespace HeadLint.Markup

open Text

/-- A tag with one of the given names. -/
structure PlainTag (names : List String) where
  name : String
  mem : name ∈ names

/-- Elements without content. -/
def singleNames : List String := ["meta", "link", "base"]

/-- Elements that hold text only. -/
def wordingNames : List String := ["title", "script", "style"]

/-- Elements that hold other elements. -/
def groupNames : List String := ["div", "noscript", "template"]

/-- All names that occur in a plain head, its own included. -/
def plainNames : List String := "head" :: (singleNames ++ wordingNames ++ groupNames)

/-- Small letters and hyphens. -/
def isPlainNameChar (c : Char) : Bool :=
  (97 ≤ c.toNat && c.toNat ≤ 122) || c == '-'

/-- What needs no reference in a value between double quotes, nor looks like a tag. -/
def isPlainValueChar (c : Char) : Bool :=
  c != '"' && c != '&' && c != '<' && c != '>'

/-- An attribute with a plain name and a plain value. -/
structure PlainAttribute where
  name : String
  value : String
  name_ne_nil : name.toList ≠ []
  name_chars : ∀ c ∈ name.toList, isPlainNameChar c = true
  value_chars : ∀ c ∈ value.toList, isPlainValueChar c = true

/-- Attributes with distinct names. -/
structure PlainAttributes where
  list : List PlainAttribute
  nodup : (list.map (·.name)).Nodup

/-- No attributes. -/
def PlainAttributes.none : PlainAttributes := ⟨[], List.nodup_nil⟩

/-- White space between elements. -/
structure Gap where
  text : List Char
  chars : ∀ c ∈ text, c = ' ' ∨ c = '\t' ∨ c = '\n'

/-- Text without markup. -/
structure PlainText where
  text : List Char
  no_lt : '<' ∉ text
  no_amp : '&' ∉ text

/-- The content of a head or of a group: elements in order, each with the white space before it, and
the white space at the end. -/
inductive Forest where
  | done (gap : Gap)
  | single (gap : Gap) (tag : PlainTag singleNames) (attrs : PlainAttributes) (rest : Forest)
  | wording (gap : Gap) (tag : PlainTag wordingNames) (attrs : PlainAttributes)
      (content : PlainText) (rest : Forest)
  | group (gap : Gap) (tag : PlainTag groupNames) (attrs : PlainAttributes) (inner rest : Forest)

/-! ## The text of a tree -/

/-- An attribute without the space before it. -/
def PlainAttribute.body (a : PlainAttribute) : List Char :=
  a.name.toList ++ '=' :: '"' :: (a.value.toList ++ ['"'])

/-- Attributes, each behind a space. -/
def renderAttributes : List PlainAttribute → List Char
  | [] => []
  | a :: rest => ' ' :: (a.body ++ renderAttributes rest)

/-- A start tag. -/
def renderOpen (name : String) (attrs : PlainAttributes) : List Char :=
  '<' :: (name.toList ++ (renderAttributes attrs.list ++ ['>']))

/-- An end tag. -/
def renderClose (name : String) : List Char :=
  '<' :: '/' :: (name.toList ++ ['>'])

/-- An element around its content. -/
def renderAround (name : String) (attrs : PlainAttributes) (content : List Char) : List Char :=
  renderOpen name attrs ++ (content ++ renderClose name)

/-- The content of a head or of a group. -/
def Forest.render : Forest → List Char
  | .done gap => gap.text
  | .single gap tag attrs rest => gap.text ++ (renderOpen tag.name attrs ++ rest.render)
  | .wording gap tag attrs content rest =>
    gap.text ++ (renderAround tag.name attrs content.text ++ rest.render)
  | .group gap tag attrs inner rest =>
    gap.text ++ (renderAround tag.name attrs inner.render ++ rest.render)

/-- A head with its content. -/
def Forest.renderHead (forest : Forest) : List Char :=
  renderAround "head" .none forest.render

/-! ## Characters of plain names and values -/

theorem forall_ascii {p : Char → Bool} (h : ∀ n < 128, p (Char.ofNat n) = true) {c : Char}
    (hc : c.toNat < 128) : p c = true := by
  have hchar := h c.toNat hc
  rwa [Char.ofNat_toNat] at hchar

theorem lt_of_isPlainNameChar {c : Char} (h : isPlainNameChar c = true) : c.toNat < 128 := by
  simp only [isPlainNameChar, Bool.or_eq_true, Bool.and_eq_true, decide_eq_true_eq,
    beq_iff_eq] at h
  rcases h with h | rfl
  · omega
  · decide

/-- What the readers of tags ask of the characters of an attribute name. -/
def isSafeNameChar (c : Char) : Bool :=
  canStartName c && canContinueName c && isAttrNameChar c && c != '<' && c != '>'

theorem isSafeNameChar_of_plain {c : Char} (h : isPlainNameChar c = true) :
    isSafeNameChar c = true := by
  have hsafe := forall_ascii (p := fun c => !isPlainNameChar c || isSafeNameChar c)
    (by decide +kernel) (lt_of_isPlainNameChar h)
  rwa [h, Bool.not_true, Bool.false_or] at hsafe

theorem PlainAttribute.safe (a : PlainAttribute) {c : Char} (hc : c ∈ a.name.toList) :
    canStartName c = true ∧ canContinueName c = true ∧ isAttrNameChar c = true ∧ c ≠ '<' ∧
      c ≠ '>' := by
  have hsafe := isSafeNameChar_of_plain (a.name_chars c hc)
  simp only [isSafeNameChar, Bool.and_eq_true, bne_iff_ne, ne_eq] at hsafe
  tauto

theorem PlainAttribute.lower_name (a : PlainAttribute) : lower a.name.toList = a.name.toList := by
  apply lower_eq_self
  intro c hc
  have hplain := a.name_chars c hc
  refine ⟨lt_of_isPlainNameChar hplain, ?_⟩
  simp only [isPlainNameChar, Bool.or_eq_true, Bool.and_eq_true, decide_eq_true_eq,
    beq_iff_eq] at hplain
  rcases hplain with hletter | rfl
  · omega
  · decide

theorem PlainAttribute.not_mem_value (a : PlainAttribute) :
    '"' ∉ a.value.toList ∧ '&' ∉ a.value.toList ∧ '<' ∉ a.value.toList ∧
      '>' ∉ a.value.toList := by
  refine ⟨?_, ?_, ?_, ?_⟩ <;>
  · intro hmem
    have hplain := a.value_chars _ hmem
    revert hplain
    decide

/-! ## Reading a start tag -/

/-- The text of attributes without the space at its start. -/
def attributesBody (attrs : List PlainAttribute) : List Char :=
  (renderAttributes attrs).drop 1

/-- The space at the start of the text of attributes, if there are any. -/
def attributesSpace (attrs : List PlainAttribute) : List Char :=
  (renderAttributes attrs).take 1

theorem attributesSpace_append (attrs : List PlainAttribute) :
    attributesSpace attrs ++ attributesBody attrs = renderAttributes attrs :=
  List.take_append_drop 1 _

theorem PlainAttribute.exists_cons (a : PlainAttribute) :
    ∃ c cs, a.name.toList = c :: cs := by
  cases h : a.name.toList with
  | nil => exact absurd h a.name_ne_nil
  | cons c cs => exact ⟨c, cs, rfl⟩

-- The gap before attributes, or before the end of the tag, is the space at their start.
theorem skipGap_renderAttributes (attrs : List PlainAttribute) (rest : List Char) :
    skipGap (renderAttributes attrs ++ '>' :: rest) = attributesBody attrs ++ '>' :: rest := by
  have hstop : ∀ {c : Char} (s : List Char), canStartName c = true → skipGap (c :: s) = c :: s := by
    intro c s hc
    simp only [canStartName, Bool.not_eq_true', Bool.or_eq_false_iff, beq_eq_false_iff_ne] at hc
    rw [skipGap, if_neg (by simp [hc.1.1, hc.1.2])]
  cases attrs with
  | nil => rfl
  | cons a attrs =>
    obtain ⟨c, cs, hname⟩ := a.exists_cons
    have hc := a.safe (c := c) (by rw [hname]; exact List.mem_cons_self ..)
    have hblank : isBlank ' ' = true := by decide
    simp only [attributesBody, renderAttributes, PlainAttribute.body, hname, List.drop_succ_cons,
      List.drop_zero, List.cons_append]
    rw [skipGap, hblank, Bool.true_or, if_pos rfl, hstop _ hc.1]

theorem readValue_plain (a : PlainAttribute) (rest : List Char) :
    readValue ('=' :: '"' :: (a.value.toList ++ '"' :: rest)) = (some a.value.toList, rest) := by
  have hcut : cutFirst '"' (a.value.toList ++ '"' :: rest) = (a.value.toList, some rest) :=
    cutFirst_eq_some_iff.2 ⟨rfl, a.not_mem_value.1⟩
  have htrim : ∀ {c : Char} (s : List Char), isBlank c = false → trimStart (c :: s) = c :: s := by
    intro c s hc
    rw [trimStart, List.dropWhile_cons_of_neg (by simp [hc])]
  have hquote : isBlank '"' = false := by decide
  have hequals : isBlank '=' = false := by decide
  simp [readValue, htrim _ hequals, htrim _ hquote, hcut]

theorem readAttribute_plain (a : PlainAttribute) (attrs : List PlainAttribute)
    (rest : List Char) :
    readAttribute (a.body ++ (renderAttributes attrs ++ '>' :: rest)) =
      ((a.name.toList, some a.value.toList), attributesBody attrs ++ '>' :: rest) := by
  obtain ⟨c, cs, hname⟩ := a.exists_cons
  have hcs : ∀ d ∈ cs, canContinueName d = true := by
    intro d hd
    exact (a.safe (by rw [hname]; exact List.mem_cons_of_mem _ hd)).2.1
  have hequals : Stops canContinueName
      ('=' :: '"' :: (a.value.toList ++ '"' :: (renderAttributes attrs ++ '>' :: rest))) :=
    stops_cons.2 (by decide)
  have htext : a.body ++ (renderAttributes attrs ++ '>' :: rest) = c :: (cs ++
      '=' :: '"' :: (a.value.toList ++ '"' :: (renderAttributes attrs ++ '>' :: rest))) := by
    simp [PlainAttribute.body, hname]
  rw [htext]
  simp only [readAttribute, List.take_succ_cons, List.take_zero, List.drop_succ_cons,
    List.drop_zero, takeWhile_run hcs hequals, dropWhile_run hcs hequals, readValue_plain,
    skipGap_renderAttributes, hname, List.singleton_append]

-- The attributes of a tag are read one after the other, up to the end of the tag.
theorem readAttributes_plain (attrs : List PlainAttribute) (rest : List Char) {previous : Char}
    (hprevious : canPrecedeName previous = true) :
    readAttributes 0 previous (attributesBody attrs ++ '>' :: rest) =
      (attrs.map fun a => (a.name.toList, some a.value.toList), '>' :: rest) := by
  induction attrs generalizing previous with
  | nil =>
    have hend : canStartName '>' = false := by decide
    simp [attributesBody, renderAttributes, readAttributes, hend]
  | cons a attrs ih =>
    obtain ⟨c, cs, hname⟩ := a.exists_cons
    have hc := (a.safe (c := c) (by rw [hname]; exact List.mem_cons_self ..)).1
    -- The piece that is read ends with the closing quote and the space behind it.
    have hpiece : attributesBody (a :: attrs) ++ '>' :: rest =
        c :: ((cs ++ '=' :: '"' :: (a.value.toList ++ '"' :: attributesSpace attrs)) ++
          (attributesBody attrs ++ '>' :: rest)) := by
      have hbody : attributesBody (a :: attrs) = a.body ++ renderAttributes attrs := rfl
      rw [hbody, ← attributesSpace_append attrs]
      simp [PlainAttribute.body, hname]
    have hread : readAttribute (c :: ((cs ++ '=' :: '"' :: (a.value.toList ++
        '"' :: attributesSpace attrs)) ++ (attributesBody attrs ++ '>' :: rest))) =
        ((a.name.toList, some a.value.toList), attributesBody attrs ++ '>' :: rest) := by
      rw [← hpiece, ← readAttribute_plain]
      simp [attributesBody, renderAttributes]
    have hlast : canPrecedeName ((c :: (cs ++ '=' :: '"' :: (a.value.toList ++
        '"' :: attributesSpace attrs))).getLast (List.cons_ne_nil _ _)) = true := by
      cases attrs with
      | nil => simp [attributesSpace, renderAttributes, canPrecedeName]
      | cons b attrs =>
        have hblank : canPrecedeName ' ' = true := by decide
        simp [attributesSpace, renderAttributes, hblank]
    rw [hpiece, readAttributes_step hprevious hc hread, ih hlast, List.map_cons]

/-- What the readers of tags ask of an element name. -/
def isSafeTagName (name : String) : Bool :=
  lower name.toList == name.toList && name.toList.head?.any isAsciiLetter &&
    name.toList.all fun c => isTagNameChar c && isEndNameChar c && isOpenNameChar c && c != '<'

theorem isSafeTagName_of_plain : ∀ name ∈ plainNames, isSafeTagName name = true := by
  decide +kernel

/-- The parts of `isSafeTagName`. -/
structure SafeTagName (name : String) : Prop where
  lower_eq : lower name.toList = name.toList
  exists_cons : ∃ c cs, name.toList = c :: cs ∧ isAsciiLetter c = true
  tagChars : ∀ c ∈ name.toList, isTagNameChar c = true
  endChars : ∀ c ∈ name.toList, isEndNameChar c = true
  openChars : ∀ c ∈ name.toList, isOpenNameChar c = true
  no_lt : '<' ∉ name.toList

theorem safeTagName {name : String} (hname : name ∈ plainNames) : SafeTagName name := by
  have hsafe := isSafeTagName_of_plain name hname
  simp only [isSafeTagName, Bool.and_eq_true, beq_iff_eq, List.all_eq_true] at hsafe
  obtain ⟨⟨hlower, hfirst⟩, hchars⟩ := hsafe
  refine ⟨hlower, ?_, fun c hc => (hchars c hc).1.1.1, fun c hc => (hchars c hc).1.1.2,
    fun c hc => (hchars c hc).1.2, fun hmem => ?_⟩
  · cases hlist : name.toList with
    | nil => rw [hlist] at hfirst; cases hfirst
    | cons c cs => exact ⟨c, cs, rfl, by simpa [hlist] using hfirst⟩
  · have hlt := (hchars '<' hmem).2
    revert hlt
    decide

theorem SafeTagName.trimStart_append {name : String} (h : SafeTagName name) (rest : List Char) :
    trimStart (name.toList ++ rest) = name.toList ++ rest := by
  obtain ⟨c, cs, hcons, -⟩ := h.exists_cons
  have hopen := h.openChars c (by rw [hcons]; exact List.mem_cons_self ..)
  simp only [isOpenNameChar, Bool.not_eq_true', Bool.or_eq_false_iff] at hopen
  rw [hcons, List.cons_append, trimStart, List.dropWhile_cons_of_neg (by simp [hopen.1.1])]

/-- The start tag that the text of a tag stands for. -/
def plainStartTag (name : String) (attrs : PlainAttributes) : StartTag :=
  ⟨name, attrs.list.map fun a => (a.name, some a.value), .plain⟩

theorem cookAttribute_plain (a : PlainAttribute) :
    cookAttribute (a.name.toList, some a.value.toList) = (a.name, some a.value) := by
  rw [cookAttribute, a.lower_name, Option.map_some, unescape_eq_self a.not_mem_value.2.1,
    String.ofList_toList, String.ofList_toList]

-- Behind the name of a tag come its attributes, and then its end.
theorem stops_renderAttributes (p : Char → Bool) (attrs : List PlainAttribute) (rest : List Char)
    (hspace : p ' ' = false) (hend : p '>' = false) :
    Stops p (renderAttributes attrs ++ '>' :: rest) := by
  cases attrs with
  | nil => exact stops_cons.2 hend
  | cons a attrs => exact stops_cons.2 hspace

theorem readStartTag?_plain {name : String} (hname : name ∈ plainNames) (attrs : PlainAttributes)
    (rest : List Char) :
    readStartTag? (name.toList ++ (renderAttributes attrs.list ++ '>' :: rest)) =
      some (.ok (plainStartTag name attrs), rest) := by
  have hsafe := safeTagName hname
  have hstops := stops_renderAttributes isTagNameChar attrs.list rest (by decide) (by decide)
  -- The character before the attributes matters only if there are any.
  have hattrs : ∀ previous, attrs.list = [] ∨ canPrecedeName previous = true →
      readAttributes 0 previous (attributesBody attrs.list ++ '>' :: rest) =
        (attrs.list.map fun a => (a.name.toList, some a.value.toList), '>' :: rest) := by
    rintro previous (hnil | hprevious)
    · rw [hnil]
      have hend : canStartName '>' = false := by decide
      simp [attributesBody, renderAttributes, readAttributes, hend]
    · exact readAttributes_plain attrs.list rest hprevious
  have hprevious : attrs.list = [] ∨ canPrecedeName
      (((name.toList ++ (renderAttributes attrs.list ++ '>' :: rest).take
        ((renderAttributes attrs.list ++ '>' :: rest).length -
          (attributesBody attrs.list ++ '>' :: rest).length)).getLast?).getD ' ') = true := by
    cases attrs.list with
    | nil => exact .inl rfl
    | cons a attrs =>
      right
      have hspace : canPrecedeName ' ' = true := by decide
      have hlength : (renderAttributes (a :: attrs) ++ '>' :: rest).length -
          (attributesBody (a :: attrs) ++ '>' :: rest).length = 1 := by
        simp only [attributesBody, renderAttributes, List.length_append, List.length_cons,
          List.drop_succ_cons, List.drop_zero]
        omega
      rw [hlength]
      simp [renderAttributes, hspace]
  have hoverflow : (attrs.list.map fun a => (a.name.toList, some a.value.toList)).findSome?
      (fun attr => attr.2.bind firstOverflow?) = none := by
    rw [List.findSome?_eq_none_iff]
    intro attr hattr
    obtain ⟨a, -, rfl⟩ := List.mem_map.1 hattr
    exact firstOverflow?_eq_none a.not_mem_value.2.1
  simp only [readStartTag?, takeWhile_run hsafe.tagChars hstops,
    dropWhile_run hsafe.tagChars hstops, skipGap_renderAttributes, hattrs _ hprevious, readTagEnd?,
    Option.map_some, hoverflow, hsafe.lower_eq, String.ofList_toList, plainStartTag]
  simp [Function.comp_def, cookAttribute_plain]

/-! ## The tokens of a tree -/

/-- Text between tags, if there is any. -/
def textTokens (s : List Char) : List Token :=
  if s.isEmpty then [] else [.text s]

/-- The content of an element that holds text; raw text is a token even if it is empty. -/
def wordingTokens (name : String) (s : List Char) : List Token :=
  if name ∈ rawTextTags then [.text s] else textTokens s

/-- The tokens of the content of a head or of a group that stands at `offset`. -/
def Forest.tokens (offset : Nat) : Forest → List Token
  | .done gap => textTokens gap.text
  | .single gap tag attrs rest =>
    let start := offset + gap.text.length
    textTokens gap.text ++ .startTag (plainStartTag tag.name attrs) start ::
      rest.tokens (start + (renderOpen tag.name attrs).length)
  | .wording gap tag attrs content rest =>
    let start := offset + gap.text.length
    textTokens gap.text ++ .startTag (plainStartTag tag.name attrs) start ::
      (wordingTokens tag.name content.text ++ .endTag tag.name ::
        rest.tokens (start + (renderAround tag.name attrs content.text).length))
  | .group gap tag attrs inner rest =>
    let start := offset + gap.text.length
    textTokens gap.text ++ .startTag (plainStartTag tag.name attrs) start ::
      (inner.tokens (start + (renderOpen tag.name attrs).length) ++ .endTag tag.name ::
        rest.tokens (start + (renderAround tag.name attrs inner.render).length))

theorem lexFrom_text {s rest : List Char} (hlt : '<' ∉ s) (hamp : '&' ∉ s)
    (hrest : rest.head? = some '<') (offset : Nat) :
    lexFrom 0 offset (.markup false) (s ++ rest) =
      (lexFrom 0 (offset + s.length) (.markup false) rest).map (textTokens s ++ ·) := by
  obtain ⟨rest, rfl⟩ := List.head?_eq_some_iff.1 hrest
  cases s with
  | nil =>
    have hid : ∀ r : Except Fault (List Token), r.map (textTokens [] ++ ·) = r := by
      intro r
      cases r <;> rfl
    rw [hid]
    rfl
  | cons c s =>
    apply lexFrom_found _ (List.cons_ne_nil _ _)
    -- The run of plain characters ends at the less-than sign that follows.
    have hrun : ∀ d ∈ c :: s, (d != '<' && d != '&') = true := by
      intro d hd
      simp only [Bool.and_eq_true, bne_iff_ne, ne_eq]
      exact ⟨fun h => hlt (h ▸ hd), fun h => hamp (h ▸ hd)⟩
    have htake : (c :: s ++ '<' :: rest).takeWhile (fun c => c != '<' && c != '&') = c :: s :=
      takeWhile_run hrun (stops_cons.2 (by decide))
    have hc := hrun c (List.mem_cons_self ..)
    simp only [Bool.and_eq_true, bne_iff_ne, ne_eq] at hc
    rw [List.cons_append] at htake ⊢
    rw [readToken, htake]
    · rfl
    · intro _ heq
      exact hc.1 (List.cons.inj heq).1
    · intro _ heq
      exact hc.2 (List.cons.inj heq).1
    · intro _ heq
      exact hc.2 (List.cons.inj heq).1

theorem lexFrom_renderOpen {name : String} (hname : name ∈ plainNames) (attrs : PlainAttributes)
    (rest : List Char) (offset : Nat) :
    lexFrom 0 offset (.markup false) (renderOpen name attrs ++ rest) =
      (lexFrom 0 (offset + (renderOpen name attrs).length)
        (modeAfter false [.startTag (plainStartTag name attrs) offset]) rest).map
        ([.startTag (plainStartTag name attrs) offset] ++ ·) := by
  obtain ⟨c, cs, hcons, hc⟩ := (safeTagName hname).exists_cons
  have hne : renderOpen name attrs ≠ [] := List.cons_ne_nil _ _
  apply lexFrom_found rest hne
  have htag := readStartTag?_plain hname attrs rest
  have htext : renderOpen name attrs ++ rest =
      '<' :: c :: (cs ++ (renderAttributes attrs.list ++ '>' :: rest)) := by
    simp [renderOpen, hcons]
  rw [hcons, List.cons_append] at htag
  rw [← consumed_append (renderOpen name attrs) rest, htext, readToken]
  exact readTag_startTag hc htag (by simp [plainStartTag])

theorem readProperEnd?_plain {name : String} (hname : name ∈ plainNames) (rest : List Char) :
    readProperEnd? (name.toList ++ '>' :: rest) = some (name, rest) := by
  have hsafe := safeTagName hname
  obtain ⟨c, cs, hcons, hc⟩ := hsafe.exists_cons
  have htrim := hsafe.trimStart_append ('>' :: rest)
  have hlower := hsafe.lower_eq
  have hcs : ∀ d ∈ cs, isEndNameChar d = true := by
    intro d hd
    exact hsafe.endChars d (by rw [hcons]; exact List.mem_cons_of_mem _ hd)
  have hend : Stops isEndNameChar ('>' :: rest) := stops_cons.2 (by decide)
  have hgt : trimStart ('>' :: rest) = '>' :: rest := rfl
  have hname' : String.ofList (c :: cs) = name := by rw [← hcons, String.ofList_toList]
  rw [hcons, List.cons_append] at htrim
  rw [hcons] at hlower ⊢
  simp only [readProperEnd?, List.cons_append, htrim, hc, if_true, dropWhile_run hcs hend, hgt,
    takeWhile_run hcs hend, hlower, hname']

theorem lexFrom_renderClose {name : String} (hname : name ∈ plainNames) (rest : List Char)
    (offset : Nat) :
    lexFrom 0 offset (.markup false) (renderClose name ++ rest) =
      (lexFrom 0 (offset + (renderClose name).length) (.markup false) rest).map
        ([.endTag name] ++ ·) := by
  have hne : renderClose name ≠ [] := List.cons_ne_nil _ _
  apply lexFrom_found rest hne
  have htext : renderClose name ++ rest = '<' :: '/' :: (name.toList ++ '>' :: rest) := by
    simp [renderClose]
  rw [← consumed_append (renderClose name) rest, htext, readToken]
  exact readTag_endTag (by simp) (readProperEnd?_plain hname rest)

theorem lexFrom_raw {name : String} (hname : name ∈ plainNames) (content : PlainText)
    (rest : List Char) (offset : Nat) :
    lexFrom 0 offset (.raw false name) (content.text ++ (renderClose name ++ rest)) =
      (lexFrom 0 (offset + (content.text ++ renderClose name).length) (.markup false) rest).map
        ([.text content.text, .endTag name] ++ ·) := by
  -- No end tag begins within the content, so the first one found is the right one.
  have hrun : ∀ c ∈ content.text, ∀ s, rawEnd? name.toList (c :: s) = none := by
    intro c hc s
    rw [rawEnd?]
    rintro tail heq
    exact content.no_lt ((List.cons.inj heq).1 ▸ hc)
  have hclose : renderClose name ++ rest = '<' :: '/' :: (name.toList ++ '>' :: rest) := by
    simp [renderClose]
  have hend : rawEnd? name.toList (renderClose name ++ rest) = some rest := by
    have hword : dropWord name.toList (name.toList ++ '>' :: rest) = some ('>' :: rest) :=
      dropWord_eq_some_iff.2 ⟨name.toList, rfl, SameWord.refl _⟩
    rw [hclose, rawEnd?, (safeTagName hname).trimStart_append, hword]
    rfl
  have hcut := cutWhere?_run hrun (by rw [hclose]; exact List.cons_ne_nil _ _) hend
  have hread : readRaw? name.toList (content.text ++ (renderClose name ++ rest)) =
      some ([.text content.text, .endTag name], true,
        (content.text ++ renderClose name).length) := by
    have hproper := readProperEnd?_plain hname rest
    have hlength := consumed_append (content.text ++ renderClose name) rest
    rw [List.append_assoc] at hlength
    have hbehind : ((content.text ++ (renderClose name ++ rest)).drop content.text.length).drop 2 =
        name.toList ++ '>' :: rest := by
      rw [List.drop_left, hclose]
      rfl
    rw [readRaw?, hcut, Option.map_some]
    simp only [hbehind, hlength, hproper]
  rw [← List.append_assoc]
  apply lexFrom_step rest (by simp [renderClose])
  rw [List.append_assoc, lexStep, hread]
  rfl

theorem head?_renderOpen (name : String) (attrs : PlainAttributes) (rest : List Char) :
    (renderOpen name attrs ++ rest).head? = some '<' := rfl

theorem head?_renderClose (name : String) (rest : List Char) :
    (renderClose name ++ rest).head? = some '<' := rfl

theorem mem_plainNames_of_single {name : String} (h : name ∈ singleNames) : name ∈ plainNames := by
  simp [plainNames, h]

theorem mem_plainNames_of_wording {name : String} (h : name ∈ wordingNames) :
    name ∈ plainNames := by
  simp [plainNames, h]

theorem mem_plainNames_of_group {name : String} (h : name ∈ groupNames) : name ∈ plainNames := by
  simp [plainNames, h]

theorem modeAfter_of_not_raw {name : String} (attrs : PlainAttributes) (offset : Nat)
    (h : name ∉ rawTextTags) :
    modeAfter false [.startTag (plainStartTag name attrs) offset] = .markup false := by
  simp [modeAfter, plainStartTag, h]

-- Elements in markup have no raw text.
theorem rawTextTags_of_markup :
    ∀ name ∈ "head" :: (singleNames ++ groupNames), name ∉ rawTextTags := by
  decide

theorem Gap.not_mem (gap : Gap) {c : Char} (hc : c ≠ ' ' ∧ c ≠ '\t' ∧ c ≠ '\n') :
    c ∉ gap.text := by
  intro hmem
  rcases gap.chars c hmem with h | h | h
  · exact hc.1 h
  · exact hc.2.1 h
  · exact hc.2.2 h

theorem lexFrom_gap (gap : Gap) {rest : List Char} (hrest : rest.head? = some '<')
    (offset : Nat) :
    lexFrom 0 offset (.markup false) (gap.text ++ rest) =
      (lexFrom 0 (offset + gap.text.length) (.markup false) rest).map
        (textTokens gap.text ++ ·) :=
  lexFrom_text (gap.not_mem (by decide)) (gap.not_mem (by decide)) hrest offset

-- An element that holds text, with its tags.
theorem lexFrom_wording (tag : PlainTag wordingNames) (attrs : PlainAttributes)
    (content : PlainText) (rest : List Char) (offset : Nat) :
    lexFrom 0 offset (.markup false) (renderAround tag.name attrs content.text ++ rest) =
      (lexFrom 0 (offset + (renderAround tag.name attrs content.text).length) (.markup false)
        rest).map
        ((.startTag (plainStartTag tag.name attrs) offset ::
          (wordingTokens tag.name content.text ++ [.endTag tag.name])) ++ ·) := by
  have hname := mem_plainNames_of_wording tag.mem
  have hlength : ∀ n : Nat, n + (renderOpen tag.name attrs).length +
      (content.text ++ renderClose tag.name).length =
        n + (renderAround tag.name attrs content.text).length := by
    intro n
    simp only [renderAround, List.length_append]
    omega
  rw [renderAround, List.append_assoc, lexFrom_renderOpen hname, List.append_assoc]
  by_cases hraw : tag.name ∈ rawTextTags
  · have hmode : modeAfter false [.startTag (plainStartTag tag.name attrs) offset] =
        .raw false tag.name := by
      simp [modeAfter, plainStartTag, hraw]
    rw [hmode, lexFrom_raw hname, map_append_map_append, hlength]
    simp [wordingTokens, hraw, renderAround]
  · rw [modeAfter_of_not_raw attrs offset hraw,
      lexFrom_text content.no_lt content.no_amp (head?_renderClose ..), lexFrom_renderClose hname,
      map_append_map_append, map_append_map_append, Nat.add_assoc _ content.text.length,
      ← List.length_append, hlength]
    simp [wordingTokens, hraw, renderAround]

/-- The text of the content of a head or of a group, in front of a tag, has the tokens of that
content. -/
theorem Forest.lexFrom_render (forest : Forest) {rest : List Char}
    (hrest : rest.head? = some '<') (offset : Nat) :
    lexFrom 0 offset (.markup false) (forest.render ++ rest) =
      (lexFrom 0 (offset + forest.render.length) (.markup false) rest).map
        (forest.tokens offset ++ ·) := by
  -- The rest stays free: within a group it is the end tag with all that follows.
  induction forest generalizing offset rest with
  | done gap => exact lexFrom_gap gap hrest offset
  | single gap tag attrs more ih =>
    have hname := mem_plainNames_of_single tag.mem
    have hraw := rawTextTags_of_markup tag.name (by simp [tag.mem])
    rw [Forest.render, List.append_assoc, List.append_assoc,
      lexFrom_gap gap (head?_renderOpen ..), lexFrom_renderOpen hname,
      modeAfter_of_not_raw attrs _ hraw, ih hrest, map_append_map_append, map_append_map_append]
    simp only [Forest.tokens, List.length_append, Nat.add_assoc, List.append_assoc,
      List.singleton_append]
  | wording gap tag attrs content more ih =>
    rw [Forest.render, List.append_assoc, List.append_assoc, lexFrom_gap gap rfl,
      lexFrom_wording, ih hrest, map_append_map_append, map_append_map_append]
    simp only [Forest.tokens, List.length_append, Nat.add_assoc, List.append_assoc,
      List.cons_append, List.nil_append]
  | group gap tag attrs inner more ihInner ihMore =>
    have hname := mem_plainNames_of_group tag.mem
    have hraw := rawTextTags_of_markup tag.name (by simp [tag.mem])
    rw [Forest.render, renderAround]
    simp only [List.append_assoc]
    rw [lexFrom_gap gap (head?_renderOpen ..), lexFrom_renderOpen hname,
      modeAfter_of_not_raw attrs _ hraw, ihInner (head?_renderClose ..), lexFrom_renderClose hname,
      ihMore hrest]
    repeat rw [map_append_map_append]
    simp only [Forest.tokens, renderAround, List.length_append, Nat.add_assoc, List.append_assoc,
      List.cons_append, List.nil_append]

end HeadLint.Markup
