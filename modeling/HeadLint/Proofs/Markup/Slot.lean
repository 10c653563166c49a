import HeadLint.Proofs.Markup.Enclosure
import HeadLint.Proofs.Markup.Revision

/-!
One value in a text.  When another value takes its place, and the reader comes to it as before, the
text gives the same tokens but for the one attribute.
-/

namespace HeadLint.Markup

open Text

/-! ## The end of a start tag -/

theorem readAttributes_suffix (skip : Nat) (previous : Char) (s : List Char) :
    (readAttributes skip previous s).2 <:+ s := by
  induction s generalizing skip previous with
  | nil => cases skip <;> exact List.suffix_refl _
  | cons c rest ih =>
    cases skip with
    | succ skip => exact (ih skip c).trans (List.suffix_cons c rest)
    | zero =>
      rw [readAttributes]
      split
      · exact (ih _ c).trans (List.suffix_cons c rest)
      · exact List.suffix_refl _

theorem readTagEnd?_suffix {s after : List Char} {ending : TagEnd}
    (h : readTagEnd? s = some (ending, after)) : after <:+ s := by
  unfold readTagEnd? at h
  split at h
  · obtain ⟨-, rfl⟩ := Prod.mk.inj (Option.some.inj h)
    exact List.suffix_cons ..
  · obtain ⟨-, rfl⟩ := Prod.mk.inj (Option.some.inj h)
    exact (List.suffix_cons ..).trans (List.suffix_cons ..)
  · cases h
  · split at h
    · cases h
    · obtain ⟨-, rfl⟩ := Prod.mk.inj (Option.some.inj h)
      exact List.suffix_refl _

-- What follows a start tag is the end of the text.
theorem readStartTag?_suffix {s after : List Char} {read : Except DigitOverflow StartTag}
    (h : readStartTag? s = some (read, after)) : after <:+ s := by
  obtain ⟨⟨ending, after'⟩, hend, heq⟩ := Option.map_eq_some_iff.1 h
  have hafter : after' = after := by
    dsimp only at heq
    split at heq
    · exact (Prod.mk.inj heq).2
    · exact (Prod.mk.inj heq).2
  subst hafter
  obtain ⟨gap, hgap, -⟩ := skipGap_suffix (s.dropWhile isTagNameChar)
  have hskip : skipGap (s.dropWhile isTagNameChar) <:+ s.dropWhile isTagNameChar :=
    ⟨gap, hgap.symm⟩
  exact (readTagEnd?_suffix hend).trans
    ((readAttributes_suffix ..).trans (hskip.trans (List.dropWhile_suffix _)))

-- The lexer takes a complete start tag and goes on behind it.
theorem TagAt.lexFrom {s after : List Char} {tag : StartTag} (h : TagAt s tag after) (final : Bool)
    (offset : Nat) :
    ∃ length, 0 < length ∧ lexFrom 0 offset (.markup final) s =
      (lexFrom 0 (offset + length) (modeAfter final [.startTag tag offset]) after).map
        ([.startTag tag offset] ++ ·) := by
  obtain ⟨c, rest, rfl, hc, hread⟩ := h.text
  obtain ⟨piece, hpiece⟩ := readStartTag?_suffix hread
  have htext : '<' :: c :: rest = ('<' :: piece) ++ after := by
    rw [← hpiece, List.cons_append]
  have htag : readTag offset _ = _ := readTag_startTag hc hread h.ending
  rw [htext, consumed_append] at htag
  refine ⟨('<' :: piece).length, Nat.succ_pos _, ?_⟩
  rw [htext]
  exact lexFrom_found after (List.cons_ne_nil _ _) htag

theorem closeTag?_eq_ok_iff {name s after : List Char} {tag : StartTag}
    {attributes : List (List Char × Option (List Char))} :
    closeTag? name attributes s = some (.ok tag, after) ↔
      ∃ ending, readTagEnd? s = some (ending, after) ∧
        (∀ attr ∈ attributes, attr.2.bind firstOverflow? = none) ∧
        tag = ⟨String.ofList (lower name), attributes.map cookAttribute, ending⟩ := by
  simp only [closeTag?, Option.map_eq_some_iff, ← List.findSome?_eq_none_iff]
  constructor
  · rintro ⟨⟨ending, after'⟩, hend, heq⟩
    dsimp only at heq
    split at heq
    · cases (Prod.mk.inj heq).1
    · rename_i hnone
      obtain ⟨htag, rfl⟩ := Prod.mk.inj heq
      exact ⟨ending, hend, hnone, (Except.ok.inj htag).symm⟩
  · rintro ⟨ending, hend, hnone, rfl⟩
    refine ⟨(ending, after), hend, ?_⟩
    simp only [hnone]

theorem closeTag?_of_overflow {name s after : List Char} {ending : TagEnd}
    {overflow : DigitOverflow} {attributes : List (List Char × Option (List Char))}
    (hend : readTagEnd? s = some (ending, after))
    (h : (attributes.findSome? fun attr => attr.2.bind firstOverflow?) = some overflow) :
    closeTag? name attributes s = some (.error overflow, after) := by
  simp only [closeTag?, hend, Option.map_some, h]

-- Where a start tag goes on with the name of an attribute, an attribute may begin.
theorem canPrecedeName_of_closeTag? {name rest after : List Char} {c previous : Char}
    {tag : StartTag} {attrs : List (List Char × Option (List Char))} (hc : canStartName c = true)
    (h : closeTag? name (attrs ++ (readAttributes 0 previous (c :: rest)).1)
      (readAttributes 0 previous (c :: rest)).2 = some (.ok tag, after))
    (hending : tag.ending ≠ .broken) : canPrecedeName previous = true := by
  -- Otherwise the reader stops here, and no tag ends with a character that may begin a name.
  by_contra hprevious
  have hstop : readAttributes 0 previous (c :: rest) = ([], c :: rest) := by
    rw [readAttributes, if_neg (by simp [hprevious])]
  rw [hstop] at h
  obtain ⟨ending, hend, -, rfl⟩ := closeTag?_eq_ok_iff.1 h
  unfold readTagEnd? at hend
  split at hend
  · rename_i heq
    obtain ⟨rfl, -⟩ := List.cons.inj heq
    revert hc
    decide
  · rename_i heq
    obtain ⟨rfl, -⟩ := List.cons.inj heq
    revert hc
    decide
  · cases hend
  · split at hend
    · cases hend
    · obtain ⟨rfl, -⟩ := Prod.mk.inj (Option.some.inj hend)
      exact hending rfl

-- A number that is too long in a start tag is a fault.
theorem lexFrom_of_overflow {c : Char} {rest after : List Char} {overflow : DigitOverflow}
    (final : Bool) (offset : Nat) (hc : isAsciiLetter c = true)
    (h : readStartTag? (c :: rest) = some (.error overflow, after)) :
    lexFrom 0 offset (.markup final) ('<' :: c :: rest) = .error (.tooManyDigits overflow) := by
  have hread : readToken final offset ('<' :: c :: rest) = .failed (.tooManyDigits overflow) :=
    readTag_overflow hc h
  apply lexFrom_of_fault
  cases final with
  | true => rw [lexStep, hread, settle]
  | false => rw [lexStep, hread]

/-! ## Tokens under a change -/

theorem Token.revise_of_within {g : Revision} {token : Token} {low high offset : Nat}
    (hg : ∀ name n attributes, n ≠ offset → g name n attributes = attributes)
    (hwithin : token.Within low high) (hoffset : high ≤ offset ∨ offset < low) :
    token.revise g = token.revise .none := by
  cases token with
  | startTag tag n =>
    have hlow : low ≤ n := hwithin.1
    have hhigh : n < high := hwithin.2
    rw [Token.revise, hg _ _ _ (by omega)]
    rfl
  | _ => rfl

theorem map_revise_of_within {g : Revision} {tokens : List Token} {low high offset : Nat}
    (hg : ∀ name n attributes, n ≠ offset → g name n attributes = attributes)
    (hwithin : ∀ token ∈ tokens, token.Within low high) (hoffset : high ≤ offset ∨ offset < low) :
    tokens.map (Token.revise g) = tokens.map (Token.revise .none) :=
  List.map_congr_left fun token htoken => Token.revise_of_within hg (hwithin token htoken) hoffset

-- Without a change of attributes the offsets do not matter.
theorem map_revise_none_of_place {tokens tokens' : List Token}
    (h : tokens'.map (Token.place 0) = tokens.map (Token.place 0)) :
    tokens'.map (Token.revise .none) = tokens.map (Token.revise .none) := by
  have hplace : ∀ tokens : List Token,
      tokens.map (Token.revise .none) = (tokens.map (Token.place 0)).map (Token.revise .none) := by
    intro tokens
    rw [List.map_map]
    apply List.map_congr_left
    intro token _
    cases token <;> rfl
  rw [hplace tokens', hplace tokens, h]

/-! ## Slots -/

/-- The place of an attribute value in a text: what stands before the start tag, the tag up to the
attribute, the name of the attribute, what links the value to it, how the value is enclosed, and
what follows. -/
structure Slot where
  front : List Char
  opening : List Char
  name : List Char
  link : List Char
  enclosure : Enclosure
  rest : List Char

namespace Slot

/-- The text from the attribute on, with a given value. -/
def tail (slot : Slot) (value : List Char) : List Char :=
  slot.name ++ (slot.link ++ (slot.enclosure.wrap value ++ slot.rest))

/-- The text behind the less-than sign of the tag. -/
def inside (slot : Slot) (value : List Char) : List Char :=
  slot.opening ++ slot.tail value

/-- The whole text. -/
def fill (slot : Slot) (value : List Char) : List Char :=
  slot.front ++ '<' :: slot.inside value

/-- The name of the attribute, as it is kept. -/
def key (slot : Slot) : String :=
  String.ofList (lower slot.name)

/-- The name, the link and the quotes are what they are meant to be. -/
structure Proper (slot : Slot) : Prop where
  name : IsAttributeName slot.name
  link : IsLink slot.link
  quotes : ∀ q, slot.enclosure = .quoted q → isQuote q = true

/-- Both values are held, and the reader comes to either in the same way: with the same tokens up to
the start tag, and with the same attributes up to this one, which is new. -/
structure ReadAlike (slot : Slot) (old new : List Char) : Prop where
  lexed : lexUpTo slot.front.length 0 0 (.markup false) (slot.fill new) =
    lexUpTo slot.front.length 0 0 (.markup false) (slot.fill old)
  begun : ∃ name attrs previous,
    tagUpTo slot.opening.length (slot.inside old) = some (name, attrs, previous) ∧
      tagUpTo slot.opening.length (slot.inside new) = some (name, attrs, previous) ∧
      slot.key ∉ (attrs.map cookAttribute).map (·.1)
  holds_old : slot.enclosure.Holds old slot.rest
  holds_new : slot.enclosure.Holds new slot.rest

theorem drop_fill (slot : Slot) (value : List Char) :
    (slot.fill value).drop slot.front.length = '<' :: slot.inside value :=
  List.drop_left

theorem drop_inside (slot : Slot) (value : List Char) :
    (slot.inside value).drop slot.opening.length = slot.tail value :=
  List.drop_left

-- The tag begins alike with every value.
theorem Proper.exists_inside {slot : Slot} (h : slot.Proper) :
    ∃ c, ∀ value, ∃ rest, slot.inside value = c :: rest := by
  obtain ⟨d, ds, hname, -⟩ := h.name
  cases hopening : slot.opening with
  | nil =>
    refine ⟨d, fun value => ⟨ds ++ (slot.link ++ (slot.enclosure.wrap value ++ slot.rest)), ?_⟩⟩
    rw [inside, tail, hopening, hname, List.nil_append, List.cons_append]
  | cons c opening =>
    refine ⟨c, fun value => ⟨opening ++ slot.tail value, ?_⟩⟩
    rw [inside, hopening, List.cons_append]

-- The start tag with either value: the attributes differ in this one value, and what follows them
-- is the same.
theorem ReadAlike.exists_closeTag? {slot : Slot} {old new after : List Char} {tag : StartTag}
    (h : slot.ReadAlike old new) (hproper : slot.Proper)
    (hold : readStartTag? (slot.inside old) = some (.ok tag, after))
    (hending : tag.ending ≠ .broken) :
    ∃ name attrs more last, slot.key ∉ (attrs.map cookAttribute).map (·.1) ∧
      readStartTag? (slot.inside old) =
        closeTag? name (attrs ++ (slot.name, some old) :: more) last ∧
      readStartTag? (slot.inside new) =
        closeTag? name (attrs ++ (slot.name, some new) :: more) last := by
  obtain ⟨name, attrs, previous, hbegun, hbegun', hfresh⟩ := h.begun
  obtain ⟨mark, hread⟩ :=
    slot.enclosure.exists_readAttributes slot.rest hproper.name hproper.link
  have hreadOld := readStartTag?_of_tagUpTo hbegun
  have hreadNew := readStartTag?_of_tagUpTo hbegun'
  rw [drop_inside] at hreadOld hreadNew
  -- The tag was complete with the old value, so the reader did not stop before the attribute.
  have hprevious : canPrecedeName previous = true := by
    obtain ⟨c, cs, hname, hc, -⟩ := hproper.name
    have htail : slot.tail old =
        c :: (cs ++ (slot.link ++ (slot.enclosure.wrap old ++ slot.rest))) := by
      rw [tail, hname, List.cons_append]
    rw [hold, htail] at hreadOld
    exact canPrecedeName_of_closeTag? hc hreadOld.symm hending
  refine ⟨name, attrs, (readAttributes 0 mark (skipGap slot.rest)).1,
    (readAttributes 0 mark (skipGap slot.rest)).2, hfresh, ?_, ?_⟩
  · rw [hreadOld, tail, hread old previous h.holds_old hprevious]
  · rw [hreadNew, tail, hread new previous h.holds_new hprevious]

/-- `Reset key value tag tag'`: two start tags that differ in the value of one attribute. -/
structure Reset (key value : String) (tag tag' : StartTag) : Prop where
  name : tag'.name = tag.name
  ending : tag'.ending = tag.ending
  attributes : Builder.keepFirst tag'.attributes =
    Entries.put key value (Builder.keepFirst tag.attributes)

-- The start tag is read again with the new value, unless a number in it is too long.
theorem ReadAlike.readStartTag? {slot : Slot} {old new after : List Char} {tag : StartTag}
    (h : slot.ReadAlike old new) (hproper : slot.Proper)
    (hold : readStartTag? (slot.inside old) = some (.ok tag, after))
    (hending : tag.ending ≠ .broken) :
    (∀ overflow, firstOverflow? new = some overflow →
      Markup.readStartTag? (slot.inside new) = some (.error overflow, after)) ∧
    (firstOverflow? new = none → ∃ tag',
      Markup.readStartTag? (slot.inside new) = some (.ok tag', after) ∧
        Reset slot.key (String.ofList (unescape new)) tag tag') := by
  obtain ⟨name, attrs, more, last, hfresh, hclose, hclose'⟩ :=
    h.exists_closeTag? hproper hold hending
  rw [hclose] at hold
  obtain ⟨ending, hend, hnone, rfl⟩ := closeTag?_eq_ok_iff.1 hold
  rw [hclose']
  constructor
  · -- No attribute before this one has an overflow, so that of the new value is the first.
    intro overflow hoverflow
    apply closeTag?_of_overflow hend
    have hattrs : (attrs.findSome? fun attr => attr.2.bind firstOverflow?) = none := by
      rw [List.findSome?_eq_none_iff]
      exact fun attr hattr => hnone attr (List.mem_append_left _ hattr)
    rw [List.findSome?_append, hattrs, Option.none_or, List.findSome?_cons, Option.bind_some,
      hoverflow]
  · intro hfine
    refine ⟨⟨String.ofList (lower name),
      (attrs ++ (slot.name, some new) :: more).map cookAttribute, ending⟩, ?_, rfl, rfl, ?_⟩
    · refine closeTag?_eq_ok_iff.2 ⟨ending, hend, fun attr hattr => ?_, rfl⟩
      rcases List.mem_append.1 hattr with hbefore | hrest
      · exact hnone attr (List.mem_append_left _ hbefore)
      · rcases List.mem_cons.1 hrest with rfl | hmore
        · exact hfine
        · exact hnone attr (List.mem_append_right _ (List.mem_cons_of_mem _ hmore))
    · have hcook : ∀ value, (attrs ++ (slot.name, some value) :: more).map cookAttribute =
          attrs.map cookAttribute ++
            (slot.key, some (String.ofList (unescape value))) :: more.map cookAttribute := by
        intro value
        rw [List.map_append, List.map_cons]
        rfl
      simp only [hcook, Builder.keepFirst_eq_firsts, List.map_append, List.map_cons,
        Builder.entryOf, Option.getD_some]
      apply Entries.firsts_put
      rwa [List.map_map]

-- A text whose start tag is read again gives the same tokens but for that tag.
theorem exists_lex_of_tagAt {s s' after : List Char} {before tokens : List Token}
    {tag tag' : StartTag} {key value : String} {final : Bool} {offset : Nat}
    (hupto : lexUpTo offset 0 0 (.markup false) s = some (before, .markup final))
    (hupto' : lexUpTo offset 0 0 (.markup false) s' = some (before, .markup final))
    (hat : TagAt (s.drop offset) tag after) (hat' : TagAt (s'.drop offset) tag' after)
    (hreset : Reset key value tag tag') (hlex : lex s = .ok tokens) :
    ∃ tokens', lex s' = .ok tokens' ∧ ∀ g : Revision,
      (∀ name n attributes, n ≠ offset → g name n attributes = attributes) →
      g tag.name offset (Builder.keepFirst tag.attributes) =
        Entries.put key value (Builder.keepFirst tag.attributes) →
      tokens'.map (Token.revise .none) = tokens.map (Token.revise g) := by
  have hfrom := (arrives_of_lexUpTo hupto).lexFrom_eq
  have hfrom' := (arrives_of_lexUpTo hupto').lexFrom_eq
  rw [Nat.sub_zero] at hfrom hfrom'
  obtain ⟨length, hpos, htag⟩ := hat.lexFrom final offset
  obtain ⟨length', hpos', htag'⟩ := hat'.lexFrom final offset
  have hmode : modeAfter final [.startTag tag' offset] =
      modeAfter final [.startTag tag offset] := by
    simp only [modeAfter, hreset.name, hreset.ending]
  rw [htag, map_append_map_append] at hfrom
  rw [htag', map_append_map_append, hmode] at hfrom'
  -- Behind the two tags the same text is read in the same mode, at other offsets.
  have hplace := place_lexFrom 0 (offset + length) (modeAfter final [.startTag tag offset]) after
  have hplace' := place_lexFrom 0 (offset + length') (modeAfter final [.startTag tag offset]) after
  rw [← hplace'] at hplace
  rw [lex, hfrom] at hlex
  rw [lex, hfrom']
  cases hbehind : lexFrom 0 (offset + length) (modeAfter final [.startTag tag offset]) after with
  | error fault => rw [hbehind] at hlex; cases hlex
  | ok behind =>
    rw [hbehind] at hlex hplace
    cases hbehind' : lexFrom 0 (offset + length') (modeAfter final [.startTag tag offset])
        after with
    | error fault => rw [hbehind'] at hplace; cases hplace
    | ok behind' =>
      rw [hbehind'] at hplace
      obtain rfl := Except.ok.inj hlex
      refine ⟨before ++ [.startTag tag' offset] ++ behind', rfl, fun g hg hput => ?_⟩
      -- `g` changes nothing before and behind the tag, whose offset none of these tokens has.
      have hbefore := map_revise_of_within hg (arrives_of_lexUpTo hupto).within
        (.inl (Nat.le_refl _))
      have hrest := map_revise_of_within hg (within_of_lexFrom hbehind) (.inr (by omega))
      have hsame := map_revise_none_of_place (Except.ok.inj hplace).symm
      have hone : Token.revise .none (.startTag tag' offset) =
          Token.revise g (.startTag tag offset) := by
        rw [Token.revise, Token.revise, hput, Revision.none, hreset.attributes]
        simp only [StartTag.withEntries, hreset.name, hreset.ending]
      simp only [List.map_append, List.map_cons, List.map_nil, hbefore, hrest, hsame, hone]

/-- With the new value the text gives the same tokens but for the one attribute, unless a number in
the value is too long. -/
theorem ReadAlike.lex {slot : Slot} {old new : List Char} {tokens : List Token} {tag : StartTag}
    (h : slot.ReadAlike old new) (hproper : slot.Proper)
    (hlex : Markup.lex (slot.fill old) = .ok tokens)
    (hmem : .startTag tag slot.front.length ∈ tokens) :
    (∀ overflow, firstOverflow? new = some overflow →
      Markup.lex (slot.fill new) = .error (.tooManyDigits overflow)) ∧
    (firstOverflow? new = none → ∃ tokens', Markup.lex (slot.fill new) = .ok tokens' ∧
      ∀ g : Revision,
        (∀ name n attributes, n ≠ slot.front.length → g name n attributes = attributes) →
        g tag.name slot.front.length (Builder.keepFirst tag.attributes) =
          Entries.put slot.key (String.ofList (unescape new)) (Builder.keepFirst tag.attributes) →
        tokens'.map (Token.revise .none) = tokens.map (Token.revise g)) := by
  -- The lexer comes to the tag in either text with the same tokens and in the same mode.
  obtain ⟨before, final, after, harrives, hat⟩ := exists_arrives_of_lexFrom hlex hmem
  have hupto := harrives.lexUpTo_eq
  have hupto' := h.lexed.trans hupto
  rw [Nat.sub_zero] at hat
  obtain ⟨c, hinside⟩ := hproper.exists_inside
  obtain ⟨rest, hold⟩ := hinside old
  obtain ⟨rest', hnew⟩ := hinside new
  obtain ⟨d, tail, htext, hc, hread⟩ := hat.text
  rw [drop_fill, hold] at htext
  obtain ⟨-, htail⟩ := List.cons.inj htext
  obtain ⟨rfl, rfl⟩ := List.cons.inj htail
  rw [← hold] at hread
  obtain ⟨hoverflow, hfine⟩ := h.readStartTag? hproper hread hat.ending
  rw [hnew] at hoverflow hfine
  refine ⟨fun overflow hsome => ?_, fun hnone => ?_⟩
  · have hfrom := (arrives_of_lexUpTo hupto').lexFrom_eq
    rw [Nat.sub_zero, drop_fill, hnew,
      lexFrom_of_overflow final slot.front.length hc (hoverflow overflow hsome)] at hfrom
    exact hfrom
  · obtain ⟨tag', hread', hreset⟩ := hfine hnone
    have hat' : TagAt ((slot.fill new).drop slot.front.length) tag' after := by
      refine ⟨hreset.ending ▸ hat.ending, c, rest', ?_, hc, hread'⟩
      rw [drop_fill, hnew]
    exact exists_lex_of_tagAt hupto hupto' hat hat' hreset hlex

/-! ## Slots of located values -/

/-- The text before the value. -/
def before (slot : Slot) : List Char :=
  slot.front ++ '<' :: (slot.opening ++ (slot.name ++ (slot.link ++ slot.enclosure.marks)))

/-- The text behind the value. -/
def behind (slot : Slot) : List Char :=
  slot.enclosure.marks ++ slot.rest

theorem fill_eq (slot : Slot) (value : List Char) :
    slot.fill value = slot.before ++ (value ++ slot.behind) := by
  cases henclosure : slot.enclosure <;>
    simp [fill, inside, tail, before, behind, henclosure, Enclosure.wrap, Enclosure.marks]

end Slot

theorem isAttributeName_of_run {run : List Char} (hne : run ≠ [])
    (hrun : ∀ c ∈ run, isAttrNameChar c = true) : IsAttributeName run := by
  have hchar : ∀ c, isAttrNameChar c = true → canStartName c = true ∧ canContinueName c = true := by
    intro c hc
    simp only [isAttrNameChar, Bool.not_eq_true', Bool.or_eq_false_iff] at hc
    simp [canStartName, canContinueName, hc]
  cases run with
  | nil => exact absurd rfl hne
  | cons c cs =>
    exact ⟨c, cs, rfl, (hchar c (hrun c (List.mem_cons_self ..))).1,
      fun d hd => (hchar d (hrun d (List.mem_cons_of_mem _ hd))).2⟩

-- A range that the scan over attributes finds is that of a value behind a name.
theorem exists_of_mem_attributeRanges {attr : String} {lo hi skip offset : Nat} {s : List Char}
    (h : (attr, lo, hi) ∈ (attributeRanges skip offset s).1) :
    ∃ opening run more lo' hi' after, s = opening ++ (run ++ more) ∧ run ≠ [] ∧
      (∀ c ∈ run, isAttrNameChar c = true) ∧ attr = String.ofList (lower run) ∧
      ValueAt more lo' hi' after ∧ lo = offset + opening.length + run.length + lo' ∧
      hi = offset + opening.length + run.length + hi' := by
  induction s generalizing skip offset with
  | nil => cases skip <;> cases h
  | cons c rest ih =>
    -- What is found further on has one more character before it.
    have hnext : ∀ {skip : Nat}, (attr, lo, hi) ∈ (attributeRanges skip (offset + 1) rest).1 →
        ∃ opening run more lo' hi' after, c :: rest = opening ++ (run ++ more) ∧ run ≠ [] ∧
          (∀ c ∈ run, isAttrNameChar c = true) ∧ attr = String.ofList (lower run) ∧
          ValueAt more lo' hi' after ∧ lo = offset + opening.length + run.length + lo' ∧
          hi = offset + opening.length + run.length + hi' := by
      intro skip hmem
      obtain ⟨opening, run, more, lo', hi', after, hs, hne, hrun, hattr, hvalue, hlo, hhi⟩ :=
        ih hmem
      refine ⟨c :: opening, run, more, lo', hi', after, by rw [hs]; rfl, hne, hrun, hattr, hvalue,
        ?_, ?_⟩ <;>
      · rw [List.length_cons]
        omega
    cases skip with
    | succ skip => exact hnext h
    | zero =>
      by_cases hgap : (isBlank c || c == '/') = true
      · rw [attributeRanges, if_pos hgap] at h
        exact hnext h
      rw [Bool.not_eq_true] at hgap
      by_cases hname : isAttrNameChar c = true
      · rw [attributeRanges_attribute hgap hname] at h
        rcases List.mem_append.1 h with hfound | hmore
        · obtain ⟨run, more, hs, hrun, -, htake, hdrop⟩ := exists_run isAttrNameChar (c :: rest)
          have hne : run ≠ [] := by
            rw [← htake, List.takeWhile_cons_of_pos hname]
            exact List.cons_ne_nil _ _
          have hmore : (c :: rest).drop run.length = more := by rw [hs, List.drop_left]
          simp only [FoundAttribute.entries, attributeRange, htake, hmore] at hfound
          cases hvalue : valueRange? (offset + run.length) more with
          | none => rw [hvalue] at hfound; cases hfound
          | some found =>
            obtain ⟨⟨low, high⟩, after⟩ := found
            rw [hvalue] at hfound
            obtain ⟨rfl, hrange⟩ := Prod.mk.inj (List.mem_singleton.1 hfound)
            obtain ⟨rfl, rfl⟩ := Prod.mk.inj hrange
            obtain ⟨lo', hi', after', hat, hlo, hhi, -⟩ := valueRange?_eq_some_iff.1 hvalue
            exact ⟨[], run, more, lo', hi', after', hs, hne, hrun, rfl, hat, hlo, hhi⟩
        · exact hnext hmore
      · rw [attributeRanges, hgap, if_neg Bool.false_ne_true, if_neg hname] at h
        cases h

/-- A located value has a slot. -/
theorem exists_slot_of_locate? {source : List Char} {name attr : String} {start : Nat}
    {found : Span × List (String × Span)} {range : Span}
    (h : locate? source name start = some found) (hrange : (attr, range) ∈ found.2) :
    ∃ slot old, Slot.Proper slot ∧ source = slot.fill old ∧ slot.front.length = start ∧
      slot.key = attr ∧ range.start = slot.before.length ∧
      range.stop = ((slot.before.length + old.length : Nat) : Int) := by
  obtain ⟨run, rest, hopens, rfl⟩ := locate?_eq_some_iff.1 h
  obtain ⟨⟨attr', lo, hi⟩, hmem, heq⟩ := List.mem_map.1 hrange
  obtain ⟨rfl, rfl⟩ := Prod.mk.inj heq
  rw [firstRanges_eq_firsts] at hmem
  obtain ⟨opening, key, more, lo', hi', after, rfl, hne, hkey, rfl, hvalue, rfl, rfl⟩ :=
    exists_of_mem_attributeRanges (Entries.mem_of_mem_firsts hmem)
  have hlength := hopens.length_eq
  have hfront : (source.take start).length = start := List.length_take_of_le (by omega)
  have hsource : source = source.take start ++ '<' :: (run ++ (opening ++ (key ++ more))) := by
    rw [← hopens.text, List.take_append_drop]
  have hname := isAttributeName_of_run hne hkey
  obtain ⟨link, enclosure, value, behind, rfl, hlink, hquotes, rfl, rfl⟩ := hvalue.exists_enclosure
  refine ⟨⟨source.take start, run ++ opening, key, link, enclosure, behind⟩, value,
    ⟨hname, hlink, hquotes⟩, hsource.trans ?_, hfront, rfl, ?_, ?_⟩
  · simp only [Slot.fill, Slot.inside, Slot.tail, List.append_assoc]
  · simp only [spanOf, Slot.before, List.length_append, List.length_cons, hfront]
    omega
  · simp only [spanOf, Slot.before, List.length_append, List.length_cons, hfront]
    omega

end HeadLint.Markup
