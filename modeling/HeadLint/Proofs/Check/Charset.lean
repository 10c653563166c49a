import HeadLint.Check.Charset
import HeadLint.Lint.Rules.Settings
import HeadLint.Proofs.Element
import HeadLint.Proofs.Text.Pieces

/-!
The encoding named in a content.  The name stands behind the first mark `text/html; charset=`, on
the same line and without the white space around it.  An equals sign ends every mark, so a change
behind the first mark never makes another one come first: the edit that sets the encoding to UTF-8
is read back as such, and keeps all else.
-/

namespace HeadLint.Charset

open Text

/-! ## Marks -/

/-- `text/html;`, any white space and `charset=`, case ignored. -/
def IsMark (mark : List Char) : Prop :=
  ∃ type blanks word, mark = type ++ blanks ++ word ++ ['='] ∧
    SameWord "text/html;".toList type ∧ (∀ c ∈ blanks, isBlank c = true) ∧
    SameWord "charset".toList word

theorem letterKey_equals : letterKey '=' = 61 := by decide +kernel

theorem eq_of_sameLetter_equals {c : Char} (h : sameLetter '=' c = true) : c = '=' := by
  rw [sameLetter, beq_iff_eq, letterKey_equals] at h
  rw [← Char.ofNat_toNat c, eq_of_letterKey_lt (by omega) h.symm]

theorem not_isBlank_of_sameLetter_c {c : Char} (h : sameLetter 'c' c = true) :
    isBlank c = false := by
  by_contra hblank
  rw [Bool.not_eq_false] at hblank
  have hkey : letterKey 'c' = 99 := by decide +kernel
  rw [sameLetter, beq_iff_eq, hkey, letterKey_of_caseless (caseless_of_isBlank hblank)] at h
  have hc : c = 'c' := by rw [← Char.ofNat_toNat c, ← h]
  rw [hc] at hblank
  exact absurd hblank (by decide)

-- White space in front of the second word ends where the word starts.
theorem stops_isBlank_of_sameWord {word rest : List Char}
    (h : SameWord "charset".toList word) : Stops isBlank (word ++ rest) := by
  have hword : "charset".toList = 'c' :: "harset".toList := by decide
  rw [hword] at h
  cases h with
  | cons hfirst _ => exact stops_cons.2 (not_isBlank_of_sameLetter_c hfirst)

theorem dropWord_charset_eq_some_iff {s rest : List Char} :
    dropWord "charset=".toList s = some rest ↔
      ∃ word, s = word ++ '=' :: rest ∧ SameWord "charset".toList word := by
  have hword : "charset=".toList = "charset".toList ++ ['='] := by decide
  have hsign : ∀ t, dropWord ['='] t = some rest ↔ t = '=' :: rest := by
    intro t
    rw [dropWord_eq_some_iff]
    constructor
    · rintro ⟨found, rfl, hfound⟩
      cases hfound with
      | cons hequals hnil =>
        cases hnil
        rw [eq_of_sameLetter_equals hequals, List.singleton_append]
    · rintro rfl
      exact ⟨['='], rfl, SameWord.refl _⟩
  simp only [hword, dropWord_append, Option.bind_eq_some_iff, hsign, dropWord_eq_some_iff]
  constructor
  · rintro ⟨_, ⟨word, rfl, hsame⟩, rfl⟩
    exact ⟨word, rfl, hsame⟩
  · rintro ⟨word, rfl, hsame⟩
    exact ⟨_, ⟨word, rfl, hsame⟩, rfl⟩

theorem afterMark?_eq_some_iff {s value : List Char} :
    afterMark? s = some value ↔ ∃ mark, s = mark ++ value ∧ IsMark mark := by
  simp only [afterMark?, Option.bind_eq_bind, Option.bind_eq_some_iff,
    dropWord_charset_eq_some_iff]
  simp only [dropWord_eq_some_iff]
  constructor
  · rintro ⟨rest, ⟨type, rfl, htype⟩, word, hrest, hword⟩
    obtain ⟨blanks, hblanks, hall, -⟩ := exists_blanks rest
    rw [hrest] at hblanks
    refine ⟨type ++ blanks ++ word ++ ['='], ?_, type, blanks, word, rfl, htype, hall, hword⟩
    rw [hblanks]
    simp only [List.append_assoc, List.singleton_append]
  · rintro ⟨mark, rfl, type, blanks, word, rfl, htype, hall, hword⟩
    refine ⟨blanks ++ (word ++ '=' :: value), ⟨type, ?_, htype⟩, word, ?_, hword⟩
    · simp only [List.append_assoc, List.singleton_append]
    · exact trimStart_run hall (stops_isBlank_of_sameWord hword)

-- A mark ends with its only equals sign.
theorem IsMark.exists_body {mark : List Char} (h : IsMark mark) :
    ∃ body, mark = body ++ ['='] ∧ '=' ∉ body := by
  obtain ⟨type, blanks, word, rfl, htype, hall, hword⟩ := h
  refine ⟨_, rfl, ?_⟩
  simp only [List.mem_append, not_or]
  refine ⟨⟨fun hmem => ?_, fun hmem => ?_⟩, fun hmem => ?_⟩
  · obtain ⟨a, ha, hsame⟩ := htype.exists_of_mem hmem
    have hnone : ("text/html;".toList.all fun a => !sameLetter a '=') = true := by decide +kernel
    simpa [hsame] using List.all_eq_true.1 hnone a ha
  · exact absurd (hall '=' hmem) (by decide)
  · obtain ⟨a, ha, hsame⟩ := hword.exists_of_mem hmem
    have hnone : ("charset".toList.all fun a => !sameLetter a '=') = true := by decide +kernel
    simpa [hsame] using List.all_eq_true.1 hnone a ha

/-! ## The first mark -/

/-- A content that is cut before and behind its first mark. -/
structure FirstMark (content before mark value : List Char) : Prop where
  eq : content = before ++ mark ++ value
  isMark : IsMark mark
  first : ∀ before' mark' value', content = before' ++ mark' ++ value' → IsMark mark' →
    before.length ≤ before'.length

theorem FirstMark.of_afterMark? {s value : List Char} (h : afterMark? s = some value) :
    ∃ mark, FirstMark s [] mark value := by
  obtain ⟨mark, hs, hmark⟩ := afterMark?_eq_some_iff.1 h
  exact ⟨mark, hs, hmark, fun _ _ _ _ _ => Nat.zero_le _⟩

-- A text that does not start with a mark has its first mark where the rest of it has.
theorem firstMark_cons_iff {c : Char} {s value : List Char} (h : afterMark? (c :: s) = none)
    {cut mark : List Char} :
    FirstMark (c :: s) cut mark value ↔ ∃ before, cut = c :: before ∧
      FirstMark s before mark value := by
  have hnot : ∀ mark' value', c :: s = mark' ++ value' → ¬ IsMark mark' := by
    intro mark' value' heq hmark'
    rw [afterMark?_eq_some_iff.2 ⟨mark', heq, hmark'⟩] at h
    cases h
  constructor
  · rintro ⟨heq, hmark, hfirst⟩
    cases cut with
    | nil => exact absurd hmark (hnot mark value heq)
    | cons d before =>
      obtain ⟨rfl, hs⟩ := List.cons.inj heq
      refine ⟨before, rfl, hs, hmark, fun before' mark' value' heq' hmark' => ?_⟩
      have hle := hfirst (c :: before') mark' value' (by rw [heq']; rfl) hmark'
      simpa using hle
  · rintro ⟨before, rfl, heq, hmark, hfirst⟩
    refine ⟨by rw [heq]; rfl, hmark, fun before' mark' value' heq' hmark' => ?_⟩
    cases before' with
    | nil => exact absurd hmark' (hnot mark' value' heq')
    | cons d before' =>
      have hle := hfirst before' mark' value' (List.cons.inj heq').2 hmark'
      simpa using hle

/-- The search finds the first mark. -/
theorem findMark?_eq_some_iff {offset n : Nat} {s value : List Char} :
    findMark? offset s = some (n, value) ↔
      ∃ before mark, FirstMark s before mark value ∧ n = offset + (before ++ mark).length := by
  induction s generalizing offset with
  | nil =>
    have hnone : findMark? offset [] = none := rfl
    rw [hnone]
    refine iff_of_false (by simp) ?_
    rintro ⟨before, mark, ⟨heq, hmark, -⟩, -⟩
    obtain ⟨body, rfl, -⟩ := hmark.exists_body
    simp at heq
  | cons c s ih =>
    rw [findMark?]
    cases hafter : afterMark? (c :: s) with
    | none =>
      simp only [ih, firstMark_cons_iff hafter]
      constructor
      · rintro ⟨before, mark, hfirst, rfl⟩
        refine ⟨c :: before, mark, ⟨before, rfl, hfirst⟩, ?_⟩
        simp only [List.length_append, List.length_cons]
        omega
      · rintro ⟨_, mark, ⟨before, rfl, hfirst⟩, rfl⟩
        refine ⟨before, mark, hfirst, ?_⟩
        simp only [List.length_append, List.length_cons]
        omega
    | some found =>
      obtain ⟨mark, hmark⟩ := FirstMark.of_afterMark? hafter
      have hlength := congrArg List.length hmark.eq
      simp only [List.nil_append, List.length_append] at hlength
      simp only [Option.some.injEq, Prod.mk.injEq]
      constructor
      · rintro ⟨rfl, rfl⟩
        refine ⟨[], mark, hmark, ?_⟩
        rw [List.nil_append]
        omega
      · rintro ⟨before, mark', hfirst, rfl⟩
        have hnil : before = [] := by
          have hle := hfirst.first [] mark found hmark.eq hmark.isMark
          exact List.eq_nil_of_length_eq_zero (Nat.le_zero.1 hle)
        subst hnil
        have hvalue := afterMark?_eq_some_iff.2 ⟨mark', hfirst.eq, hfirst.isMark⟩
        rw [hafter] at hvalue
        obtain rfl := Option.some.inj hvalue
        have hlength' := congrArg List.length hfirst.eq
        simp only [List.nil_append, List.length_append] at hlength'
        refine ⟨?_, rfl⟩
        rw [List.nil_append]
        omega

/-- What stands behind the first mark has no say in which mark is the first: a mark that starts
before it ends at or before its equals sign. -/
theorem FirstMark.replace {content before mark value : List Char}
    (h : FirstMark content before mark value) (value' : List Char) :
    FirstMark (before ++ mark ++ value') before mark value' := by
  refine ⟨rfl, h.isMark, fun other mark' rest heq hmark' => ?_⟩
  by_contra hlt
  obtain ⟨body, hbody, -⟩ := h.isMark.exists_body
  obtain ⟨body', hbody', hnot⟩ := hmark'.exists_body
  rw [List.append_assoc, List.append_assoc] at heq
  obtain ⟨gap, hbefore, hgap⟩ := exists_rest_of_length_le heq (by omega)
  rw [hbody, hbody', List.append_assoc, List.append_assoc, List.singleton_append,
    List.singleton_append, ← List.append_assoc] at hgap
  obtain ⟨more, hmore⟩ := exists_concat_of_not_mem hnot hgap.symm
  have hcontent : content = other ++ mark' ++ (more ++ value) := by
    rw [h.eq, hbefore, hbody, hbody']
    calc other ++ gap ++ (body ++ ['=']) ++ value = other ++ (gap ++ body ++ ['=']) ++ value := by
          simp only [List.append_assoc]
      _ = other ++ (body' ++ ['=']) ++ (more ++ value) := by
          rw [hmore]
          simp only [List.append_assoc, List.cons_append, List.nil_append]
  have hle := h.first other mark' (more ++ value) hcontent hmark'
  omega

/-! ## The name behind the first mark -/

/-- A text that can be an encoding name: it is not empty, has no white space at its ends and is on
one line. -/
structure IsName (name : List Char) : Prop where
  ne_nil : name ≠ []
  stops : Stops isBlank name
  stops_end : Stops isBlank name.reverse
  oneLine : '\n' ∉ name

theorem isName_utf8 : IsName "utf-8".toList where
  ne_nil := by decide
  stops := stops_cons.2 (by decide : isBlank 'u' = false)
  stops_end := stops_cons.2 (by decide : isBlank '8' = false)
  oneLine := by decide

/-- White space within a line. -/
def LineBlanks (blanks : List Char) : Prop :=
  ∀ c ∈ blanks, isBlank c = true ∧ c ≠ '\n'

/-- `Names content front name behind`: the content has a name behind its first mark, with nothing
but white space between them and between the name and the end of the line. -/
structure Names (content front name behind : List Char) : Prop where
  isName : IsName name
  mark : ∃ before mark blanks, front = before ++ mark ++ blanks ∧ LineBlanks blanks ∧
    FirstMark content before mark (blanks ++ (name ++ behind))
  lineEnd : ∃ blanks rest, behind = blanks ++ rest ∧ LineBlanks blanks ∧ Stops (· != '\n') rest

section Names

variable {content front name behind : List Char}

theorem Names.eq (h : Names content front name behind) : content = front ++ name ++ behind := by
  obtain ⟨before, mark, blanks, rfl, -, hfirst⟩ := h.mark
  rw [hfirst.eq]
  simp only [List.append_assoc]

theorem trimEnd_run {s blanks : List Char} (hs : Stops isBlank s.reverse)
    (hblanks : ∀ c ∈ blanks, isBlank c = true) : trimEnd (s ++ blanks) = s := by
  have hreversed : ∀ c ∈ blanks.reverse, isBlank c = true :=
    fun c hc => hblanks c (List.mem_reverse.1 hc)
  rw [trimEnd, List.reverse_append, dropWhile_run hreversed hs, List.reverse_reverse]

theorem stops_append_of_ne_nil {s rest : List Char} (hne : s ≠ []) (h : Stops isBlank s) :
    Stops isBlank (s ++ rest) := by
  obtain ⟨c, s, rfl⟩ := List.exists_cons_of_ne_nil hne
  exact stops_cons.2 (stops_cons.1 h)

theorem Names.findRange?_eq (h : Names content front name behind) :
    findRange? content = some (front.length, front.length + name.length) := by
  obtain ⟨before, mark, blanks, rfl, hblanks, hfirst⟩ := h.mark
  obtain ⟨blanks', rest, rfl, hblanks', hrest⟩ := h.lineEnd
  obtain ⟨hne, hstops, hstopsEnd, hline⟩ := h.isName
  have hmark : findMark? 0 content =
      some ((before ++ mark).length, blanks ++ (name ++ (blanks' ++ rest))) :=
    findMark?_eq_some_iff.2 ⟨before, mark, hfirst, (Nat.zero_add _).symm⟩
  have hraw : (blanks ++ (name ++ (blanks' ++ rest))).takeWhile (· != '\n') =
      blanks ++ (name ++ blanks') := by
    rw [← List.append_assoc name, ← List.append_assoc blanks]
    refine takeWhile_run (fun c hc => ?_) hrest
    rw [bne_iff_ne]
    rintro rfl
    rcases List.mem_append.1 hc with hc | hc
    · exact (hblanks _ hc).2 rfl
    · rcases List.mem_append.1 hc with hc | hc
      · exact hline hc
      · exact (hblanks' _ hc).2 rfl
  have hstart : trimStart (blanks ++ (name ++ blanks')) = name ++ blanks' :=
    trimStart_run (fun c hc => (hblanks c hc).1) (stops_append_of_ne_nil hne hstops)
  have hend : trimEnd (blanks ++ (name ++ blanks')) = blanks ++ name := by
    rw [← List.append_assoc]
    refine trimEnd_run ?_ fun c hc => (hblanks' c hc).1
    rw [List.reverse_append]
    exact stops_append_of_ne_nil (by simpa using hne) hstopsEnd
  simp only [findRange?, hmark, hraw, hstart, hend, Option.bind_eq_bind, Option.bind_some,
    Option.some.injEq, Prod.mk.injEq, List.length_append]
  omega

-- Of a line of white space nothing is left, and the two ends of the range pass each other.
theorem trimStart_of_trim_nil {raw : List Char} (h : trim raw = []) : trimStart raw = [] := by
  obtain ⟨blanks, hblanks, hall⟩ := exists_blanks_end (trimStart raw)
  rw [← trim, h, List.nil_append] at hblanks
  have hstops : Stops isBlank (trimStart raw) := stops_dropWhile raw
  cases hraw : trimStart raw with
  | nil => rfl
  | cons c rest =>
    rw [hraw] at hblanks hstops
    have hblank : isBlank c = true := hall c (by rw [← hblanks]; exact List.mem_cons_self ..)
    rw [stops_cons.1 hstops] at hblank
    cases hblank

-- A name that is read from a range that is not empty is one in the sense above.
theorem exists_names_of_findRange? {start stop : Nat}
    (h : findRange? content = some (start, stop)) (hne : slice start stop content ≠ []) :
    ∃ front name behind, Names content front name behind := by
  simp only [findRange?, Option.bind_eq_bind, Option.bind_eq_some_iff, Option.some.injEq,
    Prod.mk.injEq] at h
  obtain ⟨⟨n, value⟩, hmark, hstart, hstop⟩ := h
  obtain ⟨before, mark, hfirst, -⟩ := findMark?_eq_some_iff.1 hmark
  obtain ⟨raw, rest, hvalue, hline, hrest, hraw, -⟩ := exists_run (· != '\n') value
  dsimp only at hstart hstop
  rw [hraw] at hstart hstop
  obtain ⟨blanks, hblanks, hall, hstops⟩ := exists_blanks raw
  obtain ⟨blanks', hblanks', hall'⟩ := exists_blanks_end (trimStart raw)
  have hparts : raw = blanks ++ (trim raw ++ blanks') := by
    rw [trim, ← hblanks', ← hblanks]
  have hline' : ∀ c ∈ raw, c ≠ '\n' := fun c hc => by simpa using hline c hc
  refine ⟨before ++ mark ++ blanks, trim raw, blanks' ++ rest,
    ⟨fun hnil => hne ?_, stops_trimEnd hstops, ?_, fun hmem => hline' _ (mem_of_mem_trim hmem) rfl⟩,
    ⟨before, mark, blanks, rfl, fun c hc => ⟨hall c hc, hline' c ?_⟩, ?_⟩,
    blanks', rest, rfl, fun c hc => ⟨hall' c hc, hline' c ?_⟩, hrest⟩
  · obtain ⟨behind, hbehind, -⟩ := exists_blanks_end raw
    have hlength := congrArg List.length hbehind
    rw [List.length_append] at hlength
    rw [trimStart_of_trim_nil hnil, List.length_nil] at hstart
    apply List.drop_eq_nil_of_le
    rw [List.length_take]
    omega
  · rw [trim, trimEnd, List.reverse_reverse]
    exact stops_dropWhile _
  · rw [hparts]
    exact List.mem_append_left _ hc
  · rwa [← List.append_assoc (trim raw), ← List.append_assoc blanks, ← hparts, ← hvalue]
  · rw [hparts]
    exact List.mem_append_right _ (List.mem_append_right _ hc)

theorem Names.slice_eq (h : Names content front name behind) :
    slice front.length (front.length + name.length) content = name := by
  rw [slice, h.eq, List.take_left' List.length_append, List.drop_left]

/-- Another name in the place of the one behind the first mark is read instead of it. -/
theorem Names.replace (h : Names content front name behind) {name' : List Char}
    (hname' : IsName name') : Names (front ++ name' ++ behind) front name' behind := by
  obtain ⟨before, mark, blanks, rfl, hblanks, hfirst⟩ := h.mark
  refine ⟨hname', ⟨before, mark, blanks, rfl, hblanks, ?_⟩, h.lineEnd⟩
  have hreplaced := hfirst.replace (blanks ++ (name' ++ behind))
  simpa only [List.append_assoc] using hreplaced

end Names

/-! ## Elements -/

theorem check_eq_nil_of_declared? {e : Element} (h : declared? e = some "utf-8") :
    check e = [] := by
  rw [check, h]
  decide +kernel

theorem exists_of_check_ne_nil {e : Element} (h : check e ≠ []) :
    ∃ charset p, declared? e = some charset ∧ charset ≠ "" ∧ check e = [p] ∧
      p.data = [("charset", .str charset)] := by
  unfold check at h ⊢
  split at h
  · exact absurd rfl h
  · rename_i charset hdeclared
    split at h
    · exact absurd rfl h
    · rename_i hnot
      refine ⟨charset, _, hdeclared, ?_, if_neg hnot, rfl⟩
      rintro rfl
      exact hnot rfl

theorem code_eq_of_mem_check {e : Element} : ∀ p ∈ check e, p.code = "invalidCharset" := by
  unfold check
  split
  · simp
  · split
    · simp
    · exact List.forall_mem_singleton.2 rfl

theorem declared?_withValue_charset {e : Element} {old : String}
    (h : e.filled? "charset" = some old) :
    declared? (e.withValue "charset" "utf-8") = some "utf-8" := by
  have hattribute : e.attribute? "charset" = some old := Option.eq_some_of_filter_eq_some h
  have hfilled : (e.withValue "charset" "utf-8").filled? "charset" = some "utf-8" := by
    rw [Element.filled?,
      Element.attribute?_withValue _ (Element.hasAttribute_of_attribute? hattribute)]
    rfl
  rw [declared?, hfilled]

section Content

variable {e : Element} {content : String} {front name behind : List Char}

-- Where no `charset` attribute decides, the name in the content does.
theorem declared?_of_names (hcharset : e.filled? "charset" = none)
    (hcontent : e.attribute? "content" = some content)
    (h : Names content.toList front name behind) :
    declared? e = some (String.ofList name) := by
  simp only [declared?, hcharset, hcontent, Option.bind_eq_bind, Option.bind_some, h.findRange?_eq,
    h.slice_eq]

theorem utf8Edits_of_names (hcharset : e.filled? "charset" = none)
    (hcontent : e.attribute? "content" = some content)
    (h : Names content.toList front name behind) :
    Rules.utf8Edits e = [Rules.validCharsetInfo.replaceValue "fixToUtf8" e "content"
      (String.ofList (front ++ "utf-8".toList ++ behind))] := by
  have htake : content.toList.take front.length = front := by
    rw [h.eq, List.append_assoc, List.take_left]
  have hdrop : content.toList.drop (front.length + name.length) = behind := by
    rw [h.eq, List.drop_left' List.length_append]
  simp only [Rules.utf8Edits, hcharset, hcontent, h.findRange?_eq, htake, hdrop]

theorem declared?_withValue_content (hcharset : e.filled? "charset" = none)
    (hcontent : e.attribute? "content" = some content)
    (h : Names content.toList front name behind) :
    declared? (e.withValue "content" (String.ofList (front ++ "utf-8".toList ++ behind))) =
      some "utf-8" := by
  have hnames := h.replace isName_utf8
  have hother : lowered "charset" ≠ lowered "content" := by decide +kernel
  rw [← String.toList_ofList (l := front ++ "utf-8".toList ++ behind)] at hnames
  refine declared?_of_names ?_
    (Element.attribute?_withValue _ (Element.hasAttribute_of_attribute? hcontent)) hnames
  rw [Element.filled?, Element.attribute?_withValue_of_ne e _ hother, ← Element.filled?, hcharset]

theorem exists_names_of_declared? {charset : String} (hcharset : e.filled? "charset" = none)
    (hdeclared : declared? e = some charset) (hne : charset ≠ "") :
    ∃ content front behind, e.attribute? "content" = some content ∧
      Names content.toList front charset.toList behind := by
  have hdeclared' := hdeclared
  simp only [declared?, hcharset, Option.bind_eq_bind, Option.bind_eq_some_iff] at hdeclared
  obtain ⟨content, hcontent, ⟨start, stop⟩, hrange, hslice⟩ := hdeclared
  obtain rfl := Option.some.inj hslice
  obtain ⟨front, name, behind, hnames⟩ :=
    exists_names_of_findRange? hrange (by simpa using hne)
  rw [declared?_of_names hcharset hcontent hnames] at hdeclared'
  refine ⟨content, front, behind, hcontent, ?_⟩
  rwa [← Option.some.inj hdeclared', String.toList_ofList]

end Content

/-- The edit of an element with another encoding than UTF-8 sets the attribute that declares it.
With the new value the element declares UTF-8 and has no problem.  Where the attribute is the
content, the new value is the old one with the name that was reported, which stands behind the first
mark, replaced. -/
theorem utf8Edits_mend (e : Element) (h : check e ≠ []) :
    ∃ edit attr, Rules.utf8Edits e = [edit] ∧ edit.action = .replaceValue ∧
      edit.attr = some attr ∧ (attr = "charset" ∨ attr = "content") ∧
      declared? (e.withValue attr edit.replacement) = some "utf-8" ∧
      check (e.withValue attr edit.replacement) = [] ∧
      (attr = "content" → ∃ charset p content front behind,
        check e = [p] ∧ p.data = [("charset", .str charset)] ∧
        e.attribute? "content" = some content ∧
        Names content.toList front charset.toList behind ∧
        content = String.ofList (front ++ charset.toList ++ behind) ∧
        edit.replacement = String.ofList (front ++ "utf-8".toList ++ behind)) := by
  obtain ⟨charset, p, hdeclared, hne, hcheck, hdata⟩ := exists_of_check_ne_nil h
  cases hfilled : e.filled? "charset" with
  | some old =>
    have hnew := declared?_withValue_charset hfilled
    refine ⟨Rules.validCharsetInfo.replaceValue "fixToUtf8" e "charset" "utf-8", "charset", ?_,
      rfl, ?_, .inl rfl, hnew, check_eq_nil_of_declared? hnew, fun hattr => ?_⟩
    · rw [Rules.utf8Edits, hfilled]
    · exact congrArg some (by decide +kernel : lowered "charset" = "charset")
    · exact absurd hattr (by decide)
  | none =>
    obtain ⟨content, front, behind, hcontent, hnames⟩ :=
      exists_names_of_declared? hfilled hdeclared hne
    have hnew := declared?_withValue_content hfilled hcontent hnames
    refine ⟨_, "content", utf8Edits_of_names hfilled hcontent hnames, rfl, ?_, .inr rfl, hnew,
      check_eq_nil_of_declared? hnew,
      fun _ => ⟨charset, p, content, front, behind, hcheck, hdata, hcontent, hnames, ?_, rfl⟩⟩
    · exact congrArg some (by decide +kernel : lowered "content" = "content")
    · rw [← hnames.eq, String.ofList_toList]

/-- A declaration with a mark that breaks off, a mark in capitals with a line feed in it, and a
second mark on the next line. -/
def latinDeclaration : Element :=
  { tag := "meta"
    attrs := [("charset", none), ("Content", some
      "text/html;charse=TEXT/HTML;\n CHARſET=\tLatin-1 \ntext/html;charset=ascii")] }

theorem utf8Edits_mend_latinDeclaration :
    declared? latinDeclaration = some "Latin-1" ∧ check latinDeclaration ≠ [] ∧
    ∃ edit, Rules.utf8Edits latinDeclaration = [edit] ∧ edit.attr = some "content" ∧
      edit.replacement =
        "text/html;charse=TEXT/HTML;\n CHARſET=\tutf-8 \ntext/html;charset=ascii" ∧
      declared? (latinDeclaration.withValue "content" edit.replacement) = some "utf-8" ∧
      check (latinDeclaration.withValue "content" edit.replacement) = [] := by
  have hdeclared : declared? latinDeclaration = some "Latin-1" := by decide +kernel
  have hlength : (check latinDeclaration).length = 1 := by decide +kernel
  have hcheck : check latinDeclaration ≠ [] := List.ne_nil_of_length_eq_add_one hlength
  have hvalues : (Rules.utf8Edits latinDeclaration).map (fun e => (e.attr, e.replacement)) =
      [(some "content",
        "text/html;charse=TEXT/HTML;\n CHARſET=\tutf-8 \ntext/html;charset=ascii")] := by
    decide +kernel
  obtain ⟨edit, attr, hedit, -, hattr, -, hnew, hmended, -⟩ :=
    utf8Edits_mend latinDeclaration hcheck
  rw [hedit, List.map_singleton, List.singleton_inj, Prod.mk.injEq] at hvalues
  obtain rfl : attr = "content" := Option.some.inj (hattr.symm.trans hvalues.1)
  exact ⟨hdeclared, hcheck, edit, hedit, hattr, hvalues.2, hnew, hmended⟩

end HeadLint.Charset
