import HeadLint.Proofs.Check.Viewport
import HeadLint.Proofs.Element

/-!
Viewport settings as directives.  What is read from a text can be written out and read again, so a
text and the directives in it have the same problems.  Each directive has at most one problem, which
depends on nothing but its key and its value.
-/

namespace HeadLint.Viewport

open Text

/-! ## Directives as they are read -/

/-- A key or a value as it is read: in lower case, without white space around it, and without the
two separators. -/
structure Clean (s : List Char) : Prop where
  lower_eq : lower s = s
  trim_eq : trim s = s
  no_comma : ',' ∉ s
  no_equals : '=' ∉ s

theorem clean_lower_trim {s : List Char} (hcomma : ',' ∉ s) (hequals : '=' ∉ s) :
    Clean (lower (trim s)) where
  lower_eq := lower_lower _
  trim_eq := by rw [trim_lower, trim_trim]
  no_comma := not_mem_lower (by decide) fun hmem => hcomma (mem_of_mem_trim hmem)
  no_equals := not_mem_lower (by decide) fun hmem => hequals (mem_of_mem_trim hmem)

/-- A directive as it is read. -/
structure CleanDirective (directive : String × Option String) : Prop where
  key_ne : directive.1.toList ≠ []
  key : Clean directive.1.toList
  value : ∀ value ∈ directive.2, Clean value.toList

theorem cleanDirective_of_readPart? {part : List Char} {directive : String × Option String}
    (hpart : ',' ∉ part) (h : readPart? part = some directive) : CleanDirective directive := by
  have hcut : ∀ s : List Char, ',' ∉ s → Clean (lower (trim (cutFirst '=' s).1)) := by
    intro s hs
    rcases cutFirst_cases '=' s with ⟨hequals, hcut⟩ | ⟨before, rest, rfl, hequals, hcut⟩
    · rw [hcut]
      exact clean_lower_trim hs hequals
    · rw [hcut]
      exact clean_lower_trim (fun hmem => hs (List.mem_append_left _ hmem)) hequals
  rw [readPart?_eq] at h
  split at h
  · cases h
  · rename_i hkey
    obtain rfl := Option.some.inj h
    refine ⟨?_, ?_, ?_⟩
    · simpa using hkey
    · rw [String.toList_ofList]
      exact hcut part hpart
    · intro value hvalue
      obtain ⟨raw, hraw, rfl⟩ := Option.map_eq_some_iff.1 hvalue
      rw [String.toList_ofList]
      apply hcut
      rcases cutFirst_cases '=' part with ⟨-, hnone⟩ | ⟨before, rest, rfl, -, hrest⟩
      · rw [hnone] at hraw
        cases hraw
      · rw [hrest] at hraw
        obtain rfl := Option.some.inj hraw
        intro hmem
        exact hpart (List.mem_append_right _ (List.mem_cons_of_mem _ hmem))

theorem cleanDirective_of_mem_read {content : List Char} {directive : String × Option String}
    (h : directive ∈ read content) : CleanDirective directive := by
  rw [read_eq] at h
  obtain ⟨part, hpart, hread⟩ := List.mem_filterMap.1 (Entries.mem_of_mem_ofPairs h)
  exact cleanDirective_of_readPart? (not_mem_of_mem_splitWhere hpart) hread

theorem nodup_keys_read (content : List Char) : (Entries.keys (read content)).Nodup :=
  Entries.nodup_keys_ofPairs _

/-! ## Writing directives -/

namespace CleanDirective

variable {directive : String × Option String}

theorem no_comma (h : CleanDirective directive) : ',' ∉ writeDirective directive := by
  obtain ⟨key, value⟩ := directive
  cases value with
  | none => exact h.key.no_comma
  | some value =>
    have hvalue := h.value value rfl
    simp only [writeDirective, List.mem_append, List.mem_cons, not_or]
    exact ⟨h.key.no_comma, by decide, hvalue.no_comma⟩

-- A directive that is written out reads as itself.
theorem readPart?_write (h : CleanDirective directive) :
    readPart? (writeDirective directive) = some directive := by
  obtain ⟨key, value⟩ := directive
  have hkey : lower (trim key.toList) = key.toList := by rw [h.key.trim_eq, h.key.lower_eq]
  have hentry : entryOf (writeDirective (key, value)) = (key.toList, value) := by
    cases value with
    | none => rw [writeDirective, entryOf, cutFirst_of_not_mem h.key.no_equals, hkey]; rfl
    | some value =>
      have hvalue := h.value value rfl
      rw [writeDirective, entryOf, cutFirst_append h.key.no_equals, hkey, Option.map_some,
        cutFirst_of_not_mem hvalue.no_equals, hvalue.trim_eq, hvalue.lower_eq, String.ofList_toList]
  rw [readPart?_eq, hentry, if_neg (by simpa using h.key_ne), String.ofList_toList]

end CleanDirective

section Write

variable {directives : Entries (Option String)}

theorem splitWhere_write (hne : directives ≠ [])
    (h : ∀ directive ∈ directives, CleanDirective directive) :
    splitWhere (· == ',') (write directives) = directives.map writeDirective := by
  apply splitWhere_intercalate
  · simpa using hne
  · intro piece hpiece
    obtain ⟨directive, hmem, rfl⟩ := List.mem_map.1 hpiece
    exact (h directive hmem).no_comma

theorem filterMap_readPart?_write (h : ∀ directive ∈ directives, CleanDirective directive) :
    (directives.map writeDirective).filterMap readPart? = directives := by
  induction directives with
  | nil => rfl
  | cons directive rest ih =>
    obtain ⟨hdirective, hrest⟩ := List.forall_mem_cons.1 h
    rw [List.map_cons, List.filterMap_cons_some hdirective.readPart?_write, ih hrest]

/-- Directives as they are read from a text are read again from the text in which they are written
out. -/
theorem read_write (hne : directives ≠ [])
    (h : ∀ directive ∈ directives, CleanDirective directive)
    (hnodup : (Entries.keys directives).Nodup) : read (write directives) = directives := by
  rw [read_eq, splitWhere_write hne h, filterMap_readPart?_write h,
    Entries.ofPairs_of_nodup hnodup]

end Write

theorem read_write_read {content : List Char} (hne : read content ≠ []) :
    read (write (read content)) = read content :=
  read_write hne (fun _ => cleanDirective_of_mem_read) (nodup_keys_read content)

/-! ## The problem of one directive -/

/-- The problem of a directive, if there is one. -/
def problemOf? (key : String) (value : Option String) : Option Problem :=
  match Entries.get? key directiveChecks with
  | some checkValue => (checkValue value).head?
  | none => some (unknownDirective key)

-- No value is found at fault twice.
theorem length_checkMaximumScale (value : Option String) :
    (checkMaximumScale value).length ≤ 1 := by
  unfold checkMaximumScale checkScale
  split
  · split <;> simp
  · split
    · simp
    · split <;> simp

theorem length_checkUserScalable (value : Option String) :
    (checkUserScalable value).length ≤ 1 := by
  unfold checkUserScalable
  by_cases hclosed : (value == some "no" || value == some "0") = true
  · have hexists : [some "0", some "1", some "yes", some "no"].contains value = true := by
      rw [Bool.or_eq_true, beq_iff_eq, beq_iff_eq] at hclosed
      rcases hclosed with rfl | rfl <;> decide
    rw [if_pos hclosed, if_pos hexists]
    simp
  · rw [if_neg hclosed, List.nil_append]
    split <;> simp

theorem length_directiveChecks :
    ∀ row ∈ directiveChecks, ∀ value, (row.2 value).length ≤ 1 := by
  have hdimension : ∀ directive code keyword value,
      (checkDimension directive code keyword value).length ≤ 1 := by
    intro directive code keyword value
    unfold checkDimension
    split <;> split <;> simp
  have hscale : ∀ directive label value, (checkScale directive label value).length ≤ 1 := by
    intro directive label value
    unfold checkScale
    split
    · simp
    · split <;> simp
  simp only [directiveChecks, List.forall_mem_cons]
  refine ⟨hdimension _ _ _, hdimension _ _ _, hscale _ _, hscale _ _, length_checkMaximumScale,
    length_checkUserScalable, ?_, ?_, fun _ => Nat.le_refl 1, by simp⟩
  · intro value
    unfold checkInteractiveWidget
    split <;> simp
  · intro value
    unfold checkViewportFit
    split <;> simp

theorem directive?_of_problemOf? {key : String} {value : Option String} {p : Problem}
    (h : problemOf? key value = some p) : p.directive? = some key := by
  unfold problemOf? at h
  split at h
  · rename_i checkValue hrow
    exact (blames_directiveChecks _ (Entries.mem_of_get? hrow) value p
      (List.mem_of_head? h)).directive
  · obtain rfl := Option.some.inj h
    exact directive?_unknownDirective key

theorem eq_toList_head? {problems : List Problem} (h : problems.length ≤ 1) :
    problems = problems.head?.toList := by
  cases problems with
  | nil => rfl
  | cons p rest =>
    have hrest : rest = [] := List.eq_nil_of_length_eq_zero (by simpa using h)
    rw [hrest]
    rfl

theorem nodup_keys_directiveChecks : (Entries.keys directiveChecks).Nodup := by decide

theorem problemOf?_of_mem {row : String × (Option String → List Problem)}
    (h : row ∈ directiveChecks) (value : Option String) :
    problemOf? row.1 value = (row.2 value).head? := by
  rw [problemOf?, Entries.get?_of_mem nodup_keys_directiveChecks h]

theorem problemOf?_of_not_mem {key : String} (h : key ∉ Entries.keys directiveChecks)
    (value : Option String) : problemOf? key value = some (unknownDirective key) := by
  rw [problemOf?, Entries.get?_eq_none_iff.2 h]

/-! ## All problems -/

/-- The keys that name no directive. -/
def unknownKeys (directives : Entries (Option String)) : List String :=
  (Entries.keys directives).filter fun key => !(Entries.keys directiveChecks).contains key

theorem mem_unknownKeys {directives : Entries (Option String)} {key : String} :
    key ∈ unknownKeys directives ↔
      key ∈ Entries.keys directives ∧ key ∉ Entries.keys directiveChecks := by
  simp [unknownKeys]

/-- The problem of the directive with this key, if it is given. -/
def problemIn? (directives : Entries (Option String)) (key : String) : Option Problem :=
  (Entries.get? key directives).bind (problemOf? key)

/-- The problems are those of the directives that exist and then those of the others, one by
one. -/
theorem checkDirectives_eq (directives : Entries (Option String)) :
    checkDirectives directives =
      (Entries.keys directiveChecks).filterMap (problemIn? directives) ++
        (unknownKeys directives).map unknownDirective := by
  rw [checkDirectives, ← unknownKeys, Entries.keys, List.filterMap_map,
    List.filterMap_eq_flatMap_toList]
  congr 1
  apply List.flatMap_congr
  rintro ⟨key, checkValue⟩ hrow
  dsimp only [Function.comp_apply, problemIn?]
  cases Entries.get? key directives with
  | none => rfl
  | some value =>
    have hlength := length_directiveChecks _ hrow value
    rw [Option.bind_some, problemOf?_of_mem hrow]
    exact eq_toList_head? hlength

theorem mem_checkDirectives {directives : Entries (Option String)} {p : Problem} :
    p ∈ checkDirectives directives ↔ ∃ key, problemIn? directives key = some p := by
  rw [checkDirectives_eq, List.mem_append, List.mem_filterMap, List.mem_map]
  constructor
  · rintro (⟨key, -, hproblem⟩ | ⟨key, hkey, rfl⟩)
    · exact ⟨key, hproblem⟩
    · obtain ⟨hgiven, hunknown⟩ := mem_unknownKeys.1 hkey
      obtain ⟨value, hvalue⟩ : ∃ value, Entries.get? key directives = some value :=
        Option.ne_none_iff_exists'.1 fun hnone => Entries.get?_eq_none_iff.1 hnone hgiven
      exact ⟨key, by rw [problemIn?, hvalue, Option.bind_some, problemOf?_of_not_mem hunknown]⟩
  · rintro ⟨key, hproblem⟩
    by_cases hknown : key ∈ Entries.keys directiveChecks
    · exact .inl ⟨key, hknown, hproblem⟩
    · obtain ⟨value, hvalue, hp⟩ := Option.bind_eq_some_iff.1 hproblem
      rw [problemOf?_of_not_mem hknown] at hp
      have hgiven := List.mem_map_of_mem (f := (·.1)) (Entries.mem_of_get? hvalue)
      exact .inr ⟨key, mem_unknownKeys.2 ⟨hgiven, hknown⟩, Option.some.inj hp⟩

theorem directive?_of_problemIn? {directives : Entries (Option String)} {key : String}
    {p : Problem} (h : problemIn? directives key = some p) : p.directive? = some key := by
  obtain ⟨value, -, hp⟩ := Option.bind_eq_some_iff.1 h
  exact directive?_of_problemOf? hp

-- The problems name different directives, since the keys they come from are different.
theorem nodup_directive?_checkDirectives {directives : Entries (Option String)}
    (hnodup : (Entries.keys directives).Nodup) :
    ((checkDirectives directives).map Problem.directive?).Nodup := by
  rw [checkDirectives_eq, List.map_append, List.map_filterMap, List.map_map, List.nodup_append]
  refine ⟨?_, ?_, ?_⟩
  · refine List.Nodup.filterMap ?_ nodup_keys_directiveChecks
    intro key key' directive hkey hkey'
    obtain ⟨p, hp, rfl⟩ := Option.map_eq_some_iff.1 hkey
    obtain ⟨p', hp', hsame⟩ := Option.map_eq_some_iff.1 hkey'
    rw [directive?_of_problemIn? hp, directive?_of_problemIn? hp'] at hsame
    exact (Option.some.inj hsame).symm
  · refine List.Nodup.map ?_ (hnodup.filter _)
    intro key key' hsame
    exact Option.some.inj hsame
  · intro directive hknown directive' hunknown
    obtain ⟨key, hkey, hmap⟩ := List.mem_filterMap.1 hknown
    obtain ⟨p, hp, rfl⟩ := Option.map_eq_some_iff.1 hmap
    obtain ⟨key', hkey', rfl⟩ := List.mem_map.1 hunknown
    rw [directive?_of_problemIn? hp]
    intro hsame
    obtain rfl : key = key' := Option.some.inj hsame
    exact (mem_unknownKeys.1 hkey').2 hkey

-- A directive that exists is never found not to.
theorem code_ne_of_mem_known {directives : Entries (Option String)} {p : Problem}
    (h : p ∈ (Entries.keys directiveChecks).filterMap (problemIn? directives)) :
    p.code ≠ "invalidDirective" := by
  obtain ⟨key, hkey, hproblem⟩ := List.mem_filterMap.1 h
  obtain ⟨row, hrow, rfl⟩ := List.mem_map.1 hkey
  obtain ⟨value, -, hp⟩ := Option.bind_eq_some_iff.1 hproblem
  rw [problemOf?_of_mem hrow] at hp
  have hcode := (blames_directiveChecks row hrow value p (List.mem_of_head? hp)).code
  intro hinvalid
  rw [hinvalid] at hcode
  exact absurd hcode (by decide)

/-! ## Elements -/

theorem check_withValue_write {e : Element} {content : String}
    (hcontent : e.attribute? "content" = some content) (hne : read content.toList ≠ []) :
    check (e.withValue "content" (String.ofList (write (read content.toList)))) = check e := by
  have hread := read_write_read hne
  have hfilled : content ≠ "" := by
    rintro rfl
    exact hne rfl
  have hwritten : String.ofList (write (read content.toList)) ≠ "" := by
    intro hempty
    rw [String.ofList_eq_empty_iff] at hempty
    rw [hempty] at hread
    exact hne hread.symm
  have hcontent' :=
    Element.attribute?_withValue (String.ofList (write (read content.toList)))
      (Element.hasAttribute_of_attribute? hcontent)
  rw [check_of_content hcontent' hwritten, String.toList_ofList, hread,
    check_of_content hcontent hfilled]

/-- The directives of a text, if it has any, can be written out and read again, and an element with
the text that was written has the problems it had with the first one.  Every problem names one of
the directives, no two name the same, and which problem a directive has depends on its key and its
value alone; a key that names no directive is a problem, and these problems come last, in the order
of the keys. -/
theorem read_write_check (content : String) (hne : read content.toList ≠ []) :
    read (write (read content.toList)) = read content.toList ∧
    ∀ e : Element, e.attribute? "content" = some content →
      check (e.withValue "content" (String.ofList (write (read content.toList)))) = check e ∧
      (∀ p ∈ check e, ∃ key ∈ Entries.keys (read content.toList), p.directive? = some key) ∧
      ((check e).map Problem.directive?).Nodup ∧
      (∀ key value p, Entries.get? key (read content.toList) = some value →
        (p ∈ check e ∧ p.directive? = some key ↔ problemOf? key value = some p)) ∧
      (∀ key ∈ Entries.keys (read content.toList), key ∉ Entries.keys directiveChecks →
        ∃ p ∈ check e, p.directive? = some key ∧ p.code = "invalidDirective") ∧
      ∃ known, check e = known ++ (unknownKeys (read content.toList)).map unknownDirective ∧
        ∀ p ∈ known, p.code ≠ "invalidDirective" := by
  refine ⟨read_write_read hne, fun e hcontent => ?_⟩
  have hfilled : content ≠ "" := by
    rintro rfl
    exact hne rfl
  refine ⟨check_withValue_write hcontent hne, ?_⟩
  rw [check_of_content hcontent hfilled]
  refine ⟨?_, nodup_directive?_checkDirectives (nodup_keys_read _), ?_, ?_,
    _, checkDirectives_eq _, fun p => code_ne_of_mem_known⟩
  · intro p hp
    obtain ⟨key, hproblem⟩ := mem_checkDirectives.1 hp
    obtain ⟨value, hvalue, -⟩ := Option.bind_eq_some_iff.1 hproblem
    exact ⟨key, List.mem_map_of_mem (Entries.mem_of_get? hvalue), directive?_of_problemIn? hproblem⟩
  · intro key value p hvalue
    have hin : problemIn? (read content.toList) key = problemOf? key value := by
      rw [problemIn?, hvalue, Option.bind_some]
    rw [← hin, mem_checkDirectives]
    constructor
    · rintro ⟨⟨key', hproblem⟩, hdirective⟩
      rw [directive?_of_problemIn? hproblem] at hdirective
      rwa [← Option.some.inj hdirective]
    · intro hproblem
      exact ⟨⟨key, hproblem⟩, directive?_of_problemIn? hproblem⟩
  · intro key hgiven hunknown
    have hmem : unknownDirective key ∈ checkDirectives (read content.toList) := by
      rw [checkDirectives_eq]
      exact List.mem_append_right _ (List.mem_map_of_mem (mem_unknownKeys.2 ⟨hgiven, hunknown⟩))
    exact ⟨_, hmem, directive?_unknownDirective key, rfl⟩

/-- A content with a key that is given twice, a value with an equals sign in it, a word that ends in
a sigma, and nothing between two commas. -/
def strayContent : String := " Width = 0=1 ,ΟΔΟΣ,, USER-SCALABLE=No,width=\tDevice-Width"

theorem read_write_check_strayContent :
    read strayContent.toList =
      [("width", some "device-width"), ("οδος", none), ("user-scalable", some "no")] ∧
    write (read strayContent.toList) = "width=device-width,οδος,user-scalable=no".toList ∧
    read "width=device-width,οδος,user-scalable=no".toList = read strayContent.toList ∧
    check ((viewportWith strayContent).withValue "content"
      "width=device-width,οδος,user-scalable=no") = check (viewportWith strayContent) ∧
    ∃ p ∈ check (viewportWith strayContent),
      p.directive? = some "οδος" ∧ p.code = "invalidDirective" := by
  have hdirectives : read strayContent.toList =
      [("width", some "device-width"), ("οδος", none), ("user-scalable", some "no")] := by
    decide +kernel
  have hwritten : write (read strayContent.toList) =
      "width=device-width,οδος,user-scalable=no".toList := by
    decide +kernel
  have hne : read strayContent.toList ≠ [] := by
    rw [hdirectives]
    exact List.cons_ne_nil _ _
  obtain ⟨hread, hcheck⟩ := read_write_check strayContent hne
  obtain ⟨hsame, -, -, -, hunknown, -⟩ := hcheck (viewportWith strayContent) (by decide +kernel)
  rw [hwritten] at hread hsame
  rw [String.ofList_toList] at hsame
  refine ⟨hdirectives, hwritten, hread, hsame, hunknown "οδος" ?_ (by decide)⟩
  rw [hdirectives]
  decide

end HeadLint.Viewport
