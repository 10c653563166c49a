import HeadLint.Check.Viewport
import HeadLint.Proofs.Element
import HeadLint.Proofs.Entries
import HeadLint.Proofs.Text.Pieces

/-!
Viewport settings without a directive.  Reading puts the whole text in lower case before it is cut,
removing works on the text as it is; still, what is read from the text without a directive is what
was read before, without that directive, and so are the problems.
-/

namespace HeadLint

open Text

/-- The directive that a problem names. -/
def Problem.directive? (p : Problem) : Option String :=
  (Entries.get? "directive" p.data).bind Json.str?

namespace Viewport

/-! ## Problems of one directive -/

/-- A problem that names a directive and has one of some codes. -/
structure Blames (directive : String) (codes : List String) (p : Problem) : Prop where
  directive : p.directive? = some directive
  code : p.code ∈ codes

theorem blames_checkDimension (directive code keyword : String) (value : Option String) :
    ∀ p ∈ checkDimension directive code keyword value, Blames directive [code] p := by
  unfold checkDimension
  split
  · split
    · exact List.forall_mem_singleton.2 ⟨rfl, List.mem_singleton.2 rfl⟩
    · simp
  · split
    · simp
    · exact List.forall_mem_singleton.2 ⟨rfl, List.mem_singleton.2 rfl⟩

theorem blames_checkScale (directive label : String) (value : Option String) :
    ∀ p ∈ checkScale directive label value, Blames directive ["invalidScale"] p := by
  unfold checkScale
  split
  · exact List.forall_mem_singleton.2 ⟨rfl, List.mem_singleton.2 rfl⟩
  · split
    · exact List.forall_mem_singleton.2 ⟨rfl, List.mem_singleton.2 rfl⟩
    · simp

theorem blames_checkMaximumScale (value : Option String) :
    ∀ p ∈ checkMaximumScale value,
      Blames "maximum-scale" ["invalidScale", "maximumScaleAccessibility"] p := by
  unfold checkMaximumScale
  split
  · split
    · exact List.forall_mem_singleton.2 ⟨rfl, List.mem_cons_of_mem _ (List.mem_singleton.2 rfl)⟩
    · simp
  · intro p hp
    obtain ⟨hdirective, hcode⟩ := blames_checkScale "maximum-scale" "maximum" value p hp
    exact ⟨hdirective, List.mem_cons.2 (.inl (List.mem_singleton.1 hcode))⟩

theorem blames_checkUserScalable (value : Option String) :
    ∀ p ∈ checkUserScalable value,
      Blames "user-scalable" ["userScalableAccessibility", "unsupportedValue"] p := by
  unfold checkUserScalable
  refine List.forall_mem_append.2 ⟨?_, ?_⟩
  · split
    · exact List.forall_mem_singleton.2 ⟨rfl, List.mem_cons_self ..⟩
    · simp
  · split
    · simp
    · exact List.forall_mem_singleton.2 ⟨rfl, List.mem_cons_of_mem _ (List.mem_singleton.2 rfl)⟩

theorem blames_checkInteractiveWidget (value : Option String) :
    ∀ p ∈ checkInteractiveWidget value, Blames "interactive-widget" ["unsupportedValue"] p := by
  unfold checkInteractiveWidget
  split
  · simp
  · exact List.forall_mem_singleton.2 ⟨rfl, List.mem_singleton.2 rfl⟩

theorem blames_checkViewportFit (value : Option String) :
    ∀ p ∈ checkViewportFit value, Blames "viewport-fit" ["unsupportedValue"] p := by
  unfold checkViewportFit
  split
  · simp
  · exact List.forall_mem_singleton.2 ⟨rfl, List.mem_singleton.2 rfl⟩

theorem blames_checkShrinkToFit (value : Option String) :
    ∀ p ∈ checkShrinkToFit value, Blames "shrink-to-fit" ["obsoleteShrinkToFit"] p :=
  List.forall_mem_singleton.2 ⟨rfl, List.mem_singleton.2 rfl⟩

/-- The codes of problems with directives that exist. -/
def directiveCodes : List String :=
  ["invalidWidth", "invalidHeight", "invalidScale", "maximumScaleAccessibility",
    "userScalableAccessibility", "unsupportedValue", "obsoleteShrinkToFit"]

theorem Blames.mono {directive : String} {codes codes' : List String} {p : Problem}
    (h : Blames directive codes p) (hcodes : ∀ code ∈ codes, code ∈ codes') :
    Blames directive codes' p :=
  ⟨h.directive, hcodes _ h.code⟩

/-- Every check of a directive blames that directive. -/
theorem blames_directiveChecks :
    ∀ row ∈ directiveChecks, ∀ value, ∀ p ∈ row.2 value, Blames row.1 directiveCodes p := by
  simp only [directiveChecks, List.forall_mem_cons]
  refine ⟨?_, ?_, ?_, ?_, ?_, ?_, ?_, ?_, ?_, by simp⟩ <;> intro value p hp
  · exact (blames_checkDimension _ _ _ value p hp).mono (by decide)
  · exact (blames_checkDimension _ _ _ value p hp).mono (by decide)
  · exact (blames_checkScale _ _ value p hp).mono (by decide)
  · exact (blames_checkScale _ _ value p hp).mono (by decide)
  · exact (blames_checkMaximumScale value p hp).mono (by decide)
  · exact (blames_checkUserScalable value p hp).mono (by decide)
  · exact (blames_checkInteractiveWidget value p hp).mono (by decide)
  · exact (blames_checkViewportFit value p hp).mono (by decide)
  · exact (blames_checkShrinkToFit value p hp).mono (by decide)

theorem directive?_unknownDirective (directive : String) :
    (unknownDirective directive).directive? = some directive :=
  rfl

/-- The codes of all problems of a viewport element. -/
def problemCodes : List String :=
  "missingContent" :: "invalidDirective" :: directiveCodes

theorem code_mem_problemCodes (e : Element) : ∀ p ∈ check e, p.code ∈ problemCodes := by
  unfold check
  split
  · exact List.forall_mem_singleton.2 (List.mem_cons_self ..)
  · unfold checkDirectives
    refine List.forall_mem_append.2 ⟨?_, ?_⟩
    · intro p hp
      obtain ⟨row, hrow, hproblem⟩ := List.mem_flatMap.1 hp
      dsimp only at hproblem
      split at hproblem
      · rename_i value _
        have hcode := (blames_directiveChecks row hrow value p hproblem).code
        exact List.mem_cons_of_mem _ (List.mem_cons_of_mem _ hcode)
      · cases hproblem
    · intro p hp
      obtain ⟨key, -, rfl⟩ := List.mem_map.1 hp
      exact List.mem_cons_of_mem _ (List.mem_cons_self ..)

/-! ## Problems without a directive -/

theorem checkDirectives_without (absent : String) (directives : Entries (Option String)) :
    checkDirectives (Entries.without absent directives) =
      (checkDirectives directives).filter fun p => p.directive? != some absent := by
  unfold checkDirectives
  rw [List.filter_append, List.filter_flatMap]
  congr 1
  · apply List.flatMap_congr
    rintro ⟨key, checkValue⟩ hrow
    have hblames := blames_directiveChecks _ hrow
    dsimp only at hblames ⊢
    rw [Entries.get?_without]
    by_cases hkey : key = absent
    · rw [if_pos hkey]
      -- All that the check of this directive says goes.
      refine (List.filter_eq_nil_iff.2 fun p hp => ?_).symm
      split at hp
      · rename_i value _
        simp [(hblames value p hp).directive, hkey]
      · cases hp
    · rw [if_neg hkey]
      refine (List.filter_eq_self.2 fun p hp => ?_).symm
      split at hp
      · rename_i value _
        simp [(hblames value p hp).directive, hkey]
      · cases hp
  · rw [Entries.keys_without, List.filter_map, List.filter_filter, List.filter_filter]
    congr 1
    apply List.filter_congr
    intro key _
    rw [Function.comp_apply, directive?_unknownDirective, Bool.and_comm]
    congr 1

/-! ## Entries of a text -/

/-- What an entry says: its key and its value, in lower case and without white space around
them. -/
def entryOf (part : List Char) : List Char × Option String :=
  (lower (trim (cutFirst '=' part).1),
    (cutFirst '=' part).2.map fun value =>
      String.ofList (lower (trim (cutFirst '=' value).1)))

/-- The directive of an entry that was cut out of a text before that was put in lower case. -/
def readPart? (part : List Char) : Option (String × Option String) :=
  readDirective? (lower part)

theorem readPart?_eq (part : List Char) :
    readPart? part =
      if (entryOf part).1.isEmpty then none
      else some (String.ofList (entryOf part).1, (entryOf part).2) := by
  rw [readPart?, readDirective?, cutFirst_lower boundary_equals (by decide)]
  dsimp only [entryOf]
  rw [trim_lower, Option.map_map]
  congr 4
  funext value
  rw [Function.comp_apply, cutFirst_lower boundary_equals (by decide), trim_lower]

theorem read_eq (content : List Char) :
    read content = Entries.ofPairs ((splitWhere (· == ',') content).filterMap readPart?) := by
  rw [read, splitWhere_lower boundary_comma (by decide), List.filterMap_map]
  rfl

-- White space around an entry says nothing.
theorem readPart?_cons_of_blank {c : Char} (h : isBlank c = true) (part : List Char) :
    readPart? (c :: part) = readPart? part := by
  have hc : '=' ∉ [c] := by simpa using (ne_of_isBlank h (by decide)).symm
  have hcut := cutFirst_append_of_not_mem hc part
  have hentry : entryOf (c :: part) = entryOf part := by
    rw [entryOf, ← List.singleton_append, hcut, List.singleton_append, trim_cons_of_blank h,
      entryOf]
  rw [readPart?_eq, readPart?_eq, hentry]

theorem readPart?_concat_of_blank {c : Char} (h : isBlank c = true) (part : List Char) :
    readPart? (part ++ [c]) = readPart? part := by
  have hc : '=' ∉ [c] := by simpa using (ne_of_isBlank h (by decide)).symm
  have hkey : ∀ s, trim (cutFirst '=' (s ++ [c])).1 = trim (cutFirst '=' s).1 := by
    intro s
    rcases cutFirst_cases '=' s with ⟨hs, hcut⟩ | ⟨before, rest, rfl, hbefore, hcut⟩
    · rw [hcut, cutFirst_of_not_mem (by simp only [List.mem_append, hs, hc, or_self,
        not_false_eq_true]), trim_concat_of_blank h]
    · rw [hcut, List.append_assoc, List.cons_append, cutFirst_append hbefore]
  have hentry : entryOf (part ++ [c]) = entryOf part := by
    rw [entryOf, hkey, entryOf]
    rcases cutFirst_cases '=' part with ⟨hpart, hcut⟩ | ⟨before, rest, rfl, hbefore, hcut⟩
    · rw [hcut, cutFirst_of_not_mem (by simp only [List.mem_append, hpart, hc, or_self,
        not_false_eq_true])]
    · rw [hcut, List.append_assoc, List.cons_append, cutFirst_append hbefore, Option.map_some,
        Option.map_some, hkey]
  rw [readPart?_eq, readPart?_eq, hentry]

theorem readPart?_of_isBlankText {part : List Char} (h : isBlankText part = true) :
    readPart? part = none := by
  induction part with
  | nil => rfl
  | cons c part ih =>
    rw [isBlankText, List.all_cons, Bool.and_eq_true] at h
    rw [readPart?_cons_of_blank h.1, ih h.2]

/-! ## Whole texts -/

theorem read_cons_of_blank {c : Char} (h : isBlank c = true) (content : List Char) :
    read (c :: content) = read content := by
  obtain ⟨part, parts, hparts, hparts'⟩ :=
    splitWhere_cons_of_ne (ne_of_isBlank h (by decide : isBlank ',' = false)) content
  rw [read_eq, read_eq, hparts, hparts', List.filterMap_cons, List.filterMap_cons,
    readPart?_cons_of_blank h]

theorem read_concat_of_blank {c : Char} (h : isBlank c = true) (content : List Char) :
    read (content ++ [c]) = read content := by
  obtain ⟨parts, part, hparts, hparts'⟩ :=
    splitWhere_concat_of_ne (ne_of_isBlank h (by decide : isBlank ',' = false)) content
  rw [read_eq, read_eq, hparts, hparts', List.filterMap_append, List.filterMap_append,
    List.filterMap_cons, List.filterMap_cons, readPart?_concat_of_blank h]

theorem read_trim (content : List Char) : read (trim content) = read content :=
  apply_trim (fun _ content h => read_cons_of_blank h content)
    (fun _ content h => read_concat_of_blank h content) content

/-- What is read from the entries that are kept. -/
theorem read_keep (wanted : List Char → Bool) (content : List Char) :
    read (keep wanted content) =
      Entries.ofPairs (((splitWhere (· == ',') content).filter wanted).filterMap readPart?) := by
  have hblank : ∀ parts : List (List Char),
      (parts.filter fun part => !isBlankText part).filterMap readPart? =
        parts.filterMap readPart? := by
    intro parts
    rw [List.filterMap_filter]
    apply List.filterMap_congr
    intro part _
    cases hpart : isBlankText part with
    | false => rfl
    | true => exact (readPart?_of_isBlankText hpart).symm
  rw [keep, read_trim, ← hblank]
  generalize hkept : (((splitWhere (· == ',') content).filter wanted).filter fun part =>
    !isBlankText part) = kept
  cases kept with
  | nil => rfl
  | cons part parts =>
    rw [read_eq, splitWhere_intercalate (List.cons_ne_nil _ _)]
    intro piece hpiece
    rw [← hkept] at hpiece
    exact not_mem_of_mem_splitWhere (List.mem_of_mem_filter (List.mem_of_mem_filter hpiece))

/-- Removing a directive from a text removes it from what is read, and nothing else. -/
theorem read_remove (directive : String) (content : List Char) :
    read (remove directive content) = Entries.without directive (read content) := by
  rw [remove, read_keep, read_eq, ← Entries.ofPairs_filter, List.filterMap_filter,
    List.filter_filterMap]
  congr 1
  apply List.filterMap_congr
  intro part _
  rw [readPart?_eq]
  cases (entryOf part).1.isEmpty with
  | true => simp
  | false =>
    rw [if_neg Bool.false_ne_true, Option.filter_some]
    rfl

/-! ## Elements -/

theorem check_of_content {e : Element} {content : String}
    (h : e.attribute? "content" = some content) (hne : content ≠ "") :
    check e = checkDirectives (read content.toList) := by
  rw [check, Element.filled?_of_attribute? h hne]

theorem check_of_empty {e : Element} (h : e.attribute? "content" = some "") :
    ∃ p, check e = [p] ∧ p.code = "missingContent" := by
  have hfilled : e.filled? "content" = none := by
    rw [Element.filled?, h]
    rfl
  rw [check, hfilled]
  exact ⟨_, rfl, rfl⟩

/-- A text without a directive reads as before without that directive.  An element with that text as
its content has the problems it had before, in their order, less those that name the directive;
where nothing is left of the text, its one problem is that the content is missing. -/
theorem read_remove_check (directive content : String) :
    read (remove directive content.toList) = Entries.without directive (read content.toList) ∧
    ∀ e e' : Element, content ≠ "" → e.attribute? "content" = some content →
      e'.attribute? "content" = some (String.ofList (remove directive content.toList)) →
      (remove directive content.toList ≠ [] →
        check e' = (check e).filter fun p => p.directive? != some directive) ∧
      (remove directive content.toList = [] →
        ∃ p, check e' = [p] ∧ p.code = "missingContent") := by
  refine ⟨read_remove directive content.toList, fun e e' hne hcontent hcontent' => ⟨?_, ?_⟩⟩
  · intro hrest
    have hne' : String.ofList (remove directive content.toList) ≠ "" := by
      simpa using hrest
    rw [check_of_content hcontent' hne', check_of_content hcontent hne, String.toList_ofList,
      read_remove, checkDirectives_without]
  · intro hrest
    rw [hrest] at hcontent'
    exact check_of_empty hcontent'

/-- A content with a directive that is given twice, in capitals and with white space around it. -/
def zoomContent : String := "width=0, USER-SCALABLE = NO ,,x,user-scalable=0"

/-- A viewport element with a content. -/
def viewportWith (content : String) : Element :=
  { tag := "meta", attrs := [("name", some "viewport"), ("CONTENT", some content)] }

theorem read_remove_check_zoomContent :
    remove "user-scalable" zoomContent.toList = "width=0,x".toList ∧
      read "width=0,x".toList =
        Entries.without "user-scalable" (read zoomContent.toList) ∧
      (check (viewportWith zoomContent)).map (·.code) =
        ["invalidWidth", "userScalableAccessibility", "invalidDirective"] ∧
      check (viewportWith "width=0,x") =
        ((check (viewportWith zoomContent)).filter fun p =>
          p.directive? != some "user-scalable") ∧
      remove "user-scalable" "user-scalable=no".toList = [] ∧
      ∃ p, check (viewportWith "") = [p] ∧ p.code = "missingContent" := by
  have hrest : remove "user-scalable" zoomContent.toList = "width=0,x".toList := by decide +kernel
  obtain ⟨hread, hcheck⟩ := read_remove_check "user-scalable" zoomContent
  rw [hrest] at hread hcheck
  have hnone : remove "user-scalable" "user-scalable=no".toList = [] := by decide +kernel
  obtain ⟨-, hmissing⟩ := read_remove_check "user-scalable" "user-scalable=no"
  rw [hnone] at hmissing
  refine ⟨hrest, hread, by decide +kernel, ?_, hnone, ?_⟩
  · exact (hcheck (viewportWith zoomContent) (viewportWith "width=0,x") (by decide)
      (by decide +kernel) (by decide +kernel)).1 (by decide)
  · exact (hmissing (viewportWith "user-scalable=no") (viewportWith "") (by decide)
      (by decide +kernel) (by decide +kernel)).2 rfl

end Viewport

end HeadLint
