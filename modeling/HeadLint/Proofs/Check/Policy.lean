import HeadLint.Check.Policy
import HeadLint.Proofs.Check.Viewport

/-!
Policies segment by segment.  A policy is trimmed and cut at semicolons together with the white
space around them.  The words of its parts are those of the segments between plain semicolons, so
the directives of a policy, and what is reported about them, depend on these segments alone.
-/

namespace HeadLint.Policy

open Text

/-! ## Separators -/

/-- A separator is white space, a semicolon, and the white space behind it. -/
theorem separatorLength?_eq_some {s : List Char} {n : Nat} (h : separatorLength? s = some n) :
    ∃ blanks rest, s = blanks ++ ';' :: rest ∧ (∀ c ∈ blanks, isBlank c = true) ∧ 0 < n ∧
      s.drop n = trimStart rest := by
  obtain ⟨blanks, hs, hblanks, -⟩ := exists_blanks s
  unfold separatorLength? at h
  split at h
  · rename_i rest hrest
    rw [hrest] at hs
    obtain ⟨behind, hbehind, -, -⟩ := exists_blanks rest
    have hsplit : s = (blanks ++ ';' :: behind) ++ trimStart rest := by
      rw [List.append_assoc, List.cons_append, ← hbehind, ← hs]
    have hn : n = (blanks ++ ';' :: behind).length := by
      rw [← Option.some.inj h, hsplit, List.length_append, Nat.add_sub_cancel]
    refine ⟨blanks, rest, hs, hblanks, ?_, ?_⟩
    · rw [hn, List.length_append, List.length_cons]
      omega
    · rw [hn, hsplit, List.drop_left]
  · cases h

theorem separatorLength?_semicolon (s : List Char) : separatorLength? (';' :: s) ≠ none := by
  have hstays : trimStart (';' :: s) = ';' :: s := trimStart_of_stops (stops_cons.2 (by decide))
  rw [separatorLength?, hstays]
  exact Option.some_ne_none _

/-! ## Parts and segments -/

/-- The text between plain semicolons. -/
def segments (s : List Char) : List (List Char) :=
  splitWhere (· == ';') s

theorem words_segments_cons {c : Char} (h : isBlank c = true) (s : List Char) :
    (segments (c :: s)).map words = (segments s).map words := by
  obtain ⟨segment, more, hs, hcons⟩ :=
    splitWhere_cons_of_ne (ne_of_isBlank h (by decide : isBlank ';' = false)) s
  rw [segments, segments, hs, hcons, List.map_cons, List.map_cons, words_cons_of_blank h]

theorem words_segments_concat {c : Char} (h : isBlank c = true) (s : List Char) :
    (segments (s ++ [c])).map words = (segments s).map words := by
  obtain ⟨more, segment, hs, hconcat⟩ :=
    splitWhere_concat_of_ne (ne_of_isBlank h (by decide : isBlank ';' = false)) s
  rw [segments, segments, hs, hconcat, List.map_append, List.map_append, List.map_singleton,
    List.map_singleton, words_concat_of_blank h]

/-- Parts that stand for segments: the first is the first segment without some white space at its
end, and the others have the words of the other segments. -/
inductive Covers : List (List Char) → List (List Char) → Prop where
  | first (part : List Char) {behind : List Char} {more others : List (List Char)} :
    (∀ c ∈ behind, isBlank c = true) → more.map words = others.map words →
      Covers (part :: more) ((part ++ behind) :: others)

theorem Covers.words_eq {parts segments : List (List Char)} (h : Covers parts segments) :
    parts.map words = segments.map words := by
  obtain ⟨part, hbehind, hmore⟩ := h
  rw [List.map_cons, List.map_cons, words_append_blanks hbehind, hmore]

-- A character in front goes to the first part, and to the first segment.
theorem Covers.cons {part segment : List Char} {parts segments : List (List Char)}
    (h : Covers (part :: parts) (segment :: segments)) (c : Char) :
    Covers ((c :: part) :: parts) ((c :: segment) :: segments) := by
  obtain ⟨part, hbehind, hmore⟩ := h
  exact .first (c :: part) hbehind hmore

theorem covers_splitFrom (skip : Nat) (s : List Char) :
    Covers (splitFrom skip s) (segments (s.drop skip)) := by
  induction s generalizing skip with
  | nil =>
    cases skip <;> exact .first [] (List.forall_mem_nil _) rfl
  | cons c s ih =>
    cases skip with
    | succ skip => exact ih skip
    | zero =>
      unfold splitFrom
      rw [List.drop_zero]
      split
      · -- The part ends here; the white space before the semicolon belongs to its segment.
        rename_i n hn
        obtain ⟨blanks, rest, hs, hblanks, hpos, hdrop⟩ := separatorLength?_eq_some hn
        obtain ⟨m, rfl⟩ := Nat.exists_eq_add_one.2 hpos
        have hmore := (ih m).words_eq
        rw [List.drop_succ_cons] at hdrop
        rw [hdrop, apply_trimStart (f := fun s => (segments s).map words)
          (fun c s h => words_segments_cons h s)] at hmore
        have hplain : ';' ∉ blanks := fun hmem => absurd (hblanks _ hmem) (by decide)
        rw [hs, segments, splitWhere_append hplain]
        exact .first [] hblanks hmore
      · rename_i hnone
        have hne : c ≠ ';' := by
          rintro rfl
          exact separatorLength?_semicolon s hnone
        obtain ⟨segment, others, hs, hcons⟩ := splitWhere_cons_of_ne hne s
        have hrest := ih 0
        rw [List.drop_zero, segments, hs] at hrest
        rw [segments, hcons]
        split
        · rename_i hnil
          rw [hnil] at hrest
          cases hrest
        · rename_i part parts hparts
          rw [hparts] at hrest
          exact hrest.cons c

/-- Neither the white space around semicolons nor that around the whole text makes a difference. -/
theorem words_splitFrom_trim (content : List Char) :
    (splitFrom 0 (trim content)).map words = (segments content).map words := by
  rw [(covers_splitFrom 0 _).words_eq, List.drop_zero]
  exact apply_trim (f := fun s => (segments s).map words)
    (fun c s h => words_segments_cons h s) (fun c s h => words_segments_concat h s) content

/-! ## Directives -/

/-- The directive of the words of a segment: the first in lower case, and the others separated by
single spaces. -/
def directiveOf? : List (List Char) → Option (String × String)
  | [] => none
  | name :: values =>
    some (String.ofList (lower name), String.ofList (List.intercalate [' '] values))

theorem read_eq (content : List Char) :
    read content = Entries.ofPairs (((segments content).map words).filterMap directiveOf?) := by
  rw [read, ← words_splitFrom_trim, List.filterMap_map]
  rfl

/-- The names of the directives of a policy: the first word of each segment that has one, in lower
case. -/
def names (content : List Char) : List String :=
  (segments content).filterMap fun segment =>
    (words segment).head?.map fun name => String.ofList (lower name)

theorem has_read_iff {key : String} {content : List Char} :
    Entries.has key (read content) = true ↔ key ∈ names content := by
  have hname : ∀ tokens : List (List Char), (directiveOf? tokens).map (·.1) =
      tokens.head?.map fun name => String.ofList (lower name) := by
    intro tokens
    cases tokens <;> rfl
  rw [Entries.has_iff_mem_keys, read_eq, Entries.mem_keys_ofPairs, List.map_filterMap,
    List.filterMap_map, names]
  simp only [hname, Function.comp_def]

/-! ## Reports -/

/-- The problems of the directives are those that only work in a header, one for each, in the order
of the table. -/
theorem directives_checkDirectives (content : List Char) :
    (checkDirectives (read content)).map (·.directive?) =
      ((headerOnly.map (·.1)).filter fun name => decide (name ∈ names content)).map some := by
  have hhas : ∀ key, Entries.has key (read content) = decide (key ∈ names content) :=
    fun key => Bool.eq_iff_iff.2 (by rw [has_read_iff, decide_eq_true_iff])
  simp only [checkDirectives, List.map_map, List.filter_map, hhas]
  rfl

theorem code_checkDirectives (directives : Entries String) :
    ∀ p ∈ checkDirectives directives, p.code = "unsupportedCspDirective" := by
  intro p hp
  obtain ⟨row, -, rfl⟩ := List.mem_map.1 hp
  rfl

/-- The problems of a policy with a content: one of the policy as such when it is a plain one, and
those of its directives. -/
theorem check_of_filled {e : Element} {content : String}
    (hkind : e.keyword "http-equiv" ≠ "content-security-policy-report-only")
    (h : e.filled? "content" = some content) :
    ∃ always, check e = always ++ checkDirectives (read content.toList) ∧
      (∀ p ∈ always, p.code = "cspDisablesPreloadScanner") ∧
      (e.keyword "http-equiv" ≠ "content-security-policy" → always = []) := by
  rw [check, if_neg (by simpa using hkind), h]
  refine ⟨_, rfl, ?_, fun hne => if_neg (by simpa using hne)⟩
  split
  · exact List.forall_mem_singleton.2 rfl
  · exact List.forall_mem_nil _

theorem checkDirectives_eq_nil_iff {content : List Char} :
    checkDirectives (read content) = [] ↔
      ∀ name ∈ headerOnly.map (·.1), name ∉ names content := by
  rw [← List.map_eq_nil_iff (f := Problem.directive?), directives_checkDirectives,
    List.map_eq_nil_iff, List.filter_eq_nil_iff]
  simp only [decide_eq_true_eq]

/-- A value that is neither of the two policies has no problem exactly when there is a content, and
no directive in it is one that only works in a header. -/
theorem check_eq_nil_iff {e : Element}
    (hplain : e.keyword "http-equiv" ≠ "content-security-policy")
    (hreport : e.keyword "http-equiv" ≠ "content-security-policy-report-only") :
    check e = [] ↔ ∃ content, e.filled? "content" = some content ∧
      ∀ name ∈ headerOnly.map (·.1), name ∉ names content.toList := by
  cases hcontent : e.filled? "content" with
  | none =>
    rw [check, if_neg (by simpa using hreport), hcontent]
    refine iff_of_false (List.append_ne_nil_of_right_ne_nil _ (List.cons_ne_nil _ _)) ?_
    rintro ⟨content, hnone, -⟩
    cases hnone
  | some content =>
    obtain ⟨always, hcheck, -, halways⟩ := check_of_filled hreport hcontent
    rw [hcheck, halways hplain, List.nil_append, checkDirectives_eq_nil_iff]
    simp

/-- A policy reads as its segments say, one after another.  An element with a content that is not
empty, unless it only asks for reports, has one problem with an unsupported directive for each
directive that only works in a header and is the name of some segment, in the order of the
table. -/
theorem read_segments_check (content : String) :
    read content.toList =
      Entries.ofPairs (((segments content.toList).map words).filterMap directiveOf?) ∧
    ∀ e : Element, e.keyword "http-equiv" ≠ "content-security-policy-report-only" →
      e.attribute? "content" = some content → content ≠ "" →
      ((check e).filter fun p => p.code == "unsupportedCspDirective").map (·.directive?) =
        ((["report-uri", "frame-ancestors", "sandbox"].filter fun name =>
          decide (name ∈ names content.toList)).map some) := by
  refine ⟨read_eq content.toList, fun e hkind hcontent hne => ?_⟩
  obtain ⟨always, hcheck, halways, -⟩ :=
    check_of_filled hkind (Element.filled?_of_attribute? hcontent hne)
  have hnone : (always.filter fun p => p.code == "unsupportedCspDirective") = [] :=
    List.filter_eq_nil_iff.2 fun p hp => by rw [halways p hp]; decide
  have hall : ((checkDirectives (read content.toList)).filter fun p =>
      p.code == "unsupportedCspDirective") = checkDirectives (read content.toList) :=
    List.filter_eq_self.2 fun p hp => by rw [code_checkDirectives _ p hp]; decide
  rw [hcheck, List.filter_append, hnone, hall, List.nil_append]
  exact directives_checkDirectives content.toList

/-- A content with empty segments, white space around semicolons and a directive given twice. -/
def sandboxContent : String := " ; SANDBOX  a ;;default-src b;\u00a0Report-URI /r\t;sandbox c d ; "

/-- An element with a content and a value for `http-equiv`. -/
def policyWith (value content : String) : Element :=
  { tag := "meta", attrs := [("HTTP-Equiv", some value), ("content", some content)] }

theorem read_segments_check_sandboxContent :
    read sandboxContent.toList =
        [("sandbox", "c d"), ("default-src", "b"), ("report-uri", "/r")] ∧
      ((check (policyWith "Content-Security-Policy" sandboxContent)).filter fun p =>
          p.code == "unsupportedCspDirective").map (·.directive?) =
        [some "report-uri", some "sandbox"] := by
  obtain ⟨hread, hcheck⟩ := read_segments_check sandboxContent
  refine ⟨hread.trans (by decide +kernel), ?_⟩
  rw [hcheck (policyWith "Content-Security-Policy" sandboxContent) (by decide +kernel)
    (by decide +kernel) (by decide)]
  decide +kernel

end HeadLint.Policy
