import HeadLint.Proofs.Url.Reference

/-!
Spellings of one relative path.  With nothing or with `./` in front it has one normal form: that of
the path below the root in which every run of slashes is one slash.  With a slash in front the path
keeps its runs, since there every empty segment counts, while a relative path loses those inside of
it.  So the three spellings agree on the paths that are written with single slashes.
-/

namespace HeadLint.Url

open Text

/-! ## Runs of slashes -/

/-- A path in which every run of slashes is one slash. -/
def squeezed : List Char → List Char
  | [] => []
  | c :: s => if c == '/' && s.head? == some '/' then squeezed s else c :: squeezed s

theorem mem_of_mem_squeezed {s : List Char} {c : Char} (h : c ∈ squeezed s) : c ∈ s := by
  induction s with
  | nil => exact h
  | cons d s ih =>
    rw [squeezed] at h
    split at h
    · exact List.mem_cons_of_mem _ (ih h)
    · exact List.mem_cons.2 ((List.mem_cons.1 h).imp_right ih)

theorem head?_squeezed (s : List Char) : (squeezed s).head? = s.head? := by
  induction s with
  | nil => rfl
  | cons c s ih =>
    rw [squeezed]
    split
    · rename_i h
      rw [Bool.and_eq_true, beq_iff_eq, beq_iff_eq] at h
      rw [ih, h.2, List.head?_cons, h.1]
    · rfl

theorem length_squeezed_le (s : List Char) : (squeezed s).length ≤ s.length := by
  induction s with
  | nil => exact Nat.le_refl _
  | cons c s ih =>
    rw [squeezed]
    split
    · exact Nat.le_succ_of_le ih
    · exact Nat.succ_le_succ ih

theorem squeezed_eq_self_iff {s : List Char} : squeezed s = s ↔ ¬ ['/', '/'] <:+: s := by
  induction s with
  | nil => simp [squeezed]
  | cons c s ih =>
    have hprefix : ['/', '/'] <+: c :: s ↔ (c == '/' && s.head? == some '/') = true := by
      cases s <;> grind
    rw [squeezed, List.infix_cons_iff, hprefix, not_or, ← ih]
    split
    · rename_i hrun
      constructor
      · intro h
        have hlength := length_squeezed_le s
        rw [h, List.length_cons] at hlength
        omega
      · exact fun h => absurd hrun h.1
    · rename_i hrun
      rw [List.cons_inj_right]
      exact ⟨fun h => ⟨hrun, h⟩, fun h => h.2⟩

/-- Segments without the empty ones, the last one apart. -/
def thinned (parts : List (List Char)) : List (List Char) :=
  parts.dropLast.filter (!·.isEmpty) ++ parts.drop (parts.length - 1)

theorem thinned_cons (segment : List Char) (parts : List (List Char)) :
    thinned (segment :: parts) =
      if segment.isEmpty && !parts.isEmpty then thinned parts else segment :: thinned parts := by
  unfold thinned
  cases parts with
  | nil => simp
  | cons next rest =>
    rw [List.dropLast_cons_cons, List.filter_cons]
    cases segment <;> simp

theorem thinned_concat (inner : List (List Char)) (last : List Char) :
    thinned (inner ++ [last]) = inner.filter (!·.isEmpty) ++ [last] := by
  unfold thinned
  rw [List.dropLast_concat, List.length_append, List.length_singleton, Nat.add_sub_cancel,
    List.drop_left]

theorem splitWhere_slash (s : List Char) :
    splitWhere (· == '/') ('/' :: s) = [] :: splitWhere (· == '/') s :=
  splitWhere_append List.not_mem_nil s

-- The first segment is empty, and not the only one, when the path starts with a slash.
theorem starts_slash {s first : List Char} {more : List (List Char)}
    (h : splitWhere (· == '/') s = first :: more) :
    (first.isEmpty && !more.isEmpty) = (s.head? == some '/') := by
  cases s with
  | nil =>
    obtain ⟨rfl, rfl⟩ := List.cons.inj h
    rfl
  | cons c s =>
    by_cases hc : c = '/'
    · subst hc
      rw [splitWhere_slash] at h
      obtain ⟨rfl, rfl⟩ := List.cons.inj h
      simpa using splitWhere_ne_nil (· == '/') s
    · obtain ⟨segment, parts, -, hcons⟩ := splitWhere_cons_of_ne hc s
      obtain ⟨rfl, rfl⟩ := List.cons.inj (hcons.symm.trans h)
      simpa using hc

-- Two slashes side by side enclose an empty segment, and one of them goes with it; the first
-- segment has nothing in front.
theorem splitWhere_squeezed {s first : List Char} {more : List (List Char)}
    (h : splitWhere (· == '/') s = first :: more) :
    splitWhere (· == '/') (squeezed s) = first :: thinned more := by
  induction s generalizing first more with
  | nil =>
    obtain ⟨rfl, rfl⟩ := List.cons.inj h
    rfl
  | cons c s ih =>
    by_cases hc : c = '/'
    · subst hc
      rw [splitWhere_slash] at h
      obtain ⟨rfl, rfl⟩ := List.cons.inj h
      obtain ⟨first, more, hs⟩ := List.exists_cons_of_ne_nil (splitWhere_ne_nil (· == '/') s)
      rw [squeezed, hs, thinned_cons, starts_slash hs, beq_self_eq_true, Bool.true_and]
      split
      · rename_i hrun
        rw [← starts_slash hs, Bool.and_eq_true, List.isEmpty_iff] at hrun
        rw [ih hs, hrun.1]
      · rw [splitWhere_slash, ih hs]
    · obtain ⟨segment, parts, hs, hcons⟩ := splitWhere_cons_of_ne hc s
      obtain ⟨rfl, rfl⟩ := List.cons.inj (hcons.symm.trans h)
      obtain ⟨segment', parts', hs', hcons'⟩ := splitWhere_cons_of_ne hc (squeezed s)
      obtain ⟨rfl, rfl⟩ := List.cons.inj ((ih hs).symm.trans hs')
      rw [squeezed, if_neg (by simp [hc]), hcons']

theorem splitWhere_squeezed_of_relative {s : List Char} (h : s.head? ≠ some '/') :
    splitWhere (· == '/') (squeezed s) = thinned (splitWhere (· == '/') s) := by
  obtain ⟨first, more, hs⟩ := List.exists_cons_of_ne_nil (splitWhere_ne_nil (· == '/') s)
  rw [splitWhere_squeezed hs, hs, thinned_cons, starts_slash hs, if_neg (by simpa using h)]

theorem segments_of_relative {path : List Char} (h : path.head? ≠ some '/') :
    segments path = [] :: thinned (splitWhere (· == '/') path) :=
  if_neg (by simpa using h)

theorem segments_slash (path : List Char) :
    segments ('/' :: path) = [] :: splitWhere (· == '/') path :=
  splitWhere_slash path

/-- A relative path means the path below the root that has single slashes only. -/
theorem resolvePath_squeezed {path : List Char} (h : path.head? ≠ some '/') :
    resolvePath ('/' :: squeezed path) = resolvePath path := by
  rw [resolvePath_eq, resolvePath_eq, segments_slash, segments_of_relative h,
    splitWhere_squeezed_of_relative h]

theorem settled_dot {parts : List (List Char)} (h : parts ≠ []) :
    settled ([] :: ['.'] :: parts) = settled ([] :: parts) := by
  obtain ⟨first, more, rfl⟩ := List.exists_cons_of_ne_nil h
  have hlast : ([] :: ['.'] :: first :: more).getLast? = ([] :: first :: more).getLast? := by
    rw [List.getLast?_cons_cons, List.getLast?_cons_cons, List.getLast?_cons_cons]
  have hfold : foldSegments [] ([] :: ['.'] :: first :: more) =
      foldSegments [] ([] :: first :: more) :=
    rfl
  unfold settled
  rw [hlast, hfold]

theorem resolvePath_dot {path : List Char} (h : path.head? ≠ some '/') :
    resolvePath ('.' :: '/' :: path) = resolvePath path := by
  have hparts : splitWhere (· == '/') ('.' :: '/' :: path) =
      ['.'] :: splitWhere (· == '/') path :=
    splitWhere_append (by decide : '/' ∉ ['.']) path
  have hdot : segments ('.' :: '/' :: path) =
      [] :: ['.'] :: thinned (splitWhere (· == '/') path) := by
    rw [segments_of_relative (by simp), hparts, thinned_cons]
    rfl
  have hne : thinned (splitWhere (· == '/') path) ≠ [] := by
    rw [← splitWhere_squeezed_of_relative h]
    exact splitWhere_ne_nil _ _
  rw [resolvePath_eq, resolvePath_eq, hdot, settled_dot hne, segments_of_relative h]

/-! ## Paths that do not go up -/

theorem foldSegments_eq {parts : List (List Char)} (h : ['.', '.'] ∉ parts)
    (done : List (List Char)) :
    foldSegments done parts = done.reverse ++ parts.filter (· != ['.']) := by
  induction parts generalizing done with
  | nil => rw [foldSegments, List.filter_nil, List.append_nil]
  | cons segment rest ih =>
    rw [List.mem_cons, not_or] at h
    rw [foldSegments, if_neg (by simpa using Ne.symm h.1), List.filter_cons]
    by_cases hdot : segment = ['.']
    · subst hdot
      exact ih h.2 done
    · rw [if_neg (by simpa using hdot), if_pos (by simpa using hdot), ih h.2,
        List.reverse_cons, List.append_assoc, List.singleton_append]

/-- What a path ends in; a dot segment stands for an empty one. -/
def leaf (last : List Char) : List Char :=
  if last = ['.'] then [] else last

theorem settled_concat {inner : List (List Char)} {last : List Char}
    (h : ['.', '.'] ∉ inner ++ [last]) :
    settled (inner ++ [last]) = inner.filter (· != ['.']) ++ [leaf last] := by
  have hlast : last ≠ ['.', '.'] := by
    rintro rfl
    exact h (List.mem_append_right _ (List.mem_singleton_self _))
  unfold settled leaf
  rw [List.getLast?_concat, foldSegments_eq h, List.reverse_nil, List.nil_append,
    List.filter_append]
  by_cases hdot : last = ['.']
  · subst hdot
    simp
  · simp [hdot, hlast]

section Unclimbing

variable {path : List Char} {inner : List (List Char)} {last : List Char}
  (hparts : splitWhere (· == '/') path = inner ++ [last])
  (h : ['.', '.'] ∉ splitWhere (· == '/') path)
include hparts h

theorem settled_slash :
    settled (segments ('/' :: path)) = [] :: (inner.filter (· != ['.']) ++ [leaf last]) := by
  have hup : ['.', '.'] ∉ ([] :: inner) ++ [last] := by
    rw [List.cons_append, ← hparts, List.mem_cons, not_or]
    exact ⟨by decide, h⟩
  rw [segments_slash, hparts, ← List.cons_append, settled_concat hup]
  rfl

theorem splitWhere_rooted_slash :
    splitWhere (· == '/') (rooted (resolvePath ('/' :: path))) =
      [] :: (inner.filter (· != ['.']) ++ [leaf last]) := by
  have hsettled := settled_slash hparts h
  have hhead : (List.intercalate ['/'] (settled (segments ('/' :: path)))).head? = some '/' := by
    obtain ⟨next, rest, hnext⟩ := List.exists_cons_of_ne_nil
      (List.concat_ne_nil (leaf last) (inner.filter (· != ['.'])))
    rw [hsettled, hnext, List.intercalate_cons_cons]
    rfl
  have hresolve : resolvePath ('/' :: path) =
      List.intercalate ['/'] (settled (segments ('/' :: path))) := by
    rw [resolvePath_eq, if_neg]
    intro hempty
    rw [List.isEmpty_iff.1 hempty] at hhead
    cases hhead
  have hpieces : ∀ segment ∈ settled (segments ('/' :: path)), '/' ∉ segment := by
    intro segment hsegment
    rcases mem_of_mem_settled hsegment with rfl | hsegment
    · exact List.not_mem_nil
    · exact not_mem_of_mem_splitWhere hsegment
  rw [hresolve, rooted_of_head? hhead,
    splitWhere_intercalate (hsettled ▸ List.cons_ne_nil _ _) hpieces, hsettled]

end Unclimbing

theorem squeezed_eq_self {path : List Char} {inner : List (List Char)} {last : List Char}
    (hrelative : path.head? ≠ some '/') (hparts : splitWhere (· == '/') path = inner ++ [last])
    (h : [] ∉ inner) : squeezed path = path := by
  have hsame : splitWhere (· == '/') (squeezed path) = splitWhere (· == '/') path := by
    rw [splitWhere_squeezed_of_relative hrelative, hparts, thinned_concat, List.filter_eq_self.2]
    intro segment hsegment
    have hne : segment ≠ [] := fun hempty => h (hempty ▸ hsegment)
    simpa using hne
  rw [← intercalate_splitWhere '/' (squeezed path), hsame, intercalate_splitWhere]

-- Without a way up nothing takes back an empty segment, so the two paths keep different ones.
theorem rooted_resolvePath_ne {path : List Char} (hrelative : path.head? ≠ some '/')
    (hrun : ['/', '/'] <:+: path) (h : ['.', '.'] ∉ splitWhere (· == '/') path) :
    rooted (resolvePath path) ≠ rooted (resolvePath ('/' :: path)) := by
  intro heq
  obtain ⟨inner, last, hparts⟩ : ∃ inner last, splitWhere (· == '/') path = inner ++ [last] :=
    ⟨_, _, (List.dropLast_append_getLast (splitWhere_ne_nil _ path)).symm⟩
  have hthin : splitWhere (· == '/') (squeezed path) = inner.filter (!·.isEmpty) ++ [last] := by
    rw [splitWhere_squeezed_of_relative hrelative, hparts, thinned_concat]
  have hup : ['.', '.'] ∉ splitWhere (· == '/') (squeezed path) := by
    intro hmem
    apply h
    rw [hthin] at hmem
    rw [hparts]
    exact (List.filter_sublist.append_right [last]).subset hmem
  have hinner : (inner.filter (!·.isEmpty)).filter (· != ['.']) = inner.filter (· != ['.']) := by
    have hsegments := congrArg (splitWhere (· == '/')) heq
    rw [← resolvePath_squeezed hrelative, splitWhere_rooted_slash hthin hup,
      splitWhere_rooted_slash hparts h] at hsegments
    exact List.append_cancel_right (List.cons.inj hsegments).2
  have hnil : [] ∉ inner := by
    intro hmem
    have hkept : [] ∈ inner.filter (· != ['.']) := List.mem_filter.2 ⟨hmem, by decide⟩
    rw [← hinner, List.mem_filter, List.mem_filter] at hkept
    exact absurd hkept.1.2 (by decide)
  exact squeezed_eq_self_iff.1 (squeezed_eq_self hrelative hparts hnil) hrun

/-! ## Spellings -/

/-- A text of plain characters. -/
def PlainText : Type :=
  { s : List Char // ∀ c ∈ s, isPlain c = true }

/-- A path of plain characters that does not start at the root. -/
structure RelativePath where
  text : List Char
  plain : ∀ c ∈ text, isPlain c = true
  ne_nil : text ≠ []
  relative : text.head? ≠ some '/'

/-- A path with something in front, and with a query and a fragment. -/
def spelled (front path : List Char) (query fragment : Option PlainText) : List Char :=
  front ++ path ++ behind '?' (query.map (·.1)) ++ behind '#' (fragment.map (·.1))

/-- What may stand in front of a relative path: nothing, the directory it is in, or the root. -/
def fronts : List (List Char) :=
  [[], ['.', '/'], ['/']]

theorem mem_fronts {front : List Char} :
    front ∈ fronts ↔ front = [] ∨ front = ['.', '/'] ∨ front = ['/'] := by
  simp [fronts]

namespace RelativePath

/-- The path with single slashes only. -/
def single (path : RelativePath) : RelativePath where
  text := squeezed path.text
  plain := fun c hc => path.plain c (mem_of_mem_squeezed hc)
  ne_nil := by
    intro h
    have hhead := head?_squeezed path.text
    rw [h, List.head?_nil, eq_comm, List.head?_eq_none_iff] at hhead
    exact path.ne_nil hhead
  relative := by
    rw [head?_squeezed]
    exact path.relative

theorem withoutAuthority (path : RelativePath) {front : List Char} (hfront : front ∈ fronts) :
    WithoutAuthority (front ++ path.text) := by
  obtain ⟨c, s, hs⟩ := List.exists_cons_of_ne_nil path.ne_nil
  have hc : c ≠ '/' := by
    intro hslash
    apply path.relative
    rw [hs, hslash, List.head?_cons]
  intro tail rest h
  rw [hs] at h
  rcases mem_fronts.1 hfront with rfl | rfl | rfl
  · exact hc (List.cons.inj h).1
  · exact absurd (List.cons.inj h).1 (by decide)
  · exact hc (List.cons.inj (List.cons.inj h).2).1

theorem plainParts (path : RelativePath) {front : List Char} (hfront : front ∈ fronts)
    (query fragment : Option PlainText) :
    PlainParts (front ++ path.text) (query.map (·.1)) (fragment.map (·.1)) where
  path := by
    have hplain : fronts.all (·.all isPlain) = true := by decide
    exact List.forall_mem_append.2
      ⟨List.all_eq_true.1 (List.all_eq_true.1 hplain front hfront), path.plain⟩
  query := by
    intro q hq
    obtain ⟨q, -, rfl⟩ := Option.map_eq_some_iff.1 hq
    exact q.2
  fragment := by
    intro f hf
    obtain ⟨f, -, rfl⟩ := Option.map_eq_some_iff.1 hf
    exact f.2

end RelativePath

/-- The address of a path below the root of the base. -/
def based (path query : List Char) : List Char :=
  render ⟨baseScheme, baseAuthority, rooted path, query, []⟩

theorem rooted_eq_of_based {a b query : List Char} (ha : a ≠ []) (hb : b ≠ [])
    (h : based a query = based b query) : rooted a = rooted b := by
  unfold based at h
  rw [render_base, render_base, rooted_of_head? (head?_rooted a ha),
    rooted_of_head? (head?_rooted b hb)] at h
  simpa only [List.append_cancel_left_eq, List.append_cancel_right_eq, List.cons.injEq,
    true_and] using h

/-- The three spellings of a relative path have normal forms whatever query and fragment they have,
and the fragment does not matter.  The two that do not start at the root have the one of the path
with single slashes below the root.  Where the path has single slashes itself, all three are equal;
where it has not, the one at the root differs, unless the path goes up. -/
theorem normalize?_spelled (path : RelativePath) (query : Option PlainText) :
    ∃ near far,
      (∀ fragment : Option PlainText,
        normalize? (spelled [] path.text query fragment) = some near ∧
        normalize? (spelled ['.', '/'] path.text query fragment) = some near ∧
        normalize? (spelled ['/'] (squeezed path.text) query fragment) = some near ∧
        normalize? (spelled ['/'] path.text query fragment) = some far) ∧
      (¬ ['/', '/'] <:+: path.text → near = far) ∧
      (['/', '/'] <:+: path.text → ['.', '.'] ∉ splitWhere (· == '/') path.text →
        near ≠ far) := by
  have hnormal : ∀ (path : RelativePath), ∀ front ∈ fronts, ∀ fragment,
      normalize? (spelled front path.text query fragment) =
        some (based (resolvePath (front ++ path.text)) ((query.map (·.1)).getD [])) :=
    fun path front hfront fragment =>
      normalize?_eq (path.plainParts hfront query fragment) (path.withoutAuthority hfront)
  refine ⟨_, _, fun fragment => ⟨hnormal path [] (by decide) fragment, ?_, ?_,
    hnormal path ['/'] (by decide) fragment⟩, ?_, ?_⟩
  · rw [hnormal path ['.', '/'] (by decide)]
    exact congrArg (fun p => some (based p _)) (resolvePath_dot path.relative)
  · have hsingle := hnormal path.single ['/'] (by decide) fragment
    refine hsingle.trans ?_
    exact congrArg (fun p => some (based p _)) (resolvePath_squeezed path.relative)
  · intro hrun
    have hsqueezed := resolvePath_squeezed path.relative
    rw [squeezed_eq_self_iff.2 hrun] at hsqueezed
    exact congrArg (based · _) hsqueezed.symm
  · intro hrun hup heq
    exact rooted_resolvePath_ne path.relative hrun hup
      (rooted_eq_of_based (resolvePath_ne_nil _) (resolvePath_ne_nil _) heq)

-- Two slashes are one in the relative spellings only.
theorem normalize?_doubleSlash :
    normalize? "a//b".toList = some "https://head-auditor.invalid/a/b".toList ∧
    normalize? "./a//b".toList = some "https://head-auditor.invalid/a/b".toList ∧
    normalize? "/a//b".toList = some "https://head-auditor.invalid/a//b".toList := by
  decide +kernel

end HeadLint.Url
