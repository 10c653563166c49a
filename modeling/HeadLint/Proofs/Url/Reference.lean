import HeadLint.Proofs.Text.Pieces
import HeadLint.Url.Resolve

/-!
References without scheme and authority.  When its characters have no other meaning, such a
reference is taken apart into its path, its query and its fragment, and the address that it means is
taken apart into the same parts below the base.  So its normal form is written out from the path and
the query alone.
-/

namespace HeadLint.Url

open Text

/-! ## Plain characters -/

/-- Printable characters of ASCII, except for the space and those that have a meaning of their own
in an address; the slash is among them. -/
def isPlain (c : Char) : Bool :=
  decide (0x20 < c.toNat) && decide (c.toNat < 0x7f) && !":;?#[]\\".toList.contains c

/-- A part of an address behind its mark, if it is there. -/
def behind (mark : Char) (part : Option (List Char)) : List Char :=
  (part.map (mark :: ·)).getD []

theorem isPlain_iff {c : Char} :
    isPlain c = true ↔ (0x20 < c.toNat ∧ c.toNat < 0x7f) ∧ c ∉ ":;?#[]\\".toList := by
  simp only [isPlain, Bool.and_eq_true, decide_eq_true_eq, Bool.not_eq_true', List.contains_eq_mem,
    decide_eq_false_iff_not]

theorem not_mem_of_plain {s : List Char} (h : ∀ c ∈ s, isPlain c = true) {d : Char}
    (hd : d ∈ ":;?#[]\\".toList) : d ∉ s :=
  fun hmem => (isPlain_iff.1 (h d hmem)).2 hd

/-- A text of printable ASCII characters without spaces. -/
def Visible (s : List Char) : Prop :=
  ∀ c ∈ s, 0x20 < c.toNat ∧ c.toNat < 0x7f

theorem visible_of_plain {s : List Char} (h : ∀ c ∈ s, isPlain c = true) : Visible s :=
  fun c hc => (isPlain_iff.1 (h c hc)).1

theorem visible_of_all {s : List Char}
    (h : s.all (fun c => decide (0x20 < c.toNat ∧ c.toNat < 0x7f)) = true) : Visible s :=
  fun c hc => of_decide_eq_true (List.all_eq_true.1 h c hc)

theorem Visible.append {s t : List Char} (hs : Visible s) (ht : Visible t) : Visible (s ++ t) :=
  List.forall_mem_append.2 ⟨hs, ht⟩

theorem Visible.stops_isBlank {s : List Char} (h : Visible s) : Stops isBlank s := by
  intro c hc
  obtain ⟨hlow, hhigh⟩ := h c (List.mem_of_mem_head? hc)
  simp only [isBlank, Bool.or_eq_false_iff, Bool.and_eq_false_iff, decide_eq_false_iff_not,
    beq_eq_false_iff_ne]
  omega

theorem Visible.trim_eq {s : List Char} (h : Visible s) : trim s = s := by
  have hreverse : Visible s.reverse := fun c hc => h c (List.mem_reverse.1 hc)
  rw [trim, trimStart_of_stops h.stops_isBlank, trimEnd,
    dropWhile_of_stops hreverse.stops_isBlank, List.reverse_reverse]

theorem Visible.cleaned_eq {s : List Char} (h : Visible s) : cleaned s = s := by
  have hstops : Stops (fun c : Char => decide (c.toNat ≤ 0x20)) s := by
    intro c hc
    have hlow := (h c (List.mem_of_mem_head? hc)).1
    exact decide_eq_false (by omega)
  rw [cleaned, dropWhile_of_stops hstops, List.filter_eq_self]
  intro c hc
  have hlow := (h c hc).1
  have hne : ∀ d : Char, d.toNat ≤ 0x20 → c ≠ d := by
    rintro d hd rfl
    omega
  simp [hne '\t' (by decide), hne '\r' (by decide), hne '\n' (by decide)]

/-! ## Taking references apart -/

theorem cutFirst_behind {mark : Char} {s : List Char} (h : mark ∉ s) (part : Option (List Char)) :
    cutFirst mark (s ++ behind mark part) = (s, part) := by
  cases part with
  | none =>
    show cutFirst mark (s ++ []) = _
    rw [List.append_nil, cutFirst_of_not_mem h]
  | some part => exact cutFirst_append h part

theorem cutParameters_eq {path : List Char} (h : ';' ∉ path) : cutParameters path = (path, []) := by
  unfold cutParameters cutLast
  rcases cutFirst_cases '/' path.reverse with ⟨-, hcut⟩ | ⟨after, before, hpath, -, hcut⟩
  · simp only [hcut, cutFirst_of_not_mem h]
    rfl
  · have hparts : path = before.reverse ++ '/' :: after.reverse := by
      rw [← List.reverse_reverse path, hpath]
      simp
    have hlast : ';' ∉ after.reverse := by
      intro hmem
      apply h
      rw [hparts]
      exact List.mem_append_right _ (List.mem_cons_of_mem _ hmem)
    simp only [hcut, cutFirst_of_not_mem hlast]
    rw [hparts]
    rfl

section Splitting

variable {path : List Char} {query fragment : Option (List Char)}

/-- What a reference has behind its scheme and its authority: a path, a query and a fragment, of
plain characters. -/
structure PlainParts (path : List Char) (query fragment : Option (List Char)) : Prop where
  path : ∀ c ∈ path, isPlain c = true
  query : ∀ q ∈ query, ∀ c ∈ q, isPlain c = true
  fragment : ∀ f ∈ fragment, ∀ c ∈ f, isPlain c = true

theorem visible_behind {mark : Char} {part : Option (List Char)}
    (hmark : 0x20 < mark.toNat ∧ mark.toNat < 0x7f)
    (h : ∀ q ∈ part, ∀ c ∈ q, isPlain c = true) : Visible (behind mark part) := by
  cases part with
  | none => exact List.forall_mem_nil _
  | some part => exact List.forall_mem_cons.2 ⟨hmark, visible_of_plain (h part rfl)⟩

theorem not_mem_behind {mark d : Char} {part : Option (List Char)} (hne : d ≠ mark)
    (hd : d ∈ ":;?#[]\\".toList) (h : ∀ q ∈ part, ∀ c ∈ q, isPlain c = true) :
    d ∉ behind mark part := by
  cases part with
  | none => exact List.not_mem_nil
  | some part =>
    show d ∉ mark :: part
    rw [List.mem_cons, not_or]
    exact ⟨hne, not_mem_of_plain (h part rfl) hd⟩

/-- A path that does not start with two slashes, whatever stands behind it. -/
def WithoutAuthority (path : List Char) : Prop :=
  ∀ tail rest, path ++ tail ≠ '/' :: '/' :: rest

theorem WithoutAuthority.ne_nil (h : WithoutAuthority path) : path ≠ [] := by
  rintro rfl
  exact h ['/', '/'] [] rfl

namespace PlainParts

variable (h : PlainParts path query fragment)
include h

theorem visible : Visible (path ++ behind '?' query ++ behind '#' fragment) :=
  ((visible_of_plain h.path).append (visible_behind (by decide) h.query)).append
    (visible_behind (by decide) h.fragment)

theorem cutFragment : cutFirst '#' (path ++ behind '?' query ++ behind '#' fragment) =
    (path ++ behind '?' query, fragment) := by
  apply cutFirst_behind
  rw [List.mem_append, not_or]
  exact ⟨not_mem_of_plain h.path (by decide), not_mem_behind (by decide) (by decide) h.query⟩

theorem cutQuery : cutFirst '?' (path ++ behind '?' query) = (path, query) :=
  cutFirst_behind (not_mem_of_plain h.path (by decide)) query

theorem not_mem_colon : ':' ∉ path ++ behind '?' query ++ behind '#' fragment := by
  rw [List.mem_append, List.mem_append, not_or, not_or]
  exact ⟨⟨not_mem_of_plain h.path (by decide), not_mem_behind (by decide) (by decide) h.query⟩,
    not_mem_behind (by decide) (by decide) h.fragment⟩

-- Without a colon there is no scheme, and without two slashes no authority.
theorem split?_eq (hpath : WithoutAuthority path) (scheme : List Char) :
    split? scheme (path ++ behind '?' query ++ behind '#' fragment) =
      some ⟨scheme, [], path, query.getD [], fragment.getD []⟩ := by
  have hscheme : cutScheme? (path ++ behind '?' query ++ behind '#' fragment) = none := by
    rw [cutScheme?, cutFirst_of_not_mem h.not_mem_colon]
    split
    · rename_i hcut
      cases (Prod.mk.inj hcut).2
    · rfl
  unfold split?
  simp only [h.visible.cleaned_eq, hscheme, Option.getD_none]
  split
  · rename_i hslashes
    rw [List.append_assoc] at hslashes
    exact absurd hslashes (hpath _ _)
  · have hfit : (bracketsFit [] && isStable []) = true := by decide
    rw [if_pos hfit, h.cutFragment, h.cutQuery]

theorem resolve?_eq (hpath : WithoutAuthority path) :
    resolve? (path ++ behind '?' query ++ behind '#' fragment) =
      some (render ⟨baseScheme, baseAuthority, resolvePath path, query.getD [],
        fragment.getD []⟩) := by
  have hne : path.isEmpty = false := by
    rw [List.isEmpty_eq_false_iff]
    exact hpath.ne_nil
  have hparameters := cutParameters_eq (not_mem_of_plain h.path (by decide : ';' ∈ _))
  have hscheme : (baseScheme != baseScheme) = false := by decide
  unfold resolve?
  simp only [h.split?_eq hpath, Option.bind_eq_bind, Option.bind_some, hscheme, hparameters, hne,
    marked, List.isEmpty_nil, List.append_nil, Bool.false_and, Bool.not_true, Bool.false_eq_true,
    if_false, if_true]

end PlainParts

/-! ## Putting addresses together -/

/-- A path below the root. -/
def rooted (path : List Char) : List Char :=
  if path.isEmpty || path.head? == some '/' then path else '/' :: path

theorem render_base (path query fragment : List Char) :
    render ⟨baseScheme, baseAuthority, path, query, fragment⟩ =
      baseScheme ++ ':' :: '/' :: '/' :: (baseAuthority ++
        (rooted path ++ marked '?' query ++ marked '#' fragment)) := by
  have hauthority : baseAuthority.isEmpty = false := by decide
  have hscheme : baseScheme.isEmpty = false := by decide
  simp [render, hauthority, hscheme, rooted]

/-- An empty part is as good as none. -/
def present (part : List Char) : Option (List Char) :=
  if part.isEmpty then none else some part

theorem marked_eq (mark : Char) (part : List Char) :
    marked mark part = behind mark (present part) := by
  unfold marked present
  split <;> rfl

theorem getD_present (part : List Char) : (present part).getD [] = part := by
  cases part <;> rfl

theorem plain_of_mem_present {part : Option (List Char)}
    (h : ∀ q ∈ part, ∀ c ∈ q, isPlain c = true) :
    ∀ q ∈ present (part.getD []), ∀ c ∈ q, isPlain c = true := by
  intro q hq
  cases part with
  | none => cases hq
  | some part =>
    change q ∈ present part at hq
    unfold present at hq
    split at hq
    · cases hq
    · exact h q hq

theorem head?_rooted (path : List Char) (h : path ≠ []) : (rooted path).head? = some '/' := by
  have hne : path.isEmpty = false := List.isEmpty_eq_false_iff.2 h
  unfold rooted
  rw [hne, Bool.false_or]
  split
  · rename_i hhead
    exact beq_iff_eq.1 hhead
  · rfl

theorem rooted_of_head? {path : List Char} (h : path.head? = some '/') : rooted path = path := by
  unfold rooted
  rw [h, beq_self_eq_true, Bool.or_true, if_pos rfl]

theorem mem_rooted {path : List Char} {c : Char} (h : c ∈ rooted path) : c = '/' ∨ c ∈ path := by
  unfold rooted at h
  split at h
  · exact .inr h
  · exact List.mem_cons.1 h

-- The address of the base in front makes the second reading find the parts written before.
theorem PlainParts.split?_base (h : PlainParts path query fragment)
    (hpath : path.head? = some '/') :
    split? [] (baseScheme ++ ':' :: '/' :: '/' :: (baseAuthority ++
        (path ++ behind '?' query ++ behind '#' fragment))) =
      some ⟨baseScheme, baseAuthority, path, query.getD [], fragment.getD []⟩ := by
  have hfront : Visible (baseScheme ++ ':' :: '/' :: '/' :: baseAuthority) :=
    visible_of_all (by decide)
  have hvisible := hfront.append h.visible
  rw [List.append_assoc, List.cons_append, List.cons_append, List.cons_append] at hvisible
  have hscheme : ∀ rest, cutScheme? (baseScheme ++ ':' :: rest) = some (baseScheme, rest) := by
    intro rest
    have hlower : lower baseScheme = baseScheme := by decide +kernel
    unfold cutScheme?
    rw [cutFirst_append (by decide)]
    exact congrArg (fun scheme => some (scheme, rest)) hlower
  have hhost : ∀ c ∈ baseAuthority, (!endsAuthority c) = true :=
    List.all_eq_true.1 (by decide)
  have hends : Stops (fun c => !endsAuthority c)
      (path ++ behind '?' query ++ behind '#' fragment) := by
    intro c hc
    rw [List.append_assoc, List.head?_append, hpath] at hc
    obtain rfl : '/' = c := Option.some.inj hc
    decide
  have hfit : (bracketsFit baseAuthority && isStable baseAuthority) = true := by decide +kernel
  unfold split?
  simp only [hvisible.cleaned_eq, hscheme, Option.getD_some, takeWhile_run hhost hends,
    dropWhile_run hhost hends, hfit, if_true, h.cutFragment, h.cutQuery]

end Splitting

/-! ## Segments -/

/-- What is left of the segments of a path; in the place of a dot segment at the end there is an
empty one. -/
def settled (parts : List (List Char)) : List (List Char) :=
  if parts.getLast? == some ['.'] || parts.getLast? == some ['.', '.'] then
    foldSegments [] parts ++ [[]]
  else foldSegments [] parts

theorem resolvePath_eq (path : List Char) :
    resolvePath path =
      if (List.intercalate ['/'] (settled (segments path))).isEmpty then ['/']
      else List.intercalate ['/'] (settled (segments path)) :=
  rfl

theorem resolvePath_ne_nil (path : List Char) : resolvePath path ≠ [] := by
  rw [resolvePath_eq]
  split
  · exact List.cons_ne_nil _ _
  · rename_i hjoined
    exact fun h => hjoined (List.isEmpty_iff.2 h)

theorem mem_of_mem_foldSegments {done parts : List (List Char)} {segment : List Char}
    (h : segment ∈ foldSegments done parts) : segment ∈ done ∨ segment ∈ parts := by
  induction parts generalizing done with
  | nil => exact .inl (List.mem_reverse.1 h)
  | cons first rest ih =>
    rw [foldSegments] at h
    split at h
    · exact (ih h).imp List.mem_of_mem_drop (List.mem_cons_of_mem _)
    · split at h
      · exact (ih h).imp_right (List.mem_cons_of_mem _)
      · rcases ih h with hdone | hrest
        · rcases List.mem_cons.1 hdone with rfl | hdone
          · exact .inr List.mem_cons_self
          · exact .inl hdone
        · exact .inr (List.mem_cons_of_mem _ hrest)

theorem mem_of_mem_segments {path segment : List Char} (h : segment ∈ segments path) :
    segment = [] ∨ segment ∈ splitWhere (· == '/') path := by
  unfold segments at h
  simp only at h
  split at h
  · exact .inr h
  · rcases List.mem_cons.1 h with rfl | h
    · exact .inl rfl
    · rcases List.mem_append.1 h with h | h
      · exact .inr ((List.dropLast_sublist _).subset (List.mem_of_mem_filter h))
      · exact .inr (List.mem_of_mem_drop h)

-- Nothing but empty segments is added.
theorem mem_of_mem_settled {path segment : List Char} (h : segment ∈ settled (segments path)) :
    segment = [] ∨ segment ∈ splitWhere (· == '/') path := by
  have hfold : segment ∈ foldSegments [] (segments path) →
      segment = [] ∨ segment ∈ splitWhere (· == '/') path := fun h =>
    mem_of_mem_segments ((mem_of_mem_foldSegments h).resolve_left List.not_mem_nil)
  unfold settled at h
  split at h
  · rcases List.mem_append.1 h with h | h
    · exact hfold h
    · exact .inl (List.mem_singleton.1 h)
  · exact hfold h

theorem mem_of_mem_resolvePath {path : List Char} {c : Char} (h : c ∈ resolvePath path) :
    c = '/' ∨ c ∈ path := by
  rw [resolvePath_eq] at h
  split at h
  · exact .inl (List.mem_singleton.1 h)
  · rcases mem_of_mem_intercalate h with rfl | ⟨segment, hsegment, hc⟩
    · exact .inl rfl
    · right
      rcases mem_of_mem_settled hsegment with rfl | hsegment
      · cases hc
      · rw [← intercalate_splitWhere '/' path]
        exact mem_intercalate_of_mem hsegment hc

theorem PlainParts.rooted {path : List Char} {query fragment : Option (List Char)}
    (h : PlainParts path query fragment) :
    PlainParts (rooted (resolvePath path)) (present (query.getD []))
      (present (fragment.getD [])) where
  path := by
    intro c hc
    rcases mem_rooted hc with rfl | hc
    · decide
    · rcases mem_of_mem_resolvePath hc with rfl | hc
      · decide
      · exact h.path c hc
  query := plain_of_mem_present h.query
  fragment := plain_of_mem_present h.fragment

/-- The normal form of a reference without scheme and authority does not depend on its fragment. -/
theorem normalize?_eq {path : List Char} {query fragment : Option (List Char)}
    (h : PlainParts path query fragment) (hpath : WithoutAuthority path) :
    normalize? (path ++ behind '?' query ++ behind '#' fragment) =
      some (render ⟨baseScheme, baseAuthority, rooted (resolvePath path), query.getD [], []⟩) := by
  have hhead := head?_rooted _ (resolvePath_ne_nil path)
  have hne : (rooted (resolvePath path)).isEmpty = false := by
    rw [List.isEmpty_eq_false_iff]
    intro hnil
    rw [hnil] at hhead
    cases hhead
  have hlower : lower baseScheme = baseScheme ∧ lower baseAuthority = baseAuthority := by
    decide +kernel
  have hreference : (path ++ behind '?' query ++ behind '#' fragment).isEmpty = false := by
    rw [List.isEmpty_eq_false_iff, List.append_assoc]
    exact List.append_ne_nil_of_left_ne_nil hpath.ne_nil _
  unfold normalize?
  simp only [h.visible.trim_eq, hreference, h.resolve?_eq hpath, render_base, marked_eq,
    Option.bind_eq_bind, Option.bind_some, h.rooted.split?_base hhead, getD_present, hlower.1,
    hlower.2, hne, Bool.false_eq_true, if_false]

end HeadLint.Url
