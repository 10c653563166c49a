import HeadLint.Proofs.Text.Case
import HeadLint.Proofs.Text.Runs
import Mathlib.Data.List.Induction

/-!
Texts in pieces.  White space and separators such as the comma are neither letters nor part of a
word, so a text can be put in lower case piece by piece, and it makes no difference whether it is
cut and trimmed before or after.
-/

namespace HeadLint.Text

/-! ## Lower case around a boundary -/

/-- A character that stays as it is in lower case and ends every word. -/
structure Boundary (c : Char) : Prop where
  stays : lowerChar c = [c]
  not_cased : isCased c = false
  not_ignorable : isIgnorable c = false
  not_sigma : c ≠ 'Σ'

theorem boundary_comma : Boundary ',' := by constructor <;> decide +kernel

theorem boundary_equals : Boundary '=' := by constructor <;> decide +kernel

-- No table of letters has white space.
theorem blankRanges_outside : ∀ range ∈ blankRanges, ∀ n ≤ range.2 - range.1,
    inRanges casedRanges (range.1 + n) = false ∧
      inRanges ignorableRanges (range.1 + n) = false := by
  decide +kernel

theorem boundary_of_isBlank {c : Char} (h : isBlank c = true) : Boundary c := by
  have hstays := (lowerFirst_eq_iff (caseless_of_isBlank h)).2 rfl
  obtain ⟨range, hrange, hlow, hhigh⟩ := caseless_of_isBlank h
  obtain ⟨hcased, hignorable⟩ := blankRanges_outside range hrange (c.toNat - range.1) (by omega)
  rw [Nat.add_sub_cancel' hlow] at hcased hignorable
  have hdotted : c ≠ 'İ' := by
    rintro rfl
    revert h
    decide
  refine ⟨?_, hcased, hignorable, ?_⟩
  · rw [lowerChar, if_neg (by simpa using hdotted), hstays]
  · rintro rfl
    revert h
    decide

namespace Boundary

variable {c : Char}

theorem lowerAfter_cons (h : Boundary c) (afterCased : Bool) (s : List Char) :
    lowerAfter afterCased (c :: s) = c :: lower s := by
  rw [lowerAfter, if_neg (by simpa using h.not_sigma), h.stays, h.not_ignorable, h.not_cased,
    if_neg Bool.false_ne_true, List.singleton_append, lower]

theorem lower_cons (h : Boundary c) (s : List Char) : lower (c :: s) = c :: lower s :=
  h.lowerAfter_cons false s

-- A sigma does not see what stands behind the boundary.
theorem startsCased_append (h : Boundary c) (s rest : List Char) :
    startsCased (s ++ c :: rest) = startsCased s := by
  induction s with
  | nil =>
    have hnone : startsCased (c :: rest) = false := by
      rw [startsCased, h.not_ignorable, if_neg Bool.false_ne_true, h.not_cased]
    rw [List.nil_append, hnone, startsCased]
  | cons d s ih => rw [List.cons_append, startsCased, startsCased, ih]

theorem lowerAfter_append (h : Boundary c) (afterCased : Bool) (s rest : List Char) :
    lowerAfter afterCased (s ++ c :: rest) = lowerAfter afterCased s ++ c :: lower rest := by
  induction s generalizing afterCased with
  | nil => exact h.lowerAfter_cons afterCased rest
  | cons d s ih =>
    rw [List.cons_append, lowerAfter, lowerAfter, h.startsCased_append, ih, List.append_assoc]

theorem lower_append (h : Boundary c) (s rest : List Char) :
    lower (s ++ c :: rest) = lower s ++ c :: lower rest :=
  h.lowerAfter_append false s rest

theorem lower_concat (h : Boundary c) (s : List Char) :
    lower (s ++ [c]) = lower s ++ [c] :=
  h.lower_append s []

theorem lower_intercalate (h : Boundary c) (pieces : List (List Char)) :
    lower (List.intercalate [c] pieces) = List.intercalate [c] (pieces.map lower) := by
  induction pieces with
  | nil => rfl
  | cons piece rest ih =>
    cases rest with
    | nil => simp
    | cons next rest =>
      rw [List.intercalate_cons_cons, List.append_assoc, List.singleton_append, h.lower_append, ih,
        List.map_cons, List.map_cons, List.map_cons, List.intercalate_cons_cons,
        List.append_assoc, List.singleton_append]

end Boundary

/-! ## Trimming -/

-- Nothing but white space becomes white space.
theorem not_isBlank_of_mem_lowerChar {c d : Char} (hc : isBlank c = false)
    (hd : d ∈ lowerChar c) : isBlank d = false := by
  rw [lowerChar] at hd
  split at hd
  · simp only [List.mem_cons, List.not_mem_nil, or_false] at hd
    rcases hd with rfl | rfl <;> decide
  · obtain rfl := List.mem_singleton.1 hd
    by_contra hblank
    rw [Bool.not_eq_false] at hblank
    have hsame := (lowerFirst_eq_iff (caseless_of_isBlank hblank)).1 rfl
    rw [← hsame, hc] at hblank
    cases hblank

-- The first character of a text becomes one or two of the same kind.
theorem exists_small (afterCased : Bool) (c : Char) (s : List Char) :
    ∃ small, (∃ next, lowerAfter afterCased (c :: s) = small ++ lowerAfter next s) ∧ small ≠ [] ∧
      (isBlank c = false → ∀ d ∈ small, isBlank d = false) := by
  by_cases hsigma : c = 'Σ'
  · subst hsigma
    refine ⟨_, ⟨_, rfl⟩, List.cons_ne_nil _ _, fun _ d hd => ?_⟩
    obtain rfl := List.mem_singleton.1 hd
    split <;> decide
  · refine ⟨lowerChar c, ⟨if isIgnorable c then afterCased else isCased c, ?_⟩, ?_,
      fun hblank _ => not_isBlank_of_mem_lowerChar hblank⟩
    · rw [lowerAfter, if_neg (by simpa using hsigma)]
    · unfold lowerChar
      split <;> exact List.cons_ne_nil _ _

theorem trimStart_lower (s : List Char) : trimStart (lower s) = lower (trimStart s) := by
  induction s with
  | nil => rfl
  | cons c s ih =>
    by_cases hblank : isBlank c = true
    · rw [(boundary_of_isBlank hblank).lower_cons, trimStart, List.dropWhile_cons_of_pos hblank,
        ← trimStart, ih, trimStart, trimStart, List.dropWhile_cons_of_pos hblank]
    · rw [Bool.not_eq_true] at hblank
      have hstays : trimStart (c :: s) = c :: s := trimStart_of_stops (stops_cons.2 hblank)
      rw [hstays]
      obtain ⟨small, ⟨next, hlower⟩, hne, hsmall⟩ := exists_small false c s
      rw [lower, hlower]
      obtain ⟨d, small, rfl⟩ := List.exists_cons_of_ne_nil hne
      exact trimStart_of_stops (stops_cons.2 (hsmall hblank d (List.mem_cons_self ..)))

theorem trimEnd_concat_of_blank {c : Char} (h : isBlank c = true) (s : List Char) :
    trimEnd (s ++ [c]) = trimEnd s := by
  rw [trimEnd, List.reverse_append, List.reverse_singleton, List.singleton_append,
    List.dropWhile_cons_of_pos h, trimEnd]

theorem trimEnd_concat_of_not_blank {c : Char} (h : isBlank c = false) (s : List Char) :
    trimEnd (s ++ [c]) = s ++ [c] := by
  rw [trimEnd, List.reverse_append, List.reverse_singleton, List.singleton_append,
    List.dropWhile_cons_of_neg (by rw [h]; exact Bool.false_ne_true), List.reverse_cons,
    List.reverse_reverse]

-- The last character of a text becomes one or two of the same kind.
theorem exists_lowerAfter_concat {c : Char} (hblank : isBlank c = false) (afterCased : Bool)
    (s : List Char) :
    ∃ front d, lowerAfter afterCased (s ++ [c]) = front ++ [d] ∧ isBlank d = false := by
  induction s generalizing afterCased with
  | nil =>
    obtain ⟨small, ⟨next, hlower⟩, hne, hsmall⟩ := exists_small afterCased c []
    refine ⟨small.dropLast, small.getLast hne, ?_, hsmall hblank _ (List.getLast_mem hne)⟩
    rw [List.nil_append, hlower, lowerAfter, List.append_nil, List.dropLast_append_getLast]
  | cons d s ih =>
    obtain ⟨small, ⟨next, hlower⟩, -, -⟩ := exists_small afterCased d (s ++ [c])
    obtain ⟨front, last, hrest, hlast⟩ := ih next
    exact ⟨small ++ front, last, by rw [List.cons_append, hlower, hrest, List.append_assoc], hlast⟩

theorem trimEnd_lower (s : List Char) : trimEnd (lower s) = lower (trimEnd s) := by
  induction s using List.reverseRecOn with
  | nil => rfl
  | append_singleton s c ih =>
    by_cases hblank : isBlank c = true
    · rw [(boundary_of_isBlank hblank).lower_concat, trimEnd_concat_of_blank hblank, ih,
        trimEnd_concat_of_blank hblank]
    · rw [Bool.not_eq_true] at hblank
      obtain ⟨front, d, hlower, hd⟩ := exists_lowerAfter_concat hblank false s
      rw [trimEnd_concat_of_not_blank hblank, lower, hlower, trimEnd_concat_of_not_blank hd]

theorem trim_lower (s : List Char) : trim (lower s) = lower (trim s) := by
  rw [trim, trimStart_lower, trimEnd_lower, trim]

theorem ne_of_isBlank {c d : Char} (hc : isBlank c = true) (hd : isBlank d = false) : c ≠ d := by
  rintro rfl
  rw [hc] at hd
  cases hd

-- A text is cut into a text without white space at its end, and white space.
theorem exists_blanks_end (s : List Char) :
    ∃ blanks, s = trimEnd s ++ blanks ∧ ∀ c ∈ blanks, isBlank c = true := by
  obtain ⟨run, rest, hs, hrun, -, -, hdrop⟩ := exists_run isBlank s.reverse
  refine ⟨run.reverse, ?_, fun c hc => hrun c (List.mem_reverse.1 hc)⟩
  rw [trimEnd, hdrop, ← List.reverse_append, ← hs, List.reverse_reverse]

theorem stops_trimEnd {s : List Char} (h : Stops isBlank s) : Stops isBlank (trimEnd s) := by
  obtain ⟨blanks, hs, -⟩ := exists_blanks_end s
  cases hend : trimEnd s with
  | nil => exact stops_nil
  | cons c rest =>
    rw [hs, hend, List.cons_append] at h
    exact stops_cons.2 (stops_cons.1 h)

theorem mem_of_mem_trim {c : Char} {s : List Char} (h : c ∈ trim s) : c ∈ s := by
  obtain ⟨before, hbefore, -, -⟩ := exists_blanks s
  obtain ⟨behind, hbehind, -⟩ := exists_blanks_end (trimStart s)
  rw [hbefore, hbehind]
  exact List.mem_append_right _ (List.mem_append_left _ h)

theorem trim_trim (s : List Char) : trim (trim s) = trim s := by
  have hstart : trimStart (trim s) = trim s :=
    trimStart_of_stops (stops_trimEnd (stops_dropWhile s))
  have hend : trimEnd (trimEnd (trimStart s)) = trimEnd (trimStart s) := by
    rw [trimEnd, trimEnd, List.reverse_reverse, dropWhile_of_stops (stops_dropWhile _)]
  conv => lhs; rw [trim, hstart, trim, hend, ← trim]

theorem trim_cons_of_blank {c : Char} (h : isBlank c = true) (s : List Char) :
    trim (c :: s) = trim s := by
  rw [trim, trimStart, List.dropWhile_cons_of_pos h, ← trimStart, trim]

theorem trim_concat_of_blank {c : Char} (h : isBlank c = true) (s : List Char) :
    trim (s ++ [c]) = trim s := by
  induction s with
  | nil => rw [List.nil_append, trim_cons_of_blank h]
  | cons d s ih =>
    by_cases hd : isBlank d = true
    · rw [List.cons_append, trim_cons_of_blank hd, ih, trim_cons_of_blank hd]
    · rw [Bool.not_eq_true] at hd
      rw [trim, trim, List.cons_append, trimStart_of_stops (stops_cons.2 hd),
        trimStart_of_stops (stops_cons.2 hd), ← List.cons_append, trimEnd_concat_of_blank h]

section Unchanged

variable {β : Type} {f : List Char → β}

-- What a blank in front does not change, trimming does not change either.
theorem apply_trimStart (h : ∀ c s, isBlank c = true → f (c :: s) = f s) (s : List Char) :
    f (trimStart s) = f s := by
  induction s with
  | nil => rfl
  | cons c s ih =>
    by_cases hblank : isBlank c = true
    · rw [trimStart, List.dropWhile_cons_of_pos hblank, ← trimStart, ih, h c s hblank]
    · rw [trimStart, List.dropWhile_cons_of_neg hblank]

theorem apply_trimEnd (h : ∀ c s, isBlank c = true → f (s ++ [c]) = f s) (s : List Char) :
    f (trimEnd s) = f s := by
  induction s using List.reverseRecOn with
  | nil => rfl
  | append_singleton s c ih =>
    by_cases hblank : isBlank c = true
    · rw [trimEnd_concat_of_blank hblank, ih, h c s hblank]
    · rw [trimEnd_concat_of_not_blank (by simpa using hblank)]

theorem apply_trim (hcons : ∀ c s, isBlank c = true → f (c :: s) = f s)
    (hconcat : ∀ c s, isBlank c = true → f (s ++ [c]) = f s) (s : List Char) :
    f (trim s) = f s := by
  rw [trim, apply_trimEnd hconcat, apply_trimStart hcons]

end Unchanged

/-! ## Cutting -/

-- A text is cut on either side of a mark on its own.
theorem splitWhere_append_of_pos {α : Type} {p : α → Bool} {a : α} (h : p a = true)
    (s rest : List α) : splitWhere p (s ++ a :: rest) = splitWhere p s ++ splitWhere p rest := by
  induction s with
  | nil => simp only [List.nil_append, splitWhere, if_pos h, List.singleton_append]
  | cons d s ih =>
    rw [List.cons_append, splitWhere, splitWhere, ih]
    split
    · rfl
    · obtain ⟨piece, pieces, hs⟩ := List.exists_cons_of_ne_nil (splitWhere_ne_nil p s)
      rw [hs, List.cons_append]
      rfl

theorem mem_intercalate_of_mem {α : Type} {a c : α} {piece : List α} {pieces : List (List α)}
    (hpiece : piece ∈ pieces) (hc : c ∈ piece) : c ∈ List.intercalate [a] pieces := by
  induction pieces with
  | nil => cases hpiece
  | cons first rest ih =>
    cases rest with
    | nil =>
      obtain rfl := List.mem_singleton.1 hpiece
      rwa [List.intercalate_singleton]
    | cons next rest =>
      rw [List.intercalate_cons_cons, List.append_assoc]
      rcases List.mem_cons.1 hpiece with rfl | hrest
      · exact List.mem_append_left _ hc
      · exact List.mem_append_right _ (List.mem_append_right _ (ih hrest))

theorem mem_of_mem_intercalate {α : Type} {a c : α} {pieces : List (List α)}
    (h : c ∈ List.intercalate [a] pieces) : c = a ∨ ∃ piece ∈ pieces, c ∈ piece := by
  induction pieces with
  | nil => cases h
  | cons first rest ih =>
    cases rest with
    | nil =>
      rw [List.intercalate_singleton] at h
      exact .inr ⟨first, List.mem_singleton_self _, h⟩
    | cons next rest =>
      rw [List.intercalate_cons_cons, List.append_assoc, List.mem_append, List.mem_append,
        List.mem_singleton] at h
      rcases h with hfirst | rfl | hrest
      · exact .inr ⟨first, List.mem_cons_self, hfirst⟩
      · exact .inl rfl
      · rcases ih hrest with rfl | ⟨piece, hpiece, hc⟩
        · exact .inl rfl
        · exact .inr ⟨piece, List.mem_cons_of_mem _ hpiece, hc⟩

section Cutting

variable {α : Type} [BEq α] [LawfulBEq α] {a : α}

/-- A text is cut at the first mark, or has none. -/
theorem cutFirst_cases (a : α) (s : List α) :
    (a ∉ s ∧ cutFirst a s = (s, none)) ∨
      ∃ before rest, s = before ++ a :: rest ∧ a ∉ before ∧
        cutFirst a s = (before, some rest) := by
  obtain ⟨before, rest, hs, hbefore, hrest, htake, hdrop⟩ := exists_run (· != a) s
  have hnot : a ∉ before := fun hmem => by simpa using hbefore a hmem
  cases rest with
  | nil =>
    rw [List.append_nil] at hs
    subst hs
    exact .inl ⟨hnot, by rw [cutFirst, hdrop]⟩
  | cons d rest =>
    obtain rfl : d = a := by simpa using stops_cons.1 hrest
    exact .inr ⟨before, rest, hs, hnot, cutFirst_eq_some_iff.2 ⟨hs, hnot⟩⟩

theorem cutFirst_of_not_mem {s : List α} (h : a ∉ s) : cutFirst a s = (s, none) := by
  rcases cutFirst_cases a s with ⟨-, hcut⟩ | ⟨before, rest, rfl, -, -⟩
  · exact hcut
  · exact absurd (List.mem_append_right before (List.mem_cons_self ..)) h

theorem cutFirst_append {before : List α} (h : a ∉ before) (rest : List α) :
    cutFirst a (before ++ a :: rest) = (before, some rest) :=
  cutFirst_eq_some_iff.2 ⟨rfl, h⟩

theorem cutFirst_append_of_not_mem {run : List α} (h : a ∉ run) (s : List α) :
    cutFirst a (run ++ s) = (run ++ (cutFirst a s).1, (cutFirst a s).2) := by
  rcases cutFirst_cases a s with ⟨hs, hcut⟩ | ⟨before, rest, rfl, hbefore, hcut⟩
  · rw [hcut, cutFirst_of_not_mem (by simp [h, hs])]
  · rw [hcut, ← List.append_assoc, cutFirst_append (by simp [h, hbefore])]

theorem splitWhere_of_not_mem {s : List α} (h : a ∉ s) : splitWhere (· == a) s = [s] := by
  induction s with
  | nil => rfl
  | cons d s ih =>
    rw [List.mem_cons, not_or] at h
    rw [splitWhere, if_neg (by simpa using Ne.symm h.1), ih h.2]

theorem splitWhere_append {piece : List α} (h : a ∉ piece) (rest : List α) :
    splitWhere (· == a) (piece ++ a :: rest) = piece :: splitWhere (· == a) rest := by
  induction piece with
  | nil => rw [List.nil_append, splitWhere, if_pos (beq_self_eq_true a)]
  | cons d piece ih =>
    rw [List.mem_cons, not_or] at h
    rw [List.cons_append, splitWhere, if_neg (by simpa using Ne.symm h.1), ih h.2]

theorem splitWhere_append_mark (s rest : List α) :
    splitWhere (· == a) (s ++ a :: rest) = splitWhere (· == a) s ++ splitWhere (· == a) rest :=
  splitWhere_append_of_pos (p := (· == a)) (beq_self_eq_true a) s rest

/-- Pieces that are joined by a mark are found again when they do not have the mark themselves. -/
theorem splitWhere_intercalate {pieces : List (List α)} (hne : pieces ≠ [])
    (h : ∀ piece ∈ pieces, a ∉ piece) :
    splitWhere (· == a) (List.intercalate [a] pieces) = pieces := by
  induction pieces with
  | nil => exact absurd rfl hne
  | cons piece rest ih =>
    obtain ⟨hpiece, hrest⟩ := List.forall_mem_cons.1 h
    cases rest with
    | nil => rw [List.intercalate_singleton, splitWhere_of_not_mem hpiece]
    | cons next rest =>
      rw [List.intercalate_cons_cons, List.append_assoc, List.singleton_append,
        splitWhere_append hpiece, ih (List.cons_ne_nil _ _) hrest]

theorem not_mem_of_mem_splitWhere {s piece : List α} (h : piece ∈ splitWhere (· == a) s) :
    a ∉ piece := by
  intro hmem
  simpa using not_of_mem_splitWhere (· == a) s piece h a hmem

-- A character that is not cut at belongs to the first piece, or to the last.
theorem splitWhere_cons_of_ne {d : α} (h : d ≠ a) (s : List α) :
    ∃ piece pieces, splitWhere (· == a) s = piece :: pieces ∧
      splitWhere (· == a) (d :: s) = (d :: piece) :: pieces := by
  obtain ⟨piece, pieces, hs⟩ := List.exists_cons_of_ne_nil (splitWhere_ne_nil (· == a) s)
  exact ⟨piece, pieces, hs, by rw [splitWhere, if_neg (by simpa using h), hs]⟩

theorem splitWhere_concat_of_ne {d : α} (h : d ≠ a) (s : List α) :
    ∃ pieces piece, splitWhere (· == a) s = pieces ++ [piece] ∧
      splitWhere (· == a) (s ++ [d]) = pieces ++ [piece ++ [d]] := by
  induction s with
  | nil => exact ⟨[], [], rfl, splitWhere_of_not_mem (by simpa using Ne.symm h)⟩
  | cons c s ih =>
    obtain ⟨pieces, piece, hs, hs'⟩ := ih
    by_cases hc : c = a
    · subst hc
      refine ⟨[] :: pieces, piece, ?_, ?_⟩
      · rw [splitWhere, if_pos (beq_self_eq_true c), hs, List.cons_append]
      · rw [List.cons_append, splitWhere, if_pos (beq_self_eq_true c), hs', List.cons_append]
    · obtain ⟨first, more, hfirst, hcons⟩ := splitWhere_cons_of_ne hc s
      obtain ⟨first', more', hfirst', hcons'⟩ := splitWhere_cons_of_ne hc (s ++ [d])
      rw [List.cons_append, hcons, hcons']
      rw [hs] at hfirst
      rw [hs'] at hfirst'
      cases pieces with
      | nil =>
        obtain ⟨rfl, rfl⟩ := List.cons.inj hfirst
        obtain ⟨rfl, rfl⟩ := List.cons.inj hfirst'
        exact ⟨[], c :: piece, rfl, rfl⟩
      | cons start pieces =>
        obtain ⟨rfl, rfl⟩ := List.cons.inj hfirst
        obtain ⟨rfl, rfl⟩ := List.cons.inj hfirst'
        exact ⟨(c :: start) :: pieces, piece, rfl, rfl⟩

end Cutting

/-! ## Words -/

-- White space between two texts separates their words.
theorem words_append_of_blank {c : Char} (h : isBlank c = true) (s rest : List Char) :
    words (s ++ c :: rest) = words s ++ words rest := by
  rw [words, splitWhere_append_of_pos h, List.filter_append, words, words]

theorem words_cons_of_blank {c : Char} (h : isBlank c = true) (s : List Char) :
    words (c :: s) = words s :=
  words_append_of_blank h [] s

theorem words_concat_of_blank {c : Char} (h : isBlank c = true) (s : List Char) :
    words (s ++ [c]) = words s :=
  (words_append_of_blank h s []).trans (List.append_nil _)

theorem words_append_blanks {blanks : List Char} (h : ∀ c ∈ blanks, isBlank c = true)
    (s : List Char) : words (s ++ blanks) = words s := by
  induction blanks generalizing s with
  | nil => rw [List.append_nil]
  | cons c blanks ih =>
    obtain ⟨hc, hblanks⟩ := List.forall_mem_cons.1 h
    rw [List.append_cons, ih hblanks, words_concat_of_blank hc]

/-! ## Cutting and lower case -/

theorem not_mem_lower {d : Char} (hd : d.toNat < 97) {s : List Char} (h : d ∉ s) : d ∉ lower s :=
  fun hmem => h (mem_of_mem_lower hd hmem)

theorem cutFirst_lower {c : Char} (hc : Boundary c) (hsign : c.toNat < 97) (s : List Char) :
    cutFirst c (lower s) = (lower (cutFirst c s).1, (cutFirst c s).2.map lower) := by
  rcases cutFirst_cases c s with ⟨hs, hcut⟩ | ⟨before, rest, rfl, hbefore, hcut⟩
  · rw [hcut, cutFirst_of_not_mem (not_mem_lower hsign hs), Option.map_none]
  · rw [hcut, hc.lower_append, cutFirst_append (not_mem_lower hsign hbefore), Option.map_some]

theorem splitWhere_lower {c : Char} (hc : Boundary c) (hsign : c.toNat < 97) (s : List Char) :
    splitWhere (· == c) (lower s) = (splitWhere (· == c) s).map lower := by
  conv => lhs; rw [← intercalate_splitWhere c s, hc.lower_intercalate]
  apply splitWhere_intercalate
  · simpa using splitWhere_ne_nil (· == c) s
  · intro piece hpiece
    obtain ⟨raw, hraw, rfl⟩ := List.mem_map.1 hpiece
    exact not_mem_lower hsign (not_mem_of_mem_splitWhere hraw)

end HeadLint.Text
