import HeadLint.Text.Blank
import HeadLint.Text.SameLetter
import HeadLint.Text.Search
import Mathlib.Data.List.Forall2
import Mathlib.Data.List.TakeWhile

/-!
Runs of characters.  A scanner takes the longest run of characters of one kind and goes on behind
it, so most facts about scanners come down to how a text is cut into a run and a rest, and to what
remains of such a cut when the text is cut short.
-/

namespace HeadLint.Text

/-! ## Cutting a text behind a run -/

section Run

variable {α : Type} {p : α → Bool}

/-- The text does not go on with an element of the kind `p`. -/
def Stops (p : α → Bool) (s : List α) : Prop :=
  ∀ a ∈ s.head?, p a = false

theorem stops_nil : Stops p [] := by
  intro a ha
  cases ha

theorem stops_cons {a : α} {s : List α} : Stops p (a :: s) ↔ p a = false := by
  simp [Stops]

theorem stops_dropWhile (s : List α) : Stops p (s.dropWhile p) := by
  intro a ha
  have h := List.head?_dropWhile_not p s
  rw [Option.mem_def.1 ha] at h
  simpa using h

theorem takeWhile_of_stops {s : List α} (h : Stops p s) : s.takeWhile p = [] := by
  cases s with
  | nil => rfl
  | cons a s => rw [List.takeWhile_cons_of_neg (by simp [stops_cons.1 h])]

theorem dropWhile_of_stops {s : List α} (h : Stops p s) : s.dropWhile p = s := by
  cases s with
  | nil => rfl
  | cons a s => rw [List.dropWhile_cons_of_neg (by simp [stops_cons.1 h])]

theorem takeWhile_run {run rest : List α} (hrun : ∀ a ∈ run, p a = true) (hrest : Stops p rest) :
    (run ++ rest).takeWhile p = run := by
  rw [List.takeWhile_append_of_pos hrun, takeWhile_of_stops hrest, List.append_nil]

theorem dropWhile_run {run rest : List α} (hrun : ∀ a ∈ run, p a = true) (hrest : Stops p rest) :
    (run ++ rest).dropWhile p = rest := by
  rw [List.dropWhile_append_of_pos hrun, dropWhile_of_stops hrest]

-- A text that is cut into a run and a rest.
theorem exists_run (p : α → Bool) (s : List α) :
    ∃ run rest, s = run ++ rest ∧ (∀ a ∈ run, p a = true) ∧ Stops p rest ∧
      s.takeWhile p = run ∧ s.dropWhile p = rest :=
  ⟨s.takeWhile p, s.dropWhile p, List.takeWhile_append_dropWhile.symm,
    fun _ ha => List.mem_takeWhile_imp ha, stops_dropWhile s, rfl, rfl⟩

-- A run that ends within the first part of a text is a run of that part.
theorem takeWhile_of_length_le {s t : List α}
    (h : ((s ++ t).takeWhile p).length ≤ s.length) : (s ++ t).takeWhile p = s.takeWhile p := by
  rw [List.takeWhile_append] at h ⊢
  split
  · rename_i hall
    rw [if_pos hall, List.length_append] at h
    have hnil : t.takeWhile p = [] := List.eq_nil_of_length_eq_zero (by omega)
    have hself : s.takeWhile p = s := (List.takeWhile_prefix p).eq_of_length hall
    rw [hnil, List.append_nil, hself]
  · rfl

end Run

-- Two ways to cut one text, the first cut not behind the second.
theorem exists_rest_of_length_le {α : Type} {s t a b : List α} (h : s ++ t = a ++ b)
    (hle : a.length ≤ s.length) : ∃ rest, s = a ++ rest ∧ b = rest ++ t := by
  obtain ⟨rest, hs⟩ := List.prefix_of_prefix_length_le ⟨b, h.symm⟩ (List.prefix_append s t) hle
  refine ⟨rest, hs.symm, ?_⟩
  rw [← hs, List.append_assoc] at h
  exact (List.append_cancel_left h).symm

-- A text that is cut at a mark, and cut once more at the first one.
theorem exists_concat_of_not_mem {α : Type} {a : α} {before rest front behind : List α}
    (hbefore : a ∉ before) (h : front ++ a :: behind = before ++ a :: rest) :
    ∃ more, front ++ [a] = before ++ a :: more := by
  induction before generalizing front with
  | nil =>
    cases front with
    | nil => exact ⟨[], rfl⟩
    | cons d front => exact ⟨front ++ [a], by rw [(List.cons.inj h).1]; rfl⟩
  | cons b before ih =>
    rw [List.mem_cons, not_or] at hbefore
    cases front with
    | nil => exact absurd (List.cons.inj h).1 hbefore.1
    | cons d front =>
      obtain ⟨rfl, htail⟩ := List.cons.inj h
      obtain ⟨more, hmore⟩ := ih hbefore.2 htail
      exact ⟨more, by rw [List.cons_append, hmore, List.cons_append]⟩

/-! ## White space -/

theorem trimStart_run {blanks rest : List Char} (hblanks : ∀ c ∈ blanks, isBlank c = true)
    (hrest : Stops isBlank rest) : trimStart (blanks ++ rest) = rest :=
  dropWhile_run hblanks hrest

theorem trimStart_of_stops {s : List Char} (h : Stops isBlank s) : trimStart s = s :=
  dropWhile_of_stops h

theorem exists_blanks (s : List Char) :
    ∃ blanks, s = blanks ++ trimStart s ∧ (∀ c ∈ blanks, isBlank c = true) ∧
      Stops isBlank (trimStart s) := by
  obtain ⟨run, rest, hs, hrun, hrest, -, hdrop⟩ := exists_run isBlank s
  have htrim : trimStart s = rest := hdrop
  rw [htrim]
  exact ⟨run, hs, hrun, hrest⟩

/-! ## Fixed texts -/

theorem after?_eq_some_iff {word s rest : List Char} :
    after? word s = some rest ↔ s = word ++ rest := by
  unfold after?
  split
  · rename_i h
    obtain ⟨tail, htail⟩ := List.isPrefixOf_iff_prefix.1 h
    subst htail
    simp
  · rename_i h
    constructor
    · intro hnone
      cases hnone
    · rintro rfl
      exact absurd (List.isPrefixOf_iff_prefix.2 (List.prefix_append word rest)) h

/-- Two texts with the same letters, case ignored. -/
def SameWord (word found : List Char) : Prop :=
  List.Forall₂ (fun a c => sameLetter a c = true) word found

theorem SameWord.length_eq {word found : List Char} (h : SameWord word found) :
    word.length = found.length :=
  List.Forall₂.length_eq h

theorem SameWord.refl (word : List Char) : SameWord word word :=
  List.forall₂_same.2 fun a _ => sameLetter_self a

theorem SameWord.exists_of_mem {word found : List Char} (h : SameWord word found) {c : Char}
    (hc : c ∈ found) : ∃ a ∈ word, sameLetter a c = true := by
  induction h with
  | nil => cases hc
  | cons hac _ ih =>
    rcases List.mem_cons.1 hc with rfl | hc
    · exact ⟨_, List.mem_cons_self, hac⟩
    · obtain ⟨a, ha, hsame⟩ := ih hc
      exact ⟨a, List.mem_cons_of_mem _ ha, hsame⟩

-- A word is found where the text goes on with its letters.
theorem dropWord_eq_some_iff {word s rest : List Char} :
    dropWord word s = some rest ↔ ∃ found, s = found ++ rest ∧ SameWord word found := by
  induction word generalizing s with
  | nil =>
    constructor
    · intro h
      exact ⟨[], Option.some.inj h, .nil⟩
    · rintro ⟨found, hs, hfound⟩
      cases hfound
      rw [hs]
      rfl
  | cons a word ih =>
    cases s with
    | nil =>
      constructor
      · intro h
        cases h
      · rintro ⟨found, hs, hfound⟩
        cases hfound
        cases hs
    | cons c s =>
      by_cases h : sameLetter a c = true
      · simp only [dropWord, h, if_true, ih]
        constructor
        · rintro ⟨found, rfl, hfound⟩
          exact ⟨c :: found, rfl, .cons h hfound⟩
        · rintro ⟨found, hs, hfound⟩
          cases hfound with
          | cons hac hfound =>
            obtain ⟨rfl, rfl⟩ := List.cons.inj hs
            exact ⟨_, rfl, hfound⟩
      · rw [dropWord, if_neg h]
        constructor
        · intro hnone
          cases hnone
        · rintro ⟨found, hs, hfound⟩
          cases hfound with
          | cons hac hfound =>
            obtain ⟨rfl, rfl⟩ := List.cons.inj hs
            exact absurd hac h

-- A word in two parts is found part by part.
theorem dropWord_append (word word' s : List Char) :
    dropWord (word ++ word') s = (dropWord word s).bind (dropWord word') := by
  induction word generalizing s with
  | nil => rfl
  | cons a word ih =>
    cases s with
    | nil => rfl
    | cons c s =>
      rw [List.cons_append, dropWord, dropWord]
      split
      · exact ih s
      · rfl

end HeadLint.Text
