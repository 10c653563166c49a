/-!
Cutting and searching lists: at the first or last occurrence of an element, and for a fixed run of
elements.
-/

namespace HeadLint.Text

variable {α : Type} [BEq α]

/-- The part before the first `a` and, when there is one, the part after it. -/
def cutFirst (a : α) (s : List α) : List α × Option (List α) :=
  match s.dropWhile (· != a) with
  | [] => (s, none)
  | _ :: rest => (s.takeWhile (· != a), some rest)

/-- The part before the last `a`, when there is one, and the part after it. -/
def cutLast (a : α) (s : List α) : Option (List α) × List α :=
  match cutFirst a s.reverse with
  | (_, none) => (none, s)
  | (after, some before) => (some before.reverse, after.reverse)

/-- Whether `word` occurs in `s` as a run of neighbouring elements. -/
def occursIn (word : List α) : List α → Bool
  | [] => word.isEmpty
  | a :: rest => word.isPrefixOf (a :: rest) || occursIn word rest

/-- What follows `word`, when `s` starts with it. -/
def after? (word s : List α) : Option (List α) :=
  if word.isPrefixOf s then some (s.drop word.length) else none

/-- `occursIn` on strings. -/
def containsText (word s : String) : Bool :=
  occursIn word.toList s.toList

/-- Nothing is lost at the first cut, and the part before it is free of the mark. -/
theorem cutFirst_eq_some_iff [LawfulBEq α] {a : α} {s before rest : List α} :
    cutFirst a s = (before, some rest) ↔ s = before ++ a :: rest ∧ a ∉ before := by
  induction s generalizing before with
  | nil => simp [cutFirst]
  | cons c s ih =>
    by_cases h : c = a
    · subst h
      cases before with
      | nil => simp [cutFirst]
      | cons b before => simp +contextual [cutFirst]
    · have hc : (c != a) = true := by simpa using h
      have step : cutFirst a (c :: s) = (c :: (cutFirst a s).1, (cutFirst a s).2) := by
        simp only [cutFirst, List.dropWhile_cons, List.takeWhile_cons, hc, if_true]
        cases s.dropWhile (· != a) <;> rfl
      rw [step]
      cases before with
      | nil => simp [h]
      | cons b before =>
        have := @ih before
        constructor
        · intro heq
          obtain ⟨h1, h2⟩ := Prod.mk.inj heq
          obtain ⟨rfl, h3⟩ := List.cons.inj h1
          obtain ⟨rfl, hnot⟩ := this.1 (Prod.ext h3 h2)
          exact ⟨rfl, by simpa [Ne.symm h] using hnot⟩
        · rintro ⟨heq, hnot⟩
          obtain ⟨rfl, rfl⟩ := List.cons.inj heq
          rw [this.2 ⟨rfl, fun hin => hnot (List.mem_cons_of_mem _ hin)⟩]

end HeadLint.Text
