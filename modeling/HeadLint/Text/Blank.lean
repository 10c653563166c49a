/-!
White space, and the trimming and word splitting that go with it.  Text is handled as a list of
characters; `trimmed` is trimming on strings.
-/

namespace HeadLint.Text

/-- White space: the controls from tab to carriage return, the four separators before the space, the
space, and every space, line and paragraph separator beyond ASCII.  The zero-width space and the
byte-order mark are not among them. -/
def isBlank (c : Char) : Bool :=
  let n := c.toNat
  (9 ≤ n && n ≤ 13) || (28 ≤ n && n ≤ 32) || n == 0x85 || n == 0xA0 || n == 0x1680 ||
    (0x2000 ≤ n && n ≤ 0x200A) || n == 0x2028 || n == 0x2029 || n == 0x202F || n == 0x205F ||
    n == 0x3000

/-- A text without its leading white space. -/
def trimStart (s : List Char) : List Char :=
  s.dropWhile isBlank

/-- A text without its trailing white space. -/
def trimEnd (s : List Char) : List Char :=
  (s.reverse.dropWhile isBlank).reverse

/-- A text without white space at either end. -/
def trim (s : List Char) : List Char :=
  trimEnd (trimStart s)

/-- Cuts a list at every element that satisfies `p`; the pieces between the cuts may be empty, and
there is always one more piece than there are cuts. -/
def splitWhere {α : Type} (p : α → Bool) : List α → List (List α)
  | [] => [[]]
  | a :: rest =>
    if p a then [] :: splitWhere p rest
    else
      match splitWhere p rest with
      | [] => [[a]]
      | piece :: pieces => (a :: piece) :: pieces

/-- The maximal runs of characters that are not white space. -/
def words (s : List Char) : List (List Char) :=
  (splitWhere isBlank s).filter fun w => !w.isEmpty

/-- Whether a text has nothing but white space. -/
def isBlankText (s : List Char) : Bool :=
  s.all isBlank

/-- `trim` on strings. -/
def trimmed (s : String) : String :=
  String.ofList (trim s.toList)

/-- There is always at least one piece. -/
theorem splitWhere_ne_nil {α : Type} (p : α → Bool) (s : List α) : splitWhere p s ≠ [] := by
  cases s with
  | nil => simp [splitWhere]
  | cons a rest =>
    rw [splitWhere]
    split
    · simp
    · split <;> simp

/-- No piece has an element that was cut at. -/
theorem not_of_mem_splitWhere {α : Type} (p : α → Bool) (s : List α) :
    ∀ piece ∈ splitWhere p s, ∀ a ∈ piece, p a = false := by
  induction s with
  | nil => simp [splitWhere]
  | cons a rest ih =>
    rw [splitWhere]
    split
    · simpa using ih
    · rename_i ha
      split
      · rename_i h
        exact absurd h (splitWhere_ne_nil p rest)
      · rename_i piece pieces h
        rw [h] at ih
        intro part hpart b hb
        rcases List.mem_cons.1 hpart with rfl | hmem
        · rcases List.mem_cons.1 hb with rfl | hin
          · simpa using ha
          · exact ih piece (List.mem_cons_self ..) b hin
        · exact ih part (List.mem_cons_of_mem _ hmem) b hb

/-- The pieces between the occurrences of a separator, joined by it, are the text. -/
theorem intercalate_splitWhere {α : Type} [BEq α] [LawfulBEq α] (separator : α) (s : List α) :
    List.intercalate [separator] (splitWhere (· == separator) s) = s := by
  induction s with
  | nil => rfl
  | cons a rest ih =>
    rw [splitWhere]
    split
    · rename_i ha
      have hne := splitWhere_ne_nil (· == separator) rest
      cases hs : splitWhere (· == separator) rest with
      | nil => exact absurd hs hne
      | cons piece pieces =>
        rw [hs] at ih
        simpa [List.intercalate, List.intersperse, eq_of_beq ha] using ih
    · split
      · rename_i h
        exact absurd h (splitWhere_ne_nil _ rest)
      · rename_i piece pieces h
        rw [h] at ih
        cases pieces with
        | nil => simpa [List.intercalate, List.intersperse] using ih
        | cons _ _ => simpa [List.intercalate, List.intersperse] using ih

end HeadLint.Text
