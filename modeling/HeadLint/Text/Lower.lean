import HeadLint.Text.CaseData

/-!
Lower case for the whole of Unicode.  Every character is mapped on its own, except that a capital
sigma at the end of a word becomes a final sigma.
-/

namespace HeadLint.Text

/-- Membership in a table of closed ranges that is sorted in increasing order. -/
def inRanges : List (Nat × Nat) → Nat → Bool
  | [], _ => false
  | (lo, hi) :: rest, n => if n < lo then false else if n ≤ hi then true else inRanges rest n

/-- The small letter of code point `n` according to a sorted list of runs. -/
def lowerIn : List CaseRun → Nat → Nat
  | [], n => n
  | r :: rest, n =>
    if n < r.first then n
    else if n ≤ r.last then
      if (n - r.first) % r.step == 0 then r.target + (n - r.first) else n
    else lowerIn rest n

/-- The first character of the lower case of `c`; for all but one character it is the only one. -/
def lowerFirst (c : Char) : Char :=
  Char.ofNat (lowerIn caseRuns c.toNat)

/-- The lower case of one character, outside the context of a word. -/
def lowerChar (c : Char) : List Char :=
  if c == 'İ' then ['i', '\u0307'] else [lowerFirst c]

/-- Whether a character has case: it is a capital or a small letter, or counts as one. -/
def isCased (c : Char) : Bool :=
  inRanges casedRanges c.toNat

/-- Whether a character is passed over when the neighbours of a sigma are looked at. -/
def isIgnorable (c : Char) : Bool :=
  inRanges ignorableRanges c.toNat

/-- Whether the first character that is not passed over has case. -/
def startsCased : List Char → Bool
  | [] => false
  | c :: rest => if isIgnorable c then startsCased rest else isCased c

/-- Lower case of a text that stands after other text; `afterCased` says whether that text, its
ignorable end apart, ends in a character with case.  A capital sigma with such a character before
it and none after it is the last letter of a word. -/
def lowerAfter (afterCased : Bool) : List Char → List Char
  | [] => []
  | c :: rest =>
    let small :=
      if c == 'Σ' then [if afterCased && !startsCased rest then 'ς' else 'σ'] else lowerChar c
    small ++ lowerAfter (if isIgnorable c then afterCased else isCased c) rest

/-- A text in lower case. -/
def lower (s : List Char) : List Char :=
  lowerAfter false s

/-- `lower` on strings. -/
def lowered (s : String) : String :=
  String.ofList (lower s.toList)

end HeadLint.Text
