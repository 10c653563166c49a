/-!
Ranges of source text.
-/

namespace HeadLint

/-- The characters from offset `start` up to, but not including, offset `stop`, with the line
(from one) and the column (from zero) of the start. -/
structure Span where
  start : Int
  stop : Int
  line : Int := 1
  column : Int := 0
deriving DecidableEq, Inhabited

/-- The part of a list from offset `start` up to, but not including, offset `stop`. -/
def slice {α : Type} (start stop : Nat) (s : List α) : List α :=
  (s.take stop).drop start

end HeadLint
