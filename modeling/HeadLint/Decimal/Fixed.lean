import HeadLint.Decimal.Shortest

/-!
Double-precision numbers with a given number of digits, and the layouts that go with it: a fixed
number of places, a power of ten, or whichever of the two suits the size of the number.
-/

namespace HeadLint.Binary64

/-- No double-precision number has more decimal digits than this, on either side of its point. -/
def digitBound : Nat := 1200

/-- `m · 2 ^ e` as a fraction. -/
def ratio (m : Nat) (e : Int) : Nat × Nat :=
  if 0 ≤ e then (m * pow2 e.toNat, 1) else (m, pow2 (-e).toNat)

/-- Significant digits with the place of the point: `0.d₁d₂… · 10 ^ point`. -/
structure Figures where
  digits : List Char
  point : Int

/-- Digits without zeros at their end; the first digit stays. -/
def dropEndZeros (digits : List Char) : List Char :=
  digits.take 1 ++ ((digits.drop 1).reverse.dropWhile (· == '0')).reverse

/-- The figures of a number rounded to so many places, a half going to the even neighbour; at least
one of them stands before the point. -/
def fixedFigures (m : Nat) (e : Int) (places : Nat) : Figures :=
  let kept := min places digitBound
  let (num, den) := ratio m e
  let digits := padLeft (kept + 1) (Nat.toDigits 10 (roundHalfEven (num * pow10 kept) den))
  ⟨digits ++ List.replicate (places - kept) '0', (digits.length : Int) - kept⟩

/-- At most so many significant figures of a number, at least one; a half goes to the even
neighbour, and zeros at the end are dropped. -/
def significantFigures (m : Nat) (e : Int) (count : Nat) : Figures :=
  if m == 0 then ⟨['0'], 1⟩
  else
    let kept := min count digitBound
    let (num, den) := ratio m e
    let point := magnitude num den
    let shift := (kept : Int) - point
    let n := roundHalfEven (num * pow10 shift.toNat) (den * pow10 (-shift).toNat)
    let carried := if n == pow10 kept then 1 else 0
    ⟨dropEndZeros (Nat.toDigits 10 n), point + carried⟩

/-- The fewest figures that identify a number. -/
def shortestFigures (m : Nat) (e : Int) : Figures :=
  if m == 0 then ⟨['0'], 1⟩
  else
    let x := shortest m e
    let digits := Nat.toDigits 10 x.digits
    ⟨dropEndZeros digits, x.exponent + digits.length⟩

/-- A list filled up with zeros on the right. -/
def padRight (width : Nat) (s : List Char) : List Char :=
  s ++ List.replicate (width - s.length) '0'

/-- How figures are written: with a power of ten or without, up to the figure `last` at least, with
the point kept when nothing follows it, and with a place after the point in any case. -/
structure FigureLayout where
  scientific : Bool
  last : Nat
  keepsPoint : Bool
  hasPlace : Bool
  exponentMark : Char

/-- Figures as text. -/
def Figures.layOut (x : Figures) (layout : FigureLayout) : List Char :=
  let point : Int := if layout.scientific then 1 else x.point
  let least := if !layout.scientific && layout.hasPlace then point + 1 else point
  let places := (max (layout.last : Int) least - point).toNat
  let whole := if point ≤ 0 then ['0'] else padRight point.toNat (x.digits.take point.toNat)
  let behind :=
    if point ≤ 0 then List.replicate (-point).toNat '0' ++ x.digits else x.digits.drop point.toNat
  let fraction :=
    if places == 0 then if layout.keepsPoint then ['.'] else [] else '.' :: padRight places behind
  let power := x.point - 1
  let exponent :=
    if layout.scientific then
      layout.exponentMark :: (if power < 0 then '-' else '+') ::
        padLeft 2 (Nat.toDigits 10 power.natAbs)
    else []
  whole ++ fraction ++ exponent

end HeadLint.Binary64
