import HeadLint.Decimal.Binary64

/-!
The fewest decimal digits that identify a double-precision number, and the text that is made of
them.
-/

namespace HeadLint.Binary64

/-- Significant digits and a power of ten: `digits · 10 ^ exponent`. -/
structure Digits where
  digits : Nat
  exponent : Int

/-- A positive value together with the reals that round to it: everything from `low` to `high` over
the denominator `den`, the ends included iff `closed`. -/
structure Neighbourhood where
  low : Nat
  value : Nat
  high : Nat
  den : Nat
  closed : Bool

/-- The reals nearer to `m · 2 ^ e` than to any other double-precision number.  Below a power of
two the neighbour is only half as far away. -/
def neighbourhood (m : Nat) (e : Int) : Neighbourhood :=
  let below := if m == pow2 52 && minExponent < e then 1 else 2
  let (up, den) := if 0 ≤ e then (pow2 e.toNat, 4) else (1, 4 * pow2 (-e).toNat)
  ⟨(4 * m - below) * up, 4 * m * up, (4 * m + 2) * up, den, m % 2 == 0⟩

/-- Whether `num / scale` lies in the neighbourhood. -/
def Neighbourhood.holds (n : Neighbourhood) (num scale : Nat) : Bool :=
  if n.closed then n.low * scale ≤ num * n.den && num * n.den ≤ n.high * scale
  else n.low * scale < num * n.den && num * n.den < n.high * scale

/-- The multiple of `10 ^ exponent` in the neighbourhood that is nearest to its value, if there is
one next to it; a tie goes to the even multiple. -/
def nearestMultiple (n : Neighbourhood) (exponent : Int) : Option Nat :=
  let unit := pow10 exponent.toNat
  let scale := pow10 (-exponent).toNat
  let below := n.value * scale / (n.den * unit)
  let lowFits := n.holds (below * unit) scale
  let highFits := n.holds ((below + 1) * unit) scale
  let rest := 2 * (n.value * scale % (n.den * unit))
  match lowFits, highFits with
  | true, false => some below
  | false, true => some (below + 1)
  | false, false => none
  | true, true =>
    if rest < n.den * unit then some below
    else if n.den * unit < rest then some (below + 1)
    else some (if below % 2 == 0 then below else below + 1)

/-- Tries grids of one, two, … digits and takes the first that has a point in the
neighbourhood. -/
def firstGrid (n : Neighbourhood) (magnitude : Int) : Nat → Nat → Digits
  | 0, count => ⟨0, magnitude - count⟩
  | tries + 1, count =>
    let exponent := magnitude - count
    match nearestMultiple n exponent with
    | some digits => ⟨digits, exponent⟩
    | none => firstGrid n magnitude tries (count + 1)

/-- The number of decimal digits of `n`. -/
def digitCount (n : Nat) : Nat :=
  (Nat.toDigits 10 n).length

/-- The least `k` with `num / den < 10 ^ k`, for a positive fraction. -/
def magnitude (num den : Nat) : Int :=
  let k : Int := (digitCount num : Int) - digitCount den
  if num * pow10 (-k).toNat < den * pow10 k.toNat then k else k + 1

/-- The shortest decimal that reads back as `m · 2 ^ e`; seventeen digits always suffice. -/
def shortest (m : Nat) (e : Int) : Digits :=
  let n := neighbourhood m e
  firstGrid n (magnitude n.value n.den) 17 1

/-- How a number is laid out: positional while its leading digit stands for a power of ten from
`positionalFrom` up to, but not including, `positionalTo`. -/
structure Layout where
  positionalFrom : Int
  positionalTo : Int
  exponentWidth : Nat

/-- Numbers in reports are positional from a ten-thousandth up to ten quadrillions. -/
def reportLayout : Layout := ⟨-4, 16, 2⟩

/-- A list of digits filled up with zeros on the left. -/
def padLeft (width : Nat) (s : List Char) : List Char :=
  List.replicate (width - s.length) '0' ++ s

/-- The text of `digits · 10 ^ exponent`; a positional number always has a fraction, and an
exponent has a sign. -/
def layOut (layout : Layout) (x : Digits) : List Char :=
  let raw := Nat.toDigits 10 x.digits
  let kept := (raw.reverse.dropWhile (· == '0')).reverse
  let lead : Int := x.exponent + raw.length - 1
  if layout.positionalFrom ≤ lead ∧ lead < layout.positionalTo then
    if lead < 0 then '0' :: '.' :: (List.replicate (-lead - 1).toNat '0' ++ kept)
    else
      let places := lead.toNat + 1
      let whole := kept.take places ++ List.replicate (places - kept.length) '0'
      let fraction := kept.drop places
      whole ++ '.' :: (if fraction.isEmpty then ['0'] else fraction)
  else
    let tail := kept.drop 1
    kept.take 1 ++ (if tail.isEmpty then [] else '.' :: tail) ++ 'e' ::
      (if lead < 0 then '-' else '+') ::
      padLeft layout.exponentWidth (Nat.toDigits 10 lead.natAbs)

/-- The text of a number, with as few digits as identify it. -/
def toText : Binary64 → String
  | .nan => "nan"
  | .infinite negative => if negative then "-inf" else "inf"
  | .finite negative m e =>
    let body := if m == 0 then ['0', '.', '0'] else layOut reportLayout (shortest m e)
    String.ofList (if negative then '-' :: body else body)

end HeadLint.Binary64
