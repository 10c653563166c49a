/-!
Double-precision numbers as exact values, and their comparison and rounding in whole-number
arithmetic.
-/

namespace HeadLint

/-- A double-precision number.  A finite one is `mantissa · 2 ^ exponent`, with the sign in front;
the mantissa has at most 53 bits. -/
inductive Binary64 where
  | finite (negative : Bool) (mantissa : Nat) (exponent : Int)
  | infinite (negative : Bool)
  | nan
deriving DecidableEq, Inhabited

namespace Binary64

/-- A power of two. -/
def pow2 (n : Nat) : Nat :=
  Nat.pow 2 n

/-- A power of ten. -/
def pow10 (n : Nat) : Nat :=
  Nat.pow 10 n

/-- `num / den` as a whole number, a half going to the even neighbour. -/
def roundHalfEven (num den : Nat) : Nat :=
  let q := num / den
  let r := num % den
  if 2 * r < den then q
  else if den < 2 * r then q + 1
  else if q % 2 == 0 then q else q + 1

/-- The least exponent of a double-precision number. -/
def minExponent : Int := -1074

/-- The greatest exponent of a double-precision number with a full mantissa. -/
def maxExponent : Int := 971

/-- `num / (den · 2 ^ e)` as a fraction. -/
def scale (num den : Nat) (e : Int) : Nat × Nat :=
  if 0 ≤ e then (num, den * pow2 e.toNat) else (num * pow2 (-e).toNat, den)

/-- The exponent at which `num / den` has a mantissa of 53 bits, but not below the least one. -/
def exponentFor (num den : Nat) : Int :=
  let e : Int := (num.log2 : Int) - den.log2 - 52
  let (n, d) := scale num den e
  max minExponent (if n < d * pow2 52 then e - 1 else e)

/-- The double-precision number nearest to `num / den`, a tie going to the even mantissa. -/
def ofRatio (negative : Bool) (num den : Nat) : Binary64 :=
  if num == 0 || den == 0 then .finite negative 0 minExponent
  else
    let e := exponentFor num den
    let (n, d) := scale num den e
    let m := roundHalfEven n d
    let (m, e) := if m == pow2 53 then (pow2 52, e + 1) else (m, e)
    if maxExponent < e then .infinite negative else .finite negative m e

/-- The double-precision number nearest to `digits · 10 ^ exponent`.  Beyond four hundred powers of
ten the answer is known without forming the power. -/
def ofDecimal (negative : Bool) (digits : Nat) (exponent : Int) : Binary64 :=
  if digits == 0 then .finite negative 0 minExponent
  else if 400 < exponent then .infinite negative
  else if exponent < -400 - (digits.log2 : Int) then .finite negative 0 minExponent
  else if 0 ≤ exponent then ofRatio negative (digits * pow10 exponent.toNat) 1
  else ofRatio negative digits (pow10 (-exponent).toNat)

/-- The double-precision number nearest to a whole number. -/
def ofInt (n : Int) : Binary64 :=
  ofRatio (n < 0) n.natAbs 1

/-- The value of a finite number as a signed numerator over a power of two. -/
def signedRatio (negative : Bool) (mantissa : Nat) (exponent : Int) : Int × Nat :=
  let (n, d) :=
    if 0 ≤ exponent then (mantissa * pow2 exponent.toNat, 1)
    else (mantissa, pow2 (-exponent).toNat)
  (if negative then -(n : Int) else (n : Int), d)

/-- The whole number that a number is, if it has no fraction. -/
def whole? : Binary64 → Option Int
  | .finite negative m e =>
    let (n, d) := signedRatio negative m e
    if n.tmod d = 0 then some (n.tdiv d) else none
  | _ => none

/-- Numerical order; nothing is less or greater than `nan`. -/
def lt : Binary64 → Binary64 → Bool
  | .nan, _ => false
  | _, .nan => false
  | .infinite s, .infinite t => s && !t
  | .infinite s, .finite .. => s
  | .finite .., .infinite t => !t
  | .finite s m e, .finite t n f =>
    let (a, b) := signedRatio s m e
    let (c, d) := signedRatio t n f
    a * d < c * b

end Binary64

end HeadLint
