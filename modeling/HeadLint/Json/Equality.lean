import HeadLint.Json.Value

/-!
Equality of JSON values by meaning: numbers and truth values are equal when their numbers are, and
the members of objects have no order.  Mappings with values for keys rest on it.
-/

namespace HeadLint.Json

/-- The number that a value is, as a numerator over a positive denominator; a truth value is zero or
one. -/
def ratio? : Json → Option (Int × Nat)
  | .bool b => some (b.toInt, 1)
  | .int n => some (n, 1)
  | .float (.finite negative m e) => some (Binary64.signedRatio negative m e)
  | _ => none

/-- Whether two values are the same number. -/
def sameNumber (a b : Json) : Bool :=
  match a, b with
  | .float (.infinite s), .float (.infinite t) => s == t
  | _, _ =>
    match a.ratio?, b.ratio? with
    | some (n, d), some (k, l) => n * l == k * d
    | _, _ => false

mutual

/-- Whether two values are equal. -/
def same : Json → Json → Bool
  | .null, .null => true
  | .str s, .str t => s == t
  | .arr xs, .arr ys => sameItems xs ys
  | .obj xs, .obj ys => xs.length == ys.length && sameMembers xs ys
  | a, b => sameNumber a b

/-- Whether two lists have equal items. -/
def sameItems : List Json → List Json → Bool
  | [], [] => true
  | x :: xs, y :: ys => same x y && sameItems xs ys
  | _, _ => false

/-- Whether every member of the first list has an equal one in the second. -/
def sameMembers : List (String × Json) → List (String × Json) → Bool
  | [], _ => true
  | (name, x) :: rest, ys =>
    (match Entries.get? name ys with
    | some y => same x y
    | none => false) && sameMembers rest ys

end

/-- Whether a value can be a key; lists and objects cannot. -/
def canBeKey : Json → Bool
  | .arr _ | .obj _ => false
  | _ => true

/-- Sets the value of a key: in its place if an equal key is there, at the end otherwise. -/
def putKey {α : Type} (key : Json) (value : α) : List (Json × α) → List (Json × α)
  | [] => [(key, value)]
  | (k, v) :: rest => if same k key then (k, value) :: rest else (k, v) :: putKey key value rest

/-- Puts one pair after the other into an empty mapping. -/
def ofPairs {α : Type} (pairs : List (Json × α)) : List (Json × α) :=
  pairs.foldl (fun entries pair => putKey pair.1 pair.2 entries) []

end HeadLint.Json
