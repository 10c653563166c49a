import HeadLint.Text.Lower

/-!
Comparison of single letters without regard to case, as used when a fixed text is looked for in a
document: two characters agree when their small letters do, or when the small letters are variants
of one letter.
-/

namespace HeadLint.Text

/-- Small letters that share a capital: each row is one letter, its first entry stands for the
row. -/
def letterVariants : List (List Nat) := [
  [105, 305], [115, 383], [181, 956], [837, 953, 8126], [912, 8147], [944, 8163], [946, 976],
  [949, 1013], [952, 977], [954, 1008], [960, 982], [961, 1009], [962, 963], [966, 981],
  [1074, 7296], [1076, 7297], [1086, 7298], [1089, 7299], [1090, 7300, 7301], [1098, 7302],
  [1123, 7303], [7304, 42571], [7777, 7835], [64261, 64262]
]

/-- The code point that stands for a character when case is ignored. -/
def letterKey (c : Char) : Nat :=
  let n := (lowerFirst c).toNat
  match letterVariants.find? (·.contains n) with
  | some (key :: _) => key
  | _ => n

/-- Whether two characters are the same letter, case ignored. -/
def sameLetter (a b : Char) : Bool :=
  letterKey a == letterKey b

/-- The text after `word` when `s` starts with it, case ignored. -/
def dropWord : List Char → List Char → Option (List Char)
  | [], s => some s
  | _ :: _, [] => none
  | a :: word, c :: s => if sameLetter a c then dropWord word s else none

/-- A character is the same letter as itself. -/
theorem sameLetter_self (a : Char) : sameLetter a a = true := by
  simp [sameLetter]

end HeadLint.Text
