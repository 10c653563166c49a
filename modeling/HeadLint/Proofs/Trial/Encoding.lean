import HeadLint.Text.Base64
import HeadLint.Text.Blank
import HeadLint.Text.Utf8
import Mathlib.Data.List.Basic

/-!
The two encodings that a token goes through read back what they write.  Strict base64 decoding
undoes `Base64.encode`, also when padding was dropped and is filled up again, and strict UTF-8
decoding undoes the encoding of characters.
-/

namespace HeadLint

namespace Base64

/-! ## The alphabet -/

-- A letter stands for the six bits that it was chosen for.
theorem sextet?_letter {n : Nat} (hn : n < 64) : sextet? (letter n) = some n := by
  have hall : ∀ m < 64, sextet? (letter m) = some m := by decide
  exact hall n hn

theorem letter_ne_pad {n : Nat} (hn : n < 64) : letter n ≠ '=' := by
  have hall : ∀ m < 64, letter m ≠ '=' := by decide
  exact hall n hn

theorem letter_toNat_lt {n : Nat} (hn : n < 64) : (letter n).toNat < 128 := by
  have hall : ∀ m < 64, (letter m).toNat < 128 := by decide
  exact hall n hn

theorem letter_not_blank {n : Nat} (hn : n < 64) : Text.isBlank (letter n) = false := by
  have hall : ∀ m < 64, Text.isBlank (letter m) = false := by decide
  exact hall n hn

-- What `encode` writes: letters of the alphabet and padding.
theorem encode_chars (bytes : List UInt8) :
    ∀ c ∈ encode bytes, c = '=' ∨ ∃ n < 64, c = letter n := by
  fun_induction encode bytes with
  | case1 => simp
  | case2 a =>
    have ha := a.toNat_lt
    intro c hc
    simp only [List.mem_cons, List.not_mem_nil, or_false] at hc
    rcases hc with rfl | rfl | rfl | rfl
    · exact .inr ⟨_, by omega, rfl⟩
    · exact .inr ⟨_, by omega, rfl⟩
    · exact .inl rfl
    · exact .inl rfl
  | case3 a b =>
    have ha := a.toNat_lt
    have hb := b.toNat_lt
    intro c hc
    simp only [List.mem_cons, List.not_mem_nil, or_false] at hc
    rcases hc with rfl | rfl | rfl | rfl
    · exact .inr ⟨_, by omega, rfl⟩
    · exact .inr ⟨_, by omega, rfl⟩
    · exact .inr ⟨_, by omega, rfl⟩
    · exact .inl rfl
  | case4 a b d rest ih =>
    have ha := a.toNat_lt
    have hb := b.toNat_lt
    have hd := d.toNat_lt
    intro c hc
    simp only [List.mem_cons] at hc
    rcases hc with rfl | rfl | rfl | rfl | hc
    · exact .inr ⟨_, by omega, rfl⟩
    · exact .inr ⟨_, by omega, rfl⟩
    · exact .inr ⟨_, by omega, rfl⟩
    · exact .inr ⟨_, by omega, rfl⟩
    · exact ih c hc

theorem encode_not_blank (bytes : List UInt8) :
    ∀ c ∈ encode bytes, Text.isBlank c = false := by
  intro c hc
  rcases encode_chars bytes c hc with rfl | ⟨n, hn, rfl⟩
  · decide
  · exact letter_not_blank hn

theorem encode_toNat_lt (bytes : List UInt8) : ∀ c ∈ encode bytes, c.toNat < 128 := by
  intro c hc
  rcases encode_chars bytes c hc with rfl | ⟨n, hn, rfl⟩
  · decide
  · exact letter_toNat_lt hn

/-! ## Padding -/

theorem length_encode_mod (bytes : List UInt8) : (encode bytes).length % 4 = 0 := by
  fun_induction encode bytes with
  | case1 => rfl
  | case2 => simp
  | case3 => simp
  | case4 a b c rest ih =>
    simp only [List.length_cons]
    omega

-- The standard form ends with at most two padding signs and has no others.
theorem count_pad_encode (bytes : List UInt8) : (encode bytes).count '=' ≤ 2 := by
  fun_induction encode bytes with
  | case1 => simp
  | case2 a =>
    have ha := a.toNat_lt
    have h1 := letter_ne_pad (show a.toNat / 4 < 64 by omega)
    have h2 := letter_ne_pad (show a.toNat % 4 * 16 < 64 by omega)
    simp [h1, h2]
  | case3 a b =>
    have ha := a.toNat_lt
    have hb := b.toNat_lt
    have h1 := letter_ne_pad (show a.toNat / 4 < 64 by omega)
    have h2 := letter_ne_pad (show a.toNat % 4 * 16 + b.toNat / 16 < 64 by omega)
    have h3 := letter_ne_pad (show b.toNat % 16 * 4 < 64 by omega)
    simp [h1, h2, h3]
  | case4 a b c rest ih =>
    have ha := a.toNat_lt
    have hb := b.toNat_lt
    have hc := c.toNat_lt
    have h1 := letter_ne_pad (show a.toNat / 4 < 64 by omega)
    have h2 := letter_ne_pad (show a.toNat % 4 * 16 + b.toNat / 16 < 64 by omega)
    have h3 := letter_ne_pad (show b.toNat % 16 * 4 + c.toNat / 64 < 64 by omega)
    have h4 := letter_ne_pad (show c.toNat % 64 < 64 by omega)
    rw [List.count_cons_of_ne h1, List.count_cons_of_ne h2, List.count_cons_of_ne h3,
      List.count_cons_of_ne h4]
    exact ih

-- However much of the padding was dropped, filling up restores the standard form.
theorem fillUp_of_dropped {bytes : List UInt8} {stem : List Char} {pads : Nat}
    (h : stem ++ List.replicate pads '=' = encode bytes) : fillUp stem = encode bytes := by
  have hcount := count_pad_encode bytes
  rw [← h, List.count_append, List.count_replicate_self] at hcount
  have hlength := length_encode_mod bytes
  rw [← h, List.length_append, List.length_replicate] at hlength
  have hpads : (4 - stem.length % 4) % 4 = pads := by omega
  rw [fillUp, hpads, h]

/-! ## Reading back -/

-- One letter adds the byte that it completes, if any.
theorem decodeFrom_letter {n : Nat} (hn : n < 64) (p : Progress) (hpads : p.pads = 0)
    (rest : List Char) :
    decodeFrom p (letter n :: rest) =
      (decodeFrom (p.take n).2 rest).map ((p.take n).1.toList ++ ·) := by
  rw [decodeFrom, if_neg (letter_ne_pad hn), sextet?_letter hn]
  simp only [hpads, Nat.lt_irrefl, if_false]
  cases htake : p.take n with
  | mk byte q =>
    cases byte with
    | some byte => rfl
    | none =>
      show decodeFrom q rest = (decodeFrom q rest).map ([] ++ ·)
      cases decodeFrom q rest <;> rfl

-- At the start of a group, the decoder reads back what was encoded.
theorem decodeFrom_encode (bytes : List UInt8) (seen : Nat) :
    decodeFrom { seen } (encode bytes) = .ok bytes := by
  -- By groups of three bytes; the letters of a group hold its bits in order.
  fun_induction encode bytes generalizing seen with
  | case1 => rfl
  | case2 a =>
    have ha := a.toNat_lt
    rw [decodeFrom_letter (by omega) _ rfl, decodeFrom_letter (by omega) _ rfl]
    have hbyte : a.toNat / 4 * 4 + a.toNat % 4 * 16 / 16 = a.toNat := by omega
    simp only [Progress.take, hbyte, UInt8.ofNat_toNat]
    rfl
  | case3 a b =>
    have ha := a.toNat_lt
    have hb := b.toNat_lt
    rw [decodeFrom_letter (by omega) _ rfl, decodeFrom_letter (by omega) _ rfl,
      decodeFrom_letter (by omega) _ rfl]
    have hfirst : a.toNat / 4 * 4 + (a.toNat % 4 * 16 + b.toNat / 16) / 16 = a.toNat := by omega
    have hsecond : (a.toNat % 4 * 16 + b.toNat / 16) % 16 * 16 + b.toNat % 16 * 4 / 4 =
        b.toNat := by omega
    simp only [Progress.take, hfirst, hsecond, UInt8.ofNat_toNat]
    rfl
  | case4 a b c rest ih =>
    have ha := a.toNat_lt
    have hb := b.toNat_lt
    have hc := c.toNat_lt
    rw [decodeFrom_letter (by omega) _ rfl, decodeFrom_letter (by omega) _ rfl,
      decodeFrom_letter (by omega) _ rfl, decodeFrom_letter (by omega) _ rfl]
    have hfirst : a.toNat / 4 * 4 + (a.toNat % 4 * 16 + b.toNat / 16) / 16 = a.toNat := by omega
    have hsecond : (a.toNat % 4 * 16 + b.toNat / 16) % 16 * 16 +
        (b.toNat % 16 * 4 + c.toNat / 64) / 4 = b.toNat := by omega
    have hthird : (b.toNat % 16 * 4 + c.toNat / 64) % 4 * 64 + c.toNat % 64 = c.toNat := by omega
    simp only [Progress.take, hfirst, hsecond, hthird, UInt8.ofNat_toNat]
    rw [ih (seen + 1 + 1 + 1 + 1)]
    rfl

theorem head?_encode (bytes : List UInt8) : (encode bytes).head? ≠ some '=' := by
  fun_cases encode bytes with
  | case1 => simp
  | case2 a =>
    have ha := a.toNat_lt
    simpa using letter_ne_pad (show a.toNat / 4 < 64 by omega)
  | case3 a b =>
    have ha := a.toNat_lt
    simpa using letter_ne_pad (show a.toNat / 4 < 64 by omega)
  | case4 a b c rest =>
    have ha := a.toNat_lt
    simpa using letter_ne_pad (show a.toNat / 4 < 64 by omega)

/-- Strict decoding undoes the standard form. -/
theorem decode_encode (bytes : List UInt8) : decode (encode bytes) = .ok bytes := by
  have hascii : ((encode bytes).any fun c => decide (0x80 ≤ c.toNat)) = false := by
    rw [List.any_eq_false]
    intro c hc
    have hlt := encode_toNat_lt bytes c hc
    simp only [decide_eq_true_eq]
    omega
  rw [decode, hascii, if_neg Bool.false_ne_true, if_neg (head?_encode bytes)]
  exact decodeFrom_encode bytes 0

end Base64

namespace Text

/-! ## UTF-8 -/

theorem toNat_byte {n : Nat} (hn : n < 256) : (UInt8.ofNat n).toNat = n := by
  rw [UInt8.toNat_ofNat']
  exact Nat.mod_eq_of_lt hn

-- No code point of a character is a surrogate or lies beyond the last one.
theorem toNat_scalar (c : Char) : c.toNat < 0xD800 ∨ 0xDFFF < c.toNat ∧ c.toNat < 0x110000 :=
  c.valid

-- A continuation byte that is not the last of its sequence adds six bits.
theorem decodeUtf8From_continue (offset : Nat) (q : Utf8Sequence) (b : UInt8) (rest : List UInt8)
    (hlow : q.low ≤ b.toNat) (hhigh : b.toNat ≤ q.high) (hmissing : 1 < q.missing) :
    decodeUtf8From offset (some q) (b :: rest) =
      decodeUtf8From (offset + 1)
        (some ⟨q.first, q.start, q.seen + 1, q.bits * 64 + (b.toNat - 0x80), q.missing - 1,
          0x80, 0xBF⟩) rest := by
  rw [decodeUtf8From, if_pos ⟨hlow, hhigh⟩]
  simp only [Nat.not_le.mpr hmissing, if_false]

-- The last byte of a sequence completes a character.
theorem decodeUtf8From_complete (offset : Nat) (q : Utf8Sequence) (b : UInt8) (rest : List UInt8)
    (hlow : q.low ≤ b.toNat) (hhigh : b.toNat ≤ q.high) (hmissing : q.missing ≤ 1) :
    decodeUtf8From offset (some q) (b :: rest) =
      (decodeUtf8From (offset + 1) none rest).map
        (Char.ofNat (q.bits * 64 + (b.toNat - 0x80)) :: ·) := by
  rw [decodeUtf8From, if_pos ⟨hlow, hhigh⟩]
  simp only [hmissing, if_true]

-- A byte beyond ASCII that can start a sequence does so.
theorem decodeUtf8From_start (offset : Nat) (b : UInt8) (rest : List UInt8) (q : Utf8Sequence)
    (hb : 0x80 ≤ b.toNat) (hq : Utf8Sequence.start? b offset = some q) :
    decodeUtf8From offset none (b :: rest) = decodeUtf8From (offset + 1) (some q) rest := by
  rw [decodeUtf8From, if_neg (by omega), hq]

-- The first byte of a sequence of three.  The bounds of the second byte exclude no scalar value:
-- an overlong form would need a smaller one, a surrogate a greater one.
theorem start?_three {k : Nat} (hk : k < 16) (offset : Nat) :
    ∃ low high, Utf8Sequence.start? (UInt8.ofNat (k + 0xe0)) offset =
        some ⟨UInt8.ofNat (k + 0xe0), offset, 1, k, 2, low, high⟩ ∧
      (low ≤ 0x80 ∨ k = 0 ∧ low = 0xA0) ∧ (0xBF ≤ high ∨ k = 13 ∧ high = 0x9F) := by
  have hbyte := toNat_byte (n := k + 0xe0) (by omega)
  simp only [Utf8Sequence.start?, hbyte, beq_iff_eq]
  rw [if_neg (by omega), if_neg (by omega)]
  by_cases h0 : k = 0
  · subst h0
    exact ⟨_, _, rfl, by omega, by omega⟩
  by_cases h13 : k = 13
  · subst h13
    exact ⟨_, _, rfl, by omega, by omega⟩
  · rw [if_neg (by omega), if_neg (by omega), if_pos (by omega), Nat.add_sub_cancel]
    exact ⟨_, _, rfl, by omega, by omega⟩

-- The first byte of a sequence of four, with the bounds of its second byte.
theorem start?_four {k : Nat} (hk : k ≤ 4) (offset : Nat) :
    ∃ low high, Utf8Sequence.start? (UInt8.ofNat (k + 0xf0)) offset =
        some ⟨UInt8.ofNat (k + 0xf0), offset, 1, k, 3, low, high⟩ ∧
      (low ≤ 0x80 ∨ k = 0 ∧ low = 0x90) ∧ (0xBF ≤ high ∨ k = 4 ∧ high = 0x8F) := by
  have hbyte := toNat_byte (n := k + 0xf0) (by omega)
  simp only [Utf8Sequence.start?, hbyte, beq_iff_eq]
  rw [if_neg (by omega), if_neg (by omega), if_neg (by omega), if_neg (by omega),
    if_neg (by omega)]
  by_cases h0 : k = 0
  · subst h0
    exact ⟨_, _, rfl, by omega, by omega⟩
  by_cases h4 : k = 4
  · subst h4
    exact ⟨_, _, rfl, by omega, by omega⟩
  · rw [if_neg (by omega), if_pos (by omega), Nat.add_sub_cancel]
    exact ⟨_, _, rfl, by omega, by omega⟩

-- The decoder reads back one encoded character.
theorem decodeUtf8From_encodeChar (c : Char) (rest : List UInt8) (offset : Nat) :
    ∃ offset', decodeUtf8From offset none (String.utf8EncodeChar c ++ rest) =
      (decodeUtf8From offset' none rest).map (c :: ·) := by
  have hscalar := toNat_scalar c
  have hback : Char.ofNat c.toNat = c := Char.ofNat_toNat c
  have hval : c.val.toNat = c.toNat := rfl
  unfold String.utf8EncodeChar
  simp only [hval]
  generalize c.toNat = n at *
  have hlast := toNat_byte (n := n % 0x40 + 0x80) (by omega)
  have hthird := toNat_byte (n := n / 64 % 0x40 + 0x80) (by omega)
  have hsecond := toNat_byte (n := n / 4096 % 0x40 + 0x80) (by omega)
  -- One case for each length, with the limits that its first byte sets for the next one.
  by_cases h1 : n ≤ 0x7f
  · refine ⟨offset + 1, ?_⟩
    have hbyte := toNat_byte (n := n) (by omega)
    simp only [h1, if_true, List.cons_append, List.nil_append]
    rw [decodeUtf8From, if_pos (by omega), hbyte, hback]
  by_cases h2 : n ≤ 0x7ff
  · refine ⟨offset + 1 + 1, ?_⟩
    have hfirst := toNat_byte (n := n / 64 % 0x20 + 0xc0) (by omega)
    have hstart : Utf8Sequence.start? (UInt8.ofNat (n / 64 % 0x20 + 0xc0)) offset =
        some ⟨UInt8.ofNat (n / 64 % 0x20 + 0xc0), offset, 1, n / 64 % 0x20, 1, 0x80, 0xBF⟩ := by
      simp only [Utf8Sequence.start?, hfirst]
      rw [if_neg (by omega), if_pos (by omega), Nat.add_sub_cancel]
    simp only [h1, h2, if_false, if_true, List.cons_append, List.nil_append]
    rw [decodeUtf8From_start _ _ _ _ (by omega) hstart,
      decodeUtf8From_complete _ _ _ _ (by simp only [hlast]; omega) (by simp only [hlast]; omega)
        (by simp)]
    have hbits : n / 64 % 0x20 * 64 + (n % 0x40 + 0x80 - 0x80) = n := by omega
    simp only [hlast, hbits, hback]
  by_cases h3 : n ≤ 0xffff
  · refine ⟨offset + 1 + 1 + 1, ?_⟩
    have hfirst := toNat_byte (n := n / 4096 % 0x10 + 0xe0) (by omega)
    obtain ⟨low, high, hstart, hlow, hhigh⟩ :=
      start?_three (show n / 4096 % 0x10 < 16 by omega) offset
    simp only [h1, h2, h3, if_false, if_true, List.cons_append, List.nil_append]
    rw [decodeUtf8From_start _ _ _ _ (by omega) hstart,
      decodeUtf8From_continue _ _ _ _ (by simp only [hthird]; omega)
        (by simp only [hthird]; omega) (by simp),
      decodeUtf8From_complete _ _ _ _ (by simp only [hlast]; omega) (by simp only [hlast]; omega)
        (by simp)]
    have hbits : (n / 4096 % 0x10 * 64 + (n / 64 % 0x40 + 0x80 - 0x80)) * 64 +
        (n % 0x40 + 0x80 - 0x80) = n := by omega
    simp only [hthird, hlast, hbits, hback]
  · refine ⟨offset + 1 + 1 + 1 + 1, ?_⟩
    have hfirst := toNat_byte (n := n / 262144 % 0x08 + 0xf0) (by omega)
    obtain ⟨low, high, hstart, hlow, hhigh⟩ :=
      start?_four (show n / 262144 % 0x08 ≤ 4 by omega) offset
    simp only [h1, h2, h3, if_false, List.cons_append, List.nil_append]
    rw [decodeUtf8From_start _ _ _ _ (by omega) hstart,
      decodeUtf8From_continue _ _ _ _ (by simp only [hsecond]; omega)
        (by simp only [hsecond]; omega) (by simp),
      decodeUtf8From_continue _ _ _ _ (by simp only [hthird]; omega)
        (by simp only [hthird]; omega) (by simp),
      decodeUtf8From_complete _ _ _ _ (by simp only [hlast]; omega) (by simp only [hlast]; omega)
        (by simp)]
    have hbits : ((n / 262144 % 0x08 * 64 + (n / 4096 % 0x40 + 0x80 - 0x80)) * 64 +
        (n / 64 % 0x40 + 0x80 - 0x80)) * 64 + (n % 0x40 + 0x80 - 0x80) = n := by omega
    simp only [hsecond, hthird, hlast, hbits, hback]

/-- Decoding undoes the encoding of a text. -/
theorem decodeUtf8_encode (s : List Char) :
    decodeUtf8 (s.flatMap String.utf8EncodeChar) = .ok s := by
  have hall : ∀ (s : List Char) (offset : Nat),
      decodeUtf8From offset none (s.flatMap String.utf8EncodeChar) = .ok s := by
    intro s
    induction s with
    | nil => intro offset; rfl
    | cons c s ih =>
      intro offset
      obtain ⟨offset', hstep⟩ :=
        decodeUtf8From_encodeChar c (s.flatMap String.utf8EncodeChar) offset
      rw [List.flatMap_cons, hstep, ih offset']
      rfl
  exact hall s 0

end Text

end HeadLint
