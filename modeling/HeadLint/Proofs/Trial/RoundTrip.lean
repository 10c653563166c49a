import HeadLint.Proofs.Trial.Encoding
import HeadLint.Trial.Token
import Mathlib.Algebra.Group.Nat.Defs

/-!
A token that was laid out and written in base64 decodes to what was put into it, whatever white
space was added, whatever padding was dropped and whatever bytes follow the payload.
-/

namespace HeadLint.Trial

open Text

/-- `Spaced s t`: the text `t` is `s` with white space added anywhere. -/
inductive Spaced : List Char → List Char → Prop where
  | nil : Spaced [] []
  | keep (c : Char) {s t : List Char} : Spaced s t → Spaced (c :: s) (c :: t)
  | blank (c : Char) {s t : List Char} : isBlank c = true → Spaced s t → Spaced s (c :: t)

theorem Spaced.refl (s : List Char) : Spaced s s := by
  induction s with
  | nil => exact .nil
  | cons c s ih => exact .keep c ih

-- Dropping white space undoes adding it, when there was none before.
theorem Spaced.filter_eq {s t : List Char} (h : Spaced s t)
    (hs : ∀ c ∈ s, isBlank c = false) : t.filter (fun c => !isBlank c) = s := by
  induction h with
  | nil => rfl
  | keep c _ ih =>
    have hc := hs c List.mem_cons_self
    rw [List.filter_cons_of_pos (by simp [hc]), ih fun d hd => hs d (List.mem_cons_of_mem c hd)]
  | blank c hc _ ih =>
    rw [List.filter_cons_of_neg (by simp [hc]), ih hs]

-- The bytes of a text in base64 are read back from its form without padding, or with part of it,
-- and with white space added.
theorem readBytes_of_spaced {bytes : List UInt8} {stem text : List Char} {pads : Nat}
    (hstem : stem ++ List.replicate pads '=' = Base64.encode bytes) (htext : Spaced stem text) :
    readBytes text = .ok bytes := by
  have hblank : ∀ c ∈ stem, isBlank c = false := by
    intro c hc
    apply Base64.encode_not_blank bytes c
    rw [← hstem]
    exact List.mem_append_left _ hc
  rw [readBytes, htext.filter_eq hblank, Base64.fillUp_of_dropped hstem, Base64.decode_encode]

theorem readBytes_encode (bytes : List UInt8) : readBytes (Base64.encode bytes) = .ok bytes := by
  have hstem : Base64.encode bytes ++ List.replicate 0 '=' = Base64.encode bytes :=
    List.append_nil _
  exact readBytes_of_spaced hstem (Spaced.refl _)

/-! ## The header -/

theorem bigEndian_lengthBytes {n : Nat} (hn : n < 2 ^ 32) : bigEndian (lengthBytes n) = n := by
  simp only [bigEndian, lengthBytes, ofDigits, List.map_cons, List.map_nil, List.foldl_cons,
    List.foldl_nil, UInt8.toNat_ofNat']
  omega

-- The parts of a token are found where they were laid out; trailing bytes are cut off.
theorem cutPayload_layOut (version : UInt8) (signature payload trailing : List UInt8)
    (hsignature : signature.length = signatureLength) (hpayload : payload.length < 2 ^ 32) :
    cutPayload (layOut version signature payload trailing) =
      .ok (version.toNat, signature, payload) := by
  have hbytes : (lengthBytes payload.length).length = 4 := rfl
  have hafterVersion : (layOut version signature payload trailing).drop 1 =
      signature ++ (lengthBytes payload.length ++ (payload ++ trailing)) := by
    simp [layOut]
  have hafterSignature : (layOut version signature payload trailing).drop (1 + signatureLength) =
      lengthBytes payload.length ++ (payload ++ trailing) := by
    rw [← List.drop_drop, hafterVersion, List.drop_left' hsignature]
  have hafterHeader : (layOut version signature payload trailing).drop headerLength =
      payload ++ trailing := by
    rw [headerLength, ← List.drop_drop, hafterSignature, List.drop_left' hbytes]
  have hsize : ¬ (layOut version signature payload trailing).length < headerLength := by
    simp only [layOut, headerLength, List.length_append, List.length_cons, hsignature, hbytes]
    omega
  have hroom : ¬ (payload ++ trailing).length < payload.length := by
    simp
  have hversion : (layOut version signature payload trailing).headD 0 = version := rfl
  rw [cutPayload, if_neg hsize]
  simp only [hafterVersion, hafterSignature, hafterHeader, hversion, List.take_left' hsignature,
    List.take_left' hbytes, bigEndian_lengthBytes hpayload, hroom, if_false, List.take_left]

/-! ## The payload -/

theorem wholeInstant?_of_range {seconds : Int} (hlow : Instant.firstSecond ≤ seconds)
    (hhigh : seconds ≤ Instant.lastSecond) :
    wholeInstant? seconds = some ⟨seconds * 1000000⟩ := by
  have hdiv : (seconds * Instant.second).fdiv Instant.second = seconds :=
    Int.mul_fdiv_cancel _ (by decide)
  have hrange : Instant.inRange ⟨seconds * Instant.second⟩ = true := by
    simp only [Instant.inRange, hdiv, hlow, hhigh, decide_true, Bool.and_true]
  simp only [wholeInstant?, hrange, if_true]
  rfl

theorem flag_eq_true_iff (name : String) (members : Entries Json) :
    flag name members = true ↔ Entries.get? name members = some (.bool true) := by
  unfold flag
  split
  · rename_i b h
    rw [h]
    cases b <;> simp
  · rename_i h
    constructor
    · intro hfalse
      cases hfalse
    · intro htrue
      exact absurd htrue (h true)

-- A payload with an origin and a whole expiry in range makes a token.
theorem ofPayload_of_members (version : Nat) (signature : List UInt8) {members : Entries Json}
    {origin : String} {seconds : Int}
    (horigin : Entries.get? "origin" members = some (.str origin))
    (hexpiry : Entries.get? "expiry" members = some (.int seconds))
    (hlow : Instant.firstSecond ≤ seconds) (hhigh : seconds ≤ Instant.lastSecond) :
    ofPayload version signature (.obj members) =
      .ok { version, signature, origin
            expiry := ⟨seconds * 1000000⟩
            feature := ((Entries.get? "feature" members).bind Json.str?).getD ""
            isSubdomain := flag "isSubdomain" members
            isThirdParty := flag "isThirdParty" members
            usage := (Entries.get? "usage" members).bind Json.str? } := by
  simp only [ofPayload, horigin, hexpiry, Option.bind_some, Json.str?, readExpiry,
    wholeInstant?_of_range hlow hhigh, Option.elim_some]

theorem readPayload_encode {content : List Char} {value : Json}
    (hjson : Json.read content = .ok value) :
    readPayload (content.flatMap String.utf8EncodeChar) = .ok value := by
  rw [readPayload, decodeUtf8_encode]
  simp only [hjson]

/-! ## The round trip -/

/-- The bytes of a text in UTF-8. -/
def utf8Bytes (content : List Char) : List UInt8 :=
  content.flatMap String.utf8EncodeChar

theorem decode_of_bytes {text : List Char} {version : UInt8} {signature trailing : List UInt8}
    {content : List Char} {value : Json} {token : Token}
    (hbytes : readBytes text =
      .ok (layOut version signature (utf8Bytes content) trailing))
    (hsignature : signature.length = signatureLength)
    (hpayload : (utf8Bytes content).length < 2 ^ 32)
    (hjson : Json.read content = .ok value)
    (htoken : ofPayload version.toNat signature value = .ok token) :
    decode text = .ok token := by
  have hcut := cutPayload_layOut version signature (utf8Bytes content) trailing hsignature hpayload
  have hread : readPayload (utf8Bytes content) = .ok value := readPayload_encode hjson
  simp only [decode, hbytes, hcut, hread, htoken]

/-- Let a payload be a JSON object with an origin and with a whole expiry that has a date.  There
is one token, with the parts that were laid out and the members of that object, such that every
text decodes to it that is the base64 form of the layout without some of its padding and with any
white space added.  The bytes after the payload have no influence. -/
theorem decode_layOut_of_spaced (version : UInt8) (signature : List UInt8) (content : List Char)
    (members : Entries Json) (origin : String) (seconds : Int)
    (hsignature : signature.length = 64)
    (hpayload : (utf8Bytes content).length < 2 ^ 32)
    (hjson : Json.read content = .ok (.obj members))
    (horigin : Entries.get? "origin" members = some (.str origin))
    (hexpiry : Entries.get? "expiry" members = some (.int seconds))
    (hlow : -62135596800 ≤ seconds) (hhigh : seconds ≤ 253402300799) :
    ∃ token : Token,
      token.version = version.toNat ∧
      token.signature = signature ∧
      token.origin = origin ∧
      token.expiry = ⟨seconds * 1000000⟩ ∧
      token.feature = (match Entries.get? "feature" members with
        | some (.str feature) => feature
        | _ => "") ∧
      token.usage = (match Entries.get? "usage" members with
        | some (.str usage) => some usage
        | _ => none) ∧
      (token.isSubdomain = true ↔
        Entries.get? "isSubdomain" members = some (.bool true)) ∧
      (token.isThirdParty = true ↔
        Entries.get? "isThirdParty" members = some (.bool true)) ∧
      ∀ (trailing : List UInt8) (stem text : List Char) (pads : Nat),
        stem ++ List.replicate pads '=' =
          Base64.encode (layOut version signature (utf8Bytes content) trailing) →
        Spaced stem text → decode text = .ok token := by
  -- The token depends on the members alone; each text is decoded to the same payload.
  have htoken := ofPayload_of_members version.toNat signature horigin hexpiry hlow hhigh
  refine ⟨⟨version.toNat, signature, origin,
      ((Entries.get? "feature" members).bind Json.str?).getD "", ⟨seconds * 1000000⟩,
      flag "isSubdomain" members, flag "isThirdParty" members,
      (Entries.get? "usage" members).bind Json.str?⟩,
    rfl, rfl, rfl, rfl, ?_, ?_, flag_eq_true_iff _ _, flag_eq_true_iff _ _, ?_⟩
  · cases Entries.get? "feature" members with
    | none => rfl
    | some value => cases value <;> rfl
  · cases Entries.get? "usage" members with
    | none => rfl
    | some value => cases value <;> rfl
  · intro trailing stem text pads hstem htext
    exact decode_of_bytes (readBytes_of_spaced hstem htext) hsignature hpayload hjson htoken

/-- A payload that the round trip applies to: members in any order, a flag, a feature that is not
text, and a character outside ASCII. -/
def sampleContent : List Char :=
  "\x7b\"expiry\":253402300799,\"isSubdomain\":true,\"feature\":1,".toList ++
    "\"origin\":\"https://é.org\"\x7d".toList

/-- The token of `sampleContent` is read from its base64 form with the padding dropped, a line
feed in front, and bytes after the payload. -/
theorem decode_layOut_sample :
    ∃ token : Token,
      token.version = 3 ∧ token.origin = "https://é.org" ∧
      token.expiry = ⟨253402300799000000⟩ ∧ token.feature = "" ∧ token.isSubdomain = true ∧
      decode ('\n' :: (Base64.encode
        (layOut 3 (List.replicate 64 7) (utf8Bytes sampleContent) [1, 2])).dropLast) =
          .ok token := by
  have hjson : Json.read sampleContent = .ok (.obj [("expiry", .int 253402300799),
      ("isSubdomain", .bool true), ("feature", .int 1), ("origin", .str "https://é.org")]) := by
    rfl
  obtain ⟨token, hversion, -, horigin, hexpiry, hfeature, -, hsubdomain, -, hdecode⟩ :=
    decode_layOut_of_spaced 3 (List.replicate 64 7) sampleContent _ "https://é.org" 253402300799
      (by decide) (by decide +kernel) hjson rfl rfl (by decide) (by decide)
  refine ⟨token, hversion, horigin, hexpiry, hfeature, hsubdomain.2 rfl, ?_⟩
  apply hdecode [1, 2] (Base64.encode
    (layOut 3 (List.replicate 64 7) (utf8Bytes sampleContent) [1, 2])).dropLast _ 1
  · decide +kernel
  · exact .blank '\n' (by decide) (Spaced.refl _)

end HeadLint.Trial
