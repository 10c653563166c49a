import HeadLint.Markup.Token
import HeadLint.Proofs.Text.Case
import HeadLint.Proofs.Text.Runs

/-!
Reading piece by piece.  The lexer and the reader of attributes go on behind what they have read,
so the text in front of a rest can be taken one piece at a time.
-/

namespace HeadLint.Markup

open Text

/-! ## The lexer -/

theorem lexFrom_skip (run rest : List Char) (offset : Nat) (mode : Mode) :
    lexFrom run.length offset mode (run ++ rest) = lexFrom 0 (offset + run.length) mode rest := by
  induction run generalizing offset with
  | nil => rfl
  | cons c run ih =>
    rw [List.length_cons, List.cons_append, lexFrom, ih]
    congr 1
    omega

theorem lexFrom_of_lexStep {mode next : Mode} {offset length : Nat} {c : Char} {rest : List Char}
    {tokens : List Token} (h : lexStep mode offset (c :: rest) = .ok (tokens, length, next)) :
    lexFrom 0 offset mode (c :: rest) =
      (lexFrom (length - 1) (offset + 1) next rest).map (tokens ++ ·) := by
  rw [lexFrom, h]
  simp only [bind, Except.bind]
  cases lexFrom (length - 1) (offset + 1) next rest <;> rfl

theorem lexFrom_of_fault {mode : Mode} {offset : Nat} {c : Char} {rest : List Char} {fault : Fault}
    (h : lexStep mode offset (c :: rest) = .error fault) :
    lexFrom 0 offset mode (c :: rest) = .error fault := by
  rw [lexFrom, h]
  rfl

-- One step of the lexer takes a piece of the text, and the lexer goes on behind it.
theorem lexFrom_step {mode next : Mode} {offset : Nat} {piece : List Char} (rest : List Char)
    {tokens : List Token} (hne : piece ≠ [])
    (h : lexStep mode offset (piece ++ rest) = .ok (tokens, piece.length, next)) :
    lexFrom 0 offset mode (piece ++ rest) =
      (lexFrom 0 (offset + piece.length) next rest).map (tokens ++ ·) := by
  cases piece with
  | nil => exact absurd rfl hne
  | cons c piece =>
    have hoffset : offset + 1 + piece.length = offset + (c :: piece).length := by
      rw [List.length_cons]
      omega
    rw [List.cons_append] at h ⊢
    rw [lexFrom_of_lexStep h, List.length_cons, Nat.add_sub_cancel, lexFrom_skip, hoffset,
      List.length_cons]

theorem lexStep_found {final : Bool} {offset : Nat} {s : List Char} {tokens : List Token}
    {length : Nat} (h : readToken final offset s = .found tokens length) :
    lexStep (.markup final) offset s = .ok (tokens, length, modeAfter final tokens) := by
  cases final with
  | true => rw [lexStep, h, settle]
  | false => rw [lexStep, h]

-- What is found at one place are the next tokens.
theorem lexFrom_found {final : Bool} {offset : Nat} {piece : List Char} (rest : List Char)
    {tokens : List Token} (hne : piece ≠ [])
    (h : readToken final offset (piece ++ rest) = .found tokens piece.length) :
    lexFrom 0 offset (.markup final) (piece ++ rest) =
      (lexFrom 0 (offset + piece.length) (modeAfter final tokens) rest).map (tokens ++ ·) :=
  lexFrom_step rest hne (lexStep_found h)

-- A letter behind a less-than sign begins a start tag.
theorem readTag_letter {c : Char} (offset : Nat) (rest : List Char) (hc : isAsciiLetter c = true) :
    readTag offset ('<' :: c :: rest) =
      match readStartTag? (c :: rest) with
      | some (.error overflow, _) => .failed (.tooManyDigits overflow)
      | some (.ok tag, after) =>
        let length := consumed ('<' :: c :: rest) after
        if tag.ending == .broken then .found [.text (('<' :: c :: rest).take length)] length
        else .found [.startTag tag offset] length
      | none => .incomplete := by
  have hother : c ≠ '/' ∧ c ≠ '!' ∧ c ≠ '?' := by
    refine ⟨?_, ?_, ?_⟩ <;>
    · rintro rfl
      revert hc
      decide
  rw [readTag]
  · exact if_pos hc
  · exact hother.1
  · intro _ heq
    exact absurd heq hother.2.1
  · exact hother.2.2
  · exact hother.2.1

theorem readTag_overflow {offset : Nat} {c : Char} {rest after : List Char}
    {overflow : DigitOverflow} (hc : isAsciiLetter c = true)
    (h : readStartTag? (c :: rest) = some (.error overflow, after)) :
    readTag offset ('<' :: c :: rest) = .failed (.tooManyDigits overflow) := by
  rw [readTag_letter offset rest hc, h]

theorem readTag_startTag {offset : Nat} {c : Char} {rest after : List Char} {tag : StartTag}
    (hc : isAsciiLetter c = true) (h : readStartTag? (c :: rest) = some (.ok tag, after))
    (hending : tag.ending ≠ .broken) :
    readTag offset ('<' :: c :: rest) =
      .found [.startTag tag offset] (consumed ('<' :: c :: rest) after) := by
  rw [readTag_letter offset rest hc, h]
  simp [hending]

theorem readTag_endTag {offset : Nat} {body rest : List Char} {name : String}
    (hgt : '>' ∈ body) (h : readProperEnd? body = some (name, rest)) :
    readTag offset ('<' :: '/' :: body) =
      .found [.endTag name] (consumed ('<' :: '/' :: body) rest) := by
  have hcontains : body.contains '>' = true := List.contains_iff_mem.2 hgt
  unfold readTag readEndTag
  simp only [hcontains, h, Bool.not_true, Bool.false_eq_true, if_false]

theorem map_append_map_append (r : Except Fault (List Token)) (a b : List Token) :
    (r.map (b ++ ·)).map (a ++ ·) = r.map ((a ++ b) ++ ·) := by
  cases r with
  | error fault => rfl
  | ok tokens => simp [Except.map]

-- An end mark is found behind a run in which none begins.
theorem cutWhere?_run {close : List Char → Option (List Char)} {run rest after : List Char}
    (hrun : ∀ c ∈ run, ∀ s, close (c :: s) = none) (hne : rest ≠ []) (h : close rest = some after) :
    cutWhere? close (run ++ rest) = some (run, after) := by
  induction run with
  | nil =>
    cases rest with
    | nil => exact absurd rfl hne
    | cons c rest => rw [List.nil_append, cutWhere?, h]
  | cons c run ih =>
    rw [List.cons_append, cutWhere?, hrun c (List.mem_cons_self ..),
      ih fun d hd => hrun d (List.mem_cons_of_mem _ hd)]
    rfl

theorem consumed_append (s rest : List Char) : consumed (s ++ rest) rest = s.length := by
  rw [consumed, List.length_append]
  omega

/-! ## Attributes -/

theorem readAttributes_skip (run rest : List Char) (previous : Char) :
    readAttributes run.length previous (run ++ rest) =
      readAttributes 0 ((previous :: run).getLast (List.cons_ne_nil _ _)) rest := by
  induction run generalizing previous with
  | nil => rfl
  | cons c run ih =>
    rw [List.length_cons, List.cons_append, readAttributes, ih]
    rfl

-- One attribute is read, and the reader goes on behind it and the space that follows.
theorem readAttributes_step {previous c : Char} {piece rest : List Char}
    {found : List Char × Option (List Char)} (hprevious : canPrecedeName previous = true)
    (hc : canStartName c = true) (h : readAttribute (c :: (piece ++ rest)) = (found, rest)) :
    readAttributes 0 previous (c :: (piece ++ rest)) =
      (found :: (readAttributes 0 ((c :: piece).getLast (List.cons_ne_nil _ _)) rest).1,
        (readAttributes 0 ((c :: piece).getLast (List.cons_ne_nil _ _)) rest).2) := by
  have hlength : (piece ++ rest).length - rest.length = piece.length := by
    rw [List.length_append]
    omega
  rw [readAttributes, if_pos (by rw [hprevious, hc]; rfl), h]
  simp only [hlength, readAttributes_skip]

/-! ## Values -/

-- A text without ampersand stands for itself.
theorem unescape_eq_self {s : List Char} (h : '&' ∉ s) : unescape s = s := by
  rw [unescape]
  induction s with
  | nil => rfl
  | cons c s ih =>
    rw [List.mem_cons, not_or] at h
    rw [unescapeFrom, if_neg (by simpa using Ne.symm h.1), ih h.2]

theorem firstOverflow?_eq_none {s : List Char} (h : '&' ∉ s) : firstOverflow? s = none := by
  induction s with
  | nil => rfl
  | cons c s ih =>
    rw [List.mem_cons, not_or] at h
    have hc : (c == '&') = false := by simpa using Ne.symm h.1
    have hnone : DigitOverflow.of? 0 = none := by decide
    simp only [firstOverflow?, hc, Bool.false_and, Bool.false_eq_true, if_false, List.length_nil,
      hnone]
    exact ih h.2

end HeadLint.Markup
