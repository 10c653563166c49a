import HeadLint.Lint.Rule
import HeadLint.Proofs.Entries
import HeadLint.Proofs.Text.Runs

/-!
Templates that are filled in.  A template made of texts, with their braces written twice, and of
named fields is read back as these parts.  So its message has each value in the place of its field,
as it is, or is the template itself when a value is missing.
-/

namespace HeadLint

namespace Template

open Text

/-! ## Parts of a template -/

/-- The characters of identifiers: the letters, the digits and the underscore of ASCII, and all
characters beyond it. -/
def isNameChar (c : Char) : Bool :=
  isAsciiLetter c || isAsciiDigit c || c == '_' || decide (128 ≤ c.toNat)

/-- A name of a field, which does not start with a digit of any script. -/
structure Identifier where
  name : String
  start : ∃ c rest, name.toList = c :: rest ∧ digit? c = none
  chars : ∀ c ∈ name.toList, isNameChar c = true

/-- What a template is made of: a text that stands for itself, and a field by its name. -/
inductive Part where
  | text (s : String)
  | field (id : Identifier)

namespace Part

/-- A text character by character, or a field that is shown in the usual way. -/
def pieces : Part → List Piece
  | .text s => s.toList.map .char
  | .field id => [.field { path := id.name.toList }]

/-- Whether the data has the value of a part. -/
def isFilled (data : Entries Json) : Part → Bool
  | .text _ => true
  | .field id => Entries.has id.name data

/-- A part of a message: a text as it is, and a value as it is shown. -/
def shown (data : Entries Json) : Part → String
  | .text s => s
  | .field id => ((Entries.get? id.name data).map Json.display).getD ""

end Part

/-- The template of some parts. -/
def ofParts (parts : List Part) : String :=
  write (parts.flatMap Part.pieces)

/-! ## Reading -/

theorem readFrom_drop (skip : Nat) (s : List Char) :
    readFrom skip s = readFrom 0 (s.drop skip) := by
  induction s generalizing skip with
  | nil => cases skip <;> rfl
  | cons c s ih =>
    cases skip with
    | zero => rfl
    | succ skip =>
      rw [readFrom, List.drop_succ_cons]
      exact ih skip

/-- A piece that is read back when it is written: any character, and a field with nothing but a name
in its braces. -/
def Piece.Plain : Piece → Prop
  | .char _ => True
  | .field f => ∃ id : Identifier, f = { path := id.name.toList }

theorem not_isNameChar {c : Char} (h : c ∈ [openBrace, closeBrace, ':', '!', '[', '.']) :
    isNameChar c = false := by
  have hnone : [openBrace, closeBrace, ':', '!', '[', '.'].any isNameChar = false := by decide
  exact Bool.eq_false_iff.2 (List.any_eq_false.1 hnone c h)

theorem ne_of_isNameChar {c d : Char} (h : isNameChar c = true)
    (hd : d ∈ [openBrace, closeBrace, ':', '!', '[', '.']) : c ≠ d := by
  rintro rfl
  rw [not_isNameChar hd] at h
  cases h

theorem readPath_name {name : List Char} (h : ∀ c ∈ name, isNameChar c = true)
    (rest : List Char) :
    readPath false (name ++ closeBrace :: rest) = .ok (name, closeBrace :: rest) := by
  induction name with
  | nil => rfl
  | cons c name ih =>
    obtain ⟨hc, hname⟩ := List.forall_mem_cons.1 h
    have hopen : c ≠ openBrace := ne_of_isNameChar hc (by decide)
    have hclose : c ≠ closeBrace := ne_of_isNameChar hc (by decide)
    have hcolon : c ≠ ':' := ne_of_isNameChar hc (by decide)
    have hmark : c ≠ '!' := ne_of_isNameChar hc (by decide)
    have hbracket : (c == '[') = false := beq_eq_false_iff_ne.2 (ne_of_isNameChar hc (by decide))
    rw [List.cons_append, readPath, if_neg Bool.false_ne_true, if_neg (by simpa using hopen),
      if_neg (by simp [hclose, hcolon, hmark]), hbracket, ih hname]
    rfl

theorem readField_name (id : Identifier) (rest : List Char) :
    readField (id.name.toList ++ closeBrace :: rest) =
      .ok ({ path := id.name.toList }, rest) := by
  unfold readField
  rw [readPath_name id.chars]
  rfl

theorem readFrom_field (id : Identifier) (rest : List Char) :
    readFrom 0 (openBrace :: (id.name.toList ++ closeBrace :: rest)) =
      (.field { path := id.name.toList } :: (readFrom 0 rest).1, (readFrom 0 rest).2) := by
  have hread := readField_name id rest
  obtain ⟨c, name, hname, -⟩ := id.start
  have hc : c ≠ openBrace := by
    apply ne_of_isNameChar (id.chars c _) (by decide)
    rw [hname]
    exact List.mem_cons_self ..
  have hlength : (id.name.toList ++ closeBrace :: rest).length - rest.length =
      (id.name.toList ++ [closeBrace]).length := by
    simp only [List.length_append, List.length_cons, List.length_nil]
    omega
  have hskip : readFrom ((id.name.toList ++ closeBrace :: rest).length - rest.length)
      (id.name.toList ++ closeBrace :: rest) = readFrom 0 rest := by
    rw [readFrom_drop, hlength, List.append_cons _ _ rest, List.drop_left]
  rw [hname, List.cons_append] at hread hskip ⊢
  rw [readFrom, if_pos (beq_self_eq_true _)]
  simp only [beq_eq_false_iff_ne.2 hc, Bool.false_eq_true, if_false, hread, hskip]

theorem readFrom_char (c : Char) (rest : List Char) :
    readFrom 0 ((Piece.char c).write ++ rest) =
      (.char c :: (readFrom 0 rest).1, (readFrom 0 rest).2) := by
  by_cases hopen : c = openBrace
  · subst hopen
    show readFrom 0 (openBrace :: openBrace :: rest) = _
    rw [readFrom, if_pos (beq_self_eq_true _)]
    simp only [beq_self_eq_true, if_true]
    rw [readFrom_drop 1]
    rfl
  by_cases hclose : c = closeBrace
  · subst hclose
    show readFrom 0 (closeBrace :: closeBrace :: rest) = _
    rw [readFrom, if_neg (by decide), if_pos (beq_self_eq_true _)]
    simp only [List.head?_cons, beq_self_eq_true, if_true]
    rw [readFrom_drop 1]
    rfl
  · have hwrite : (Piece.char c).write = [c] := by simp [Piece.write, hopen, hclose]
    rw [hwrite, List.singleton_append, readFrom.eq_def]
    dsimp only
    rw [if_neg (by simpa using hopen), if_neg (by simpa using hclose)]

theorem readFrom_write {piece : Piece} (h : piece.Plain) (rest : List Char) :
    readFrom 0 (piece.write ++ rest) =
      (piece :: (readFrom 0 rest).1, (readFrom 0 rest).2) := by
  cases piece with
  | char c => exact readFrom_char c rest
  | field f =>
    obtain ⟨id, rfl⟩ := h
    have hwrite : (Piece.field { path := id.name.toList }).write ++ rest =
        openBrace :: (id.name.toList ++ closeBrace :: rest) := by
      simp [Piece.write, Field.write]
    rw [hwrite, readFrom_field]

/-- Plain pieces are read back from what they are written as. -/
theorem read_write {pieces : List Piece} (h : ∀ piece ∈ pieces, piece.Plain) :
    read (write pieces).toList = (pieces, none) := by
  unfold read write
  rw [String.toList_ofList]
  induction pieces with
  | nil => rfl
  | cons piece rest ih =>
    obtain ⟨hpiece, hrest⟩ := List.forall_mem_cons.1 h
    rw [List.flatMap_cons, readFrom_write hpiece, ih hrest]

theorem Part.plain_pieces (part : Part) : ∀ piece ∈ part.pieces, piece.Plain := by
  cases part with
  | text s =>
    intro piece hpiece
    obtain ⟨c, -, rfl⟩ := List.mem_map.1 hpiece
    trivial
  | field id => exact List.forall_mem_singleton.2 ⟨id, rfl⟩

theorem read_ofParts (parts : List Part) :
    read (ofParts parts).toList = (parts.flatMap Part.pieces, none) := by
  apply read_write
  intro piece hpiece
  obtain ⟨part, -, hmem⟩ := List.mem_flatMap.1 hpiece
  exact part.plain_pieces piece hmem

/-! ## Filling in -/

section Filling

variable {expand : List Char → Except Failure (List Char)} {data : Entries Json}

-- An identifier is neither a number nor a path of several steps.
theorem lookUp_name (id : Identifier) :
    lookUp data id.name.toList =
      match Entries.get? id.name data with
      | some v => .ok (.value v)
      | none => .error .absent := by
  obtain ⟨c, rest, hname, hdigit⟩ := id.start
  have htake : id.name.toList.takeWhile (fun c => !endsPart c) = id.name.toList := by
    rw [List.takeWhile_eq_self_iff]
    intro c hc
    have hchar := id.chars c hc
    have hdot : c ≠ '.' := ne_of_isNameChar hchar (by decide)
    have hbracket : c ≠ '[' := ne_of_isNameChar hchar (by decide)
    simp [endsPart, hdot, hbracket]
  have hnumber : readNumber id.name.toList = .ok (none, id.name.toList) := by
    have hdigits : id.name.toList.takeWhile (fun c => (digit? c).isSome) = [] := by
      rw [hname, List.takeWhile_cons_of_neg (by simp [hdigit])]
    simp [readNumber, hdigits, ofDigits]
  have hnil : id.name.toList.isEmpty = false := by rw [hname]; rfl
  unfold lookUp
  simp only [htake, hnumber, hnil, Bool.false_eq_true, if_false, String.ofList_toList,
    List.drop_length]
  cases Entries.get? id.name data <;> rfl

theorem fillField_name (id : Identifier) :
    fillField expand data { path := id.name.toList } =
      match Entries.get? id.name data with
      | some v => .ok v.display.toList
      | none => .error .absent := by
  unfold fillField
  rw [lookUp_name]
  cases Entries.get? id.name data <;> rfl

theorem fillPieces_text (s : List Char) (rest : List Piece) :
    fillPieces expand data (s.map .char ++ rest) = (fillPieces expand data rest).map (s ++ ·) := by
  induction s with
  | nil => cases h : fillPieces expand data rest <;> simp [h, Except.map]
  | cons c s ih =>
    rw [List.map_cons, List.cons_append, fillPieces, ih]
    cases fillPieces expand data rest <;> rfl

-- A part in front is shown, or ends it all.
theorem fillPieces_part (part : Part) (rest : List Piece) :
    fillPieces expand data (part.pieces ++ rest) =
      if part.isFilled data then (fillPieces expand data rest).map ((part.shown data).toList ++ ·)
      else .error .absent := by
  cases part with
  | text s => exact fillPieces_text s.toList rest
  | field id =>
    rw [Part.pieces, List.singleton_append, fillPieces, fillField_name]
    rw [Part.isFilled, Entries.has_eq_isSome, Part.shown]
    cases Entries.get? id.name data with
    | none => rfl
    | some v => cases fillPieces expand data rest <;> rfl

theorem fillPieces_parts (parts : List Part) :
    fillPieces expand data (parts.flatMap Part.pieces) =
      if parts.all (Part.isFilled data) then
        .ok (parts.flatMap fun part => (part.shown data).toList)
      else .error .absent := by
  induction parts with
  | nil => rfl
  | cons part rest ih =>
    rw [List.flatMap_cons, fillPieces_part, ih, List.all_cons]
    by_cases hpart : part.isFilled data = true
    · by_cases hrest : rest.all (Part.isFilled data) = true
      · rw [if_pos hpart, if_pos hrest, if_pos (by rw [hpart, hrest]; rfl)]
        rfl
      · rw [if_pos hpart, if_neg hrest, if_neg (by simpa [hpart] using hrest)]
        rfl
    · rw [if_neg hpart, if_neg (by simp [hpart])]

end Filling

/-- The template of some parts is filled in with all values, or not at all. -/
theorem fill_ofParts (parts : List Part) (data : Entries Json) :
    fill (ofParts parts) data =
      .ok (if parts.all (Part.isFilled data) then String.join (parts.map (Part.shown data))
        else ofParts parts) := by
  unfold fill fillNested
  rw [read_ofParts]
  simp only [fillPieces_parts]
  by_cases hall : parts.all (Part.isFilled data) = true
  · rw [if_pos hall, if_pos hall]
    show Except.ok (String.ofList _) = _
    congr 1
    apply String.toList_inj.1
    rw [String.toList_ofList, String.toList_join, List.flatMap_map]
  · rw [if_neg hall, if_neg hall]
    rfl

end Template

/-- A message whose template is made of texts and named fields has the values in the places of their
fields, as they are, if the data has all of them.  If one is missing, the message is the template
itself.  It never fails. -/
theorem RuleInfo.describe_ofParts (rule : RuleInfo) (id : String) (parts : List Template.Part)
    (data : Entries Json) (h : Entries.get? id rule.messages = some (Template.ofParts parts)) :
    ((∀ field, .field field ∈ parts → Entries.has field.name data = true) →
      rule.describe id data = .ok (String.join (parts.map (Template.Part.shown data)))) ∧
    ((∃ field, .field field ∈ parts ∧ Entries.has field.name data = false) →
      rule.describe id data = .ok (Template.ofParts parts)) := by
  have hdescribe : rule.describe id data = Template.fill (Template.ofParts parts) data := by
    rw [describe, template, h]
    rfl
  rw [hdescribe, Template.fill_ofParts]
  constructor
  · intro hall
    have hfilled : parts.all (Template.Part.isFilled data) = true := by
      rw [List.all_eq_true]
      intro part hpart
      cases part with
      | text s => rfl
      | field field => exact hall field hpart
    rw [if_pos hfilled]
  · rintro ⟨field, hmem, hmissing⟩
    have hnot : ¬ parts.all (Template.Part.isFilled data) = true := by
      intro hall
      have hhas : Entries.has field.name data = true := List.all_eq_true.1 hall _ hmem
      rw [hmissing] at hhas
      cases hhas
    rw [if_neg hnot]

/-- A template with braces right next to its fields. -/
def Template.preloadParts : List Template.Part := [
  .text "\x7b",
  .field ⟨"href", ⟨'h', "ref".toList, by decide, by decide⟩,
    List.all_eq_true.1 (by decide)⟩,
  .text "\x7d\x7d by ",
  .field ⟨"_tag2", ⟨'_', "tag2".toList, by decide, by decide⟩,
    List.all_eq_true.1 (by decide)⟩]

/-- A rule with one message. -/
def Template.preloadInfo : RuleInfo :=
  { name := "preload", messages := [("known", Template.ofParts Template.preloadParts)] }

/-- A value that looks like a field is not taken for one, and with a value missing the template
stays as it is. -/
theorem RuleInfo.describe_preloadInfo :
    Template.ofParts Template.preloadParts =
        "\x7b\x7b\x7bhref\x7d\x7d\x7d\x7d\x7d by \x7b_tag2\x7d" ∧
      Template.preloadInfo.describe "known"
          [("_tag2", .int (-3)), ("href", .str "\x7b_tag2\x7d\x7b")] =
        .ok "\x7b\x7b_tag2\x7d\x7b\x7d\x7d by -3" ∧
      Template.preloadInfo.describe "known" [("href", .str "x"), ("tag2", .null)] =
        .ok "\x7b\x7b\x7bhref\x7d\x7d\x7d\x7d\x7d by \x7b_tag2\x7d" := by
  have htemplate : Template.ofParts Template.preloadParts =
      "\x7b\x7b\x7bhref\x7d\x7d\x7d\x7d\x7d by \x7b_tag2\x7d" := by decide +kernel
  obtain ⟨hfilled, -⟩ := describe_ofParts Template.preloadInfo "known" Template.preloadParts
    [("_tag2", .int (-3)), ("href", .str "\x7b_tag2\x7d\x7b")] rfl
  obtain ⟨-, hmissing⟩ := describe_ofParts Template.preloadInfo "known" Template.preloadParts
    [("href", .str "x"), ("tag2", .null)] rfl
  refine ⟨htemplate, ?_, ?_⟩
  · rw [hfilled]
    · exact congrArg Except.ok (by decide +kernel)
    · intro field hfield
      simp only [Template.preloadParts, List.mem_cons, List.not_mem_nil, or_false, reduceCtorEq,
        false_or, Template.Part.field.injEq] at hfield
      rcases hfield with rfl | rfl <;> decide
  · rw [hmissing ⟨_, List.mem_of_getElem? (i := 3) rfl, by decide⟩, htemplate]

end HeadLint
