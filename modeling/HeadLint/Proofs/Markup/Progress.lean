import HeadLint.Proofs.Markup.Reading

/-!
How far reading has come.  What the lexer has read when it arrives at an offset, and what is known
of a start tag when one of its attributes is reached, is computed here; the reading of the whole is
that account, continued with the rest.
-/

namespace HeadLint.Markup

open Text

/-! ## The lexer -/

deriving instance DecidableEq for Mode

/-- What the lexer has read, and its mode, when it arrives at the offset `stop`; nothing when no
token begins there.  The other arguments are those of `lexFrom`. -/
def lexUpTo (stop : Nat) : Nat → Nat → Mode → List Char → Option (List Token × Mode)
  | 0, offset, mode, [] => if offset = stop then some ([], mode) else none
  | _ + 1, _, _, [] => none
  | skip + 1, offset, mode, _ :: rest => lexUpTo stop skip (offset + 1) mode rest
  | 0, offset, mode, c :: rest =>
    if offset = stop then some ([], mode)
    else
      match lexStep mode offset (c :: rest) with
      | .error _ => none
      | .ok (tokens, length, next) =>
        (lexUpTo stop (length - 1) (offset + 1) next rest).map fun (more, last) =>
          (tokens ++ more, last)

/-- `Arrives stop last skip offset mode s tokens`: on its way through `s` the lexer arrives at the
offset `stop` in the mode `last` and has read `tokens`. -/
inductive Arrives (stop : Nat) (last : Mode) :
    Nat → Nat → Mode → List Char → List Token → Prop where
  | here {s : List Char} : Arrives stop last 0 stop last s []
  | skip {skip offset : Nat} {mode : Mode} {c : Char} {rest : List Char} {tokens : List Token}
      (h : Arrives stop last skip (offset + 1) mode rest tokens) :
      Arrives stop last (skip + 1) offset mode (c :: rest) tokens
  | step {offset length : Nat} {mode next : Mode} {c : Char} {rest : List Char}
      {first more : List Token} (hne : offset ≠ stop)
      (hstep : lexStep mode offset (c :: rest) = .ok (first, length, next))
      (h : Arrives stop last (length - 1) (offset + 1) next rest more) :
      Arrives stop last 0 offset mode (c :: rest) (first ++ more)

theorem arrives_of_lexUpTo {stop skip offset : Nat} {mode last : Mode} {s : List Char}
    {tokens : List Token} (h : lexUpTo stop skip offset mode s = some (tokens, last)) :
    Arrives stop last skip offset mode s tokens := by
  induction s generalizing skip offset mode tokens with
  | nil =>
    cases skip with
    | zero =>
      rw [lexUpTo] at h
      split at h
      · rename_i hstop
        obtain ⟨rfl, rfl⟩ := Prod.mk.inj (Option.some.inj h)
        rw [hstop]
        exact .here
      · cases h
    | succ skip => cases h
  | cons c rest ih =>
    cases skip with
    | succ skip =>
      rw [lexUpTo] at h
      exact .skip (ih h)
    | zero =>
      rw [lexUpTo] at h
      split at h
      · rename_i hstop
        obtain ⟨rfl, rfl⟩ := Prod.mk.inj (Option.some.inj h)
        rw [hstop]
        exact .here
      · rename_i hne
        split at h
        · cases h
        · rename_i first length next hstep
          obtain ⟨⟨more, last'⟩, hmore, heq⟩ := Option.map_eq_some_iff.1 h
          obtain ⟨rfl, rfl⟩ := Prod.mk.inj heq
          exact .step hne hstep (ih hmore)

theorem Arrives.lexUpTo_eq {stop skip offset : Nat} {mode last : Mode} {s : List Char}
    {tokens : List Token} (h : Arrives stop last skip offset mode s tokens) :
    lexUpTo stop skip offset mode s = some (tokens, last) := by
  induction h with
  | @here s => cases s <;> rw [lexUpTo, if_pos rfl]
  | skip _ ih => rw [lexUpTo, ih]
  | step hne hstep _ ih =>
    rw [lexUpTo, if_neg hne, hstep]
    simp only [ih, Option.map_some]

-- The lexer does not go back.
theorem Arrives.le {stop skip offset : Nat} {mode last : Mode} {s : List Char}
    {tokens : List Token} (h : Arrives stop last skip offset mode s tokens) :
    offset + skip ≤ stop := by
  induction h with
  | here => omega
  | skip _ ih => omega
  | step _ _ _ ih => omega

-- The text from an offset on, one character further.
theorem drop_sub_cons {stop offset : Nat} (h : offset + 1 ≤ stop) (c : Char) (rest : List Char) :
    (c :: rest).drop (stop - offset) = rest.drop (stop - (offset + 1)) := by
  have hstop : stop - offset = stop - (offset + 1) + 1 := by omega
  rw [hstop, List.drop_succ_cons]

/-- What has been read up to an offset comes before what is read from there on. -/
theorem Arrives.lexFrom_eq {stop skip offset : Nat} {mode last : Mode} {s : List Char}
    {tokens : List Token} (h : Arrives stop last skip offset mode s tokens) :
    lexFrom skip offset mode s =
      (lexFrom 0 stop last (s.drop (stop - offset))).map (tokens ++ ·) := by
  have hid : ∀ r : Except Fault (List Token), r.map (([] : List Token) ++ ·) = r := by
    intro r
    cases r <;> rfl
  induction h with
  | here => rw [hid, Nat.sub_self, List.drop_zero]
  | skip harrives ih =>
    have hle := harrives.le
    rw [lexFrom, ih, drop_sub_cons (by omega)]
  | step _ hstep harrives ih =>
    have hle := harrives.le
    rw [lexFrom_of_lexStep hstep, drop_sub_cons (by omega), ← map_append_map_append, ← ih]

/-! ## Offsets -/

/-- A token with its start tag at a given offset. -/
def Token.place (offset : Nat) : Token → Token
  | .startTag tag _ => .startTag tag offset
  | token => token

/-- A reading with its start tags at a given offset. -/
def Reading.place (offset : Nat) : Reading → Reading
  | .found tokens length => .found (tokens.map (Token.place offset)) length
  | .stop tokens length => .stop (tokens.map (Token.place offset)) length
  | reading => reading

theorem place_readComment (n : Nat) (s body : List Char) :
    (readComment s body).place n = readComment s body := by
  unfold readComment
  split <;> rfl

theorem place_readLooseComment (n : Nat) (s body : List Char) :
    (readLooseComment s body).place n = readLooseComment s body := by
  unfold readLooseComment
  split <;> rfl

theorem place_readInstruction (n : Nat) (s body : List Char) :
    (readInstruction s body).place n = readInstruction s body := by
  unfold readInstruction
  split <;> rfl

theorem place_readSection (n : Nat) (s body : List Char) :
    (readSection s body).place n = readSection s body := by
  unfold readSection
  dsimp only
  repeat' split
  all_goals rfl

theorem place_readDeclaration (n : Nat) (s body : List Char) :
    (readDeclaration s body).place n = readDeclaration s body := by
  unfold readDeclaration
  split
  · exact place_readSection ..
  · split
    · split <;> rfl
    · exact place_readLooseComment ..

theorem place_readEndTag (n : Nat) (s body : List Char) :
    (readEndTag s body).place n = readEndTag s body := by
  unfold readEndTag
  split
  · rfl
  · split
    · rfl
    · split
      · dsimp only
        split <;> rfl
      · split
        · rfl
        · exact place_readLooseComment ..
    · rfl

-- What is read does not depend on the offset, which a start tag only carries.
theorem readTag_eq_place (offset : Nat) (s : List Char) :
    readTag offset s = (readTag 0 s).place offset := by
  unfold readTag
  split
  · exact (place_readEndTag ..).symm
  · exact (place_readComment ..).symm
  · exact (place_readInstruction ..).symm
  · exact (place_readDeclaration ..).symm
  · split
    · split
      · rfl
      · dsimp only
        split <;> rfl
      · rfl
    · rfl
  · rfl

theorem place_readNumeric (n : Nat) (body : List Char) :
    (readNumeric body).place n = readNumeric body := by
  unfold readNumeric
  dsimp only
  repeat' split
  all_goals rfl

theorem place_readNamed (n : Nat) (final : Bool) (body : List Char) :
    (readNamed final body).place n = readNamed final body := by
  unfold readNamed
  repeat' split
  all_goals rfl

theorem readToken_eq_place (final : Bool) (offset : Nat) (s : List Char) :
    readToken final offset s = (readToken final 0 s).place offset := by
  unfold readToken
  split
  · exact readTag_eq_place ..
  · exact (place_readNumeric ..).symm
  · exact (place_readNamed ..).symm
  · rfl

theorem modeAfter_place (final : Bool) (offset : Nat) (tokens : List Token) :
    modeAfter final (tokens.map (Token.place offset)) = modeAfter final tokens := by
  match tokens with
  | [] => rfl
  | [token] => cases token <;> rfl
  | token :: other :: rest =>
    cases token <;> rfl

theorem settle_place (s : List Char) (offset : Nat) (reading : Reading) :
    settle s (reading.place offset) =
      (settle s reading).map fun found => (found.1.map (Token.place offset), found.2) := by
  cases reading with
  | found tokens length => simp [Reading.place, settle, Except.map, modeAfter_place]
  | incomplete => rfl
  | stop tokens length => simp [Reading.place, settle, Except.map, Token.place]
  | failed fault => rfl

-- One step of the lexer does not depend on the offset, which its start tags only carry.
theorem lexStep_eq_place (mode : Mode) (offset : Nat) (s : List Char) :
    lexStep mode offset s =
      (lexStep mode 0 s).map fun found => (found.1.map (Token.place offset), found.2) := by
  have hfinal : settle s (readToken true offset s) = (settle s (readToken true 0 s)).map
      fun found => (found.1.map (Token.place offset), found.2) := by
    rw [readToken_eq_place, settle_place]
  cases mode with
  | plain => rfl
  | raw final name =>
    simp only [lexStep, readRaw?]
    cases cutWhere? (rawEnd? name.toList) s with
    | none => rfl
    | some cut =>
      simp only [Option.map_some]
      split <;> rfl
  | markup final =>
    cases final with
    | true => exact hfinal
    | false =>
      simp only [lexStep]
      rw [readToken_eq_place]
      cases readToken false 0 s with
      | found tokens length => simp [Reading.place, Except.map, modeAfter_place]
      | incomplete => exact hfinal
      | stop tokens length =>
        cases length with
        | zero => exact hfinal
        | succ length => simp [Reading.place, Except.map]
      | failed fault => rfl

/-- `Token.Within low high token`: a start tag stands from `low` on and before `high`. -/
def Token.Within (low high : Nat) : Token → Prop
  | .startTag _ offset => low ≤ offset ∧ offset < high
  | _ => True

theorem within_of_lexStep {mode next : Mode} {offset length : Nat} {s : List Char}
    {tokens : List Token} (h : lexStep mode offset s = .ok (tokens, length, next)) :
    ∀ token ∈ tokens, token.Within offset (offset + 1) := by
  rw [lexStep_eq_place] at h
  cases hstep : lexStep mode 0 s with
  | error fault => rw [hstep] at h; cases h
  | ok found =>
    rw [hstep] at h
    obtain ⟨rfl, -⟩ := Prod.mk.inj (Except.ok.inj h)
    intro token htoken
    obtain ⟨other, -, rfl⟩ := List.mem_map.1 htoken
    cases other with
    | startTag tag n => exact ⟨Nat.le_refl _, Nat.lt_succ_self _⟩
    | _ => trivial

theorem Token.Within.mono {low high low' high' : Nat} {token : Token} (h : token.Within low high)
    (hlow : low' ≤ low) (hhigh : high ≤ high') : token.Within low' high' := by
  cases token with
  | startTag tag offset => exact ⟨Nat.le_trans hlow h.1, Nat.lt_of_lt_of_le h.2 hhigh⟩
  | _ => trivial

-- The start tags that are read up to an offset stand before it.
theorem Arrives.within {stop skip offset : Nat} {mode last : Mode} {s : List Char}
    {tokens : List Token} (h : Arrives stop last skip offset mode s tokens) :
    ∀ token ∈ tokens, token.Within offset stop := by
  induction h with
  | here => simp
  | skip _ ih =>
    intro token htoken
    exact (ih token htoken).mono (by omega) (Nat.le_refl _)
  | step _ hstep harrives ih =>
    have hle := harrives.le
    intro token htoken
    rcases List.mem_append.1 htoken with hfirst | hmore
    · exact (within_of_lexStep hstep token hfirst).mono (Nat.le_refl _) (by omega)
    · exact (ih token hmore).mono (by omega) (Nat.le_refl _)

-- A text that is read whole goes on with what is skipped, or with a step.
theorem lexFrom_cons_cases {skip offset : Nat} {mode : Mode} {c : Char} {rest : List Char}
    {tokens : List Token} (h : lexFrom skip offset mode (c :: rest) = .ok tokens) :
    (∃ n, skip = n + 1 ∧ lexFrom n (offset + 1) mode rest = .ok tokens) ∨
    ∃ first length next more, skip = 0 ∧
      lexStep mode offset (c :: rest) = .ok (first, length, next) ∧
      lexFrom (length - 1) (offset + 1) next rest = .ok more ∧ tokens = first ++ more := by
  cases skip with
  | succ skip =>
    rw [lexFrom] at h
    exact .inl ⟨skip, rfl, h⟩
  | zero =>
    cases hstep : lexStep mode offset (c :: rest) with
    | error fault =>
      rw [lexFrom_of_fault hstep] at h
      cases h
    | ok found =>
      obtain ⟨first, length, next⟩ := found
      rw [lexFrom_of_lexStep hstep] at h
      cases hmore : lexFrom (length - 1) (offset + 1) next rest with
      | error fault =>
        rw [hmore] at h
        cases h
      | ok more =>
        rw [hmore] at h
        obtain rfl := Except.ok.inj h
        exact .inr ⟨first, length, next, more, rfl, rfl, hmore, rfl⟩

-- The start tags that are read from an offset on stand there or later.
theorem within_of_lexFrom {skip offset : Nat} {mode : Mode} {s : List Char} {tokens : List Token}
    (h : lexFrom skip offset mode s = .ok tokens) :
    ∀ token ∈ tokens, token.Within offset (offset + s.length) := by
  induction s generalizing skip offset mode tokens with
  | nil =>
    cases skip <;> cases h <;> simp
  | cons c rest ih =>
    intro token htoken
    rw [List.length_cons]
    rcases lexFrom_cons_cases h with ⟨n, rfl, hrest⟩ |
      ⟨first, length, next, more, rfl, hstep, hmore, rfl⟩
    · exact (ih hrest token htoken).mono (by omega) (by omega)
    · rcases List.mem_append.1 htoken with hfirst | hlater
      · exact (within_of_lexStep hstep token hfirst).mono (Nat.le_refl _) (by omega)
      · exact (ih hmore token hlater).mono (by omega) (by omega)

/-- What is read from an offset on depends on the text and not on the offset. -/
theorem place_lexFrom (skip offset : Nat) (mode : Mode) (s : List Char) :
    (lexFrom skip offset mode s).map (List.map (Token.place 0)) =
      (lexFrom skip 0 mode s).map (List.map (Token.place 0)) := by
  have hplace : ∀ (n : Nat) (tokens : List Token),
      (tokens.map (Token.place n)).map (Token.place 0) = tokens.map (Token.place 0) := by
    intro n tokens
    rw [List.map_map]
    congr 1
    funext token
    cases token <;> rfl
  -- Placing goes through the tokens of one step and through the rest.
  have hmap : ∀ (tokens : List Token) (r : Except Fault (List Token)),
      (r.map (tokens ++ ·)).map (List.map (Token.place 0)) =
        (r.map (List.map (Token.place 0))).map (tokens.map (Token.place 0) ++ ·) := by
    intro tokens r
    cases r <;> simp [Except.map]
  induction s generalizing skip offset mode with
  | nil => cases skip <;> rfl
  | cons c rest ih =>
    cases skip with
    | succ skip => rw [lexFrom, lexFrom, ih, ih skip (0 + 1)]
    | zero =>
      have hstep := lexStep_eq_place mode offset (c :: rest)
      cases hzero : lexStep mode 0 (c :: rest) with
      | error fault =>
        rw [hzero] at hstep
        rw [lexFrom_of_fault hzero, lexFrom_of_fault hstep]
      | ok found =>
        obtain ⟨first, length, next⟩ := found
        rw [hzero] at hstep
        rw [lexFrom_of_lexStep hzero, lexFrom_of_lexStep hstep, hmap, hmap, hplace,
          ih (length - 1) (offset + 1) next, ih (length - 1) (0 + 1) next]

/-! ## Where start tags stand -/

/-- The tokens of a reading. -/
def Reading.tokens : Reading → List Token
  | .found tokens _ => tokens
  | .stop tokens _ => tokens
  | _ => []

-- A reading that does not depend on the offset has no start tag.
theorem Reading.not_mem_of_place {r : Reading} (h : ∀ n, r.place n = r) (tag : StartTag)
    (offset : Nat) : Token.startTag tag offset ∉ r.tokens := by
  intro hmem
  have hplaced : ∀ n, r.tokens.map (Token.place n) = r.tokens := by
    intro n
    have htokens : (r.place n).tokens = r.tokens.map (Token.place n) := by
      cases r <;> rfl
    rw [← htokens, h n]
  have hoffset : ∀ n, offset = n := by
    intro n
    rw [← hplaced n] at hmem
    obtain ⟨token, -, htoken⟩ := List.mem_map.1 hmem
    cases token with
    | startTag tag' n' =>
      injection htoken with _ hn
      exact hn.symm
    | _ => cases htoken
  have hzero := hoffset 0
  have hone := hoffset 1
  omega

/-- `TagAt s tag after`: a complete start tag at the start of a text, with what follows it. -/
structure TagAt (s : List Char) (tag : StartTag) (after : List Char) : Prop where
  ending : tag.ending ≠ .broken
  text : ∃ c rest, s = '<' :: c :: rest ∧ isAsciiLetter c = true ∧
    readStartTag? (c :: rest) = some (.ok tag, after)

theorem exists_tagAt_of_readTag {offset o : Nat} {s : List Char} {tag : StartTag}
    (h : Token.startTag tag o ∈ (readTag offset s).tokens) : ∃ after, TagAt s tag after := by
  unfold readTag at h
  split at h
  · exact absurd h (Reading.not_mem_of_place (fun n => place_readEndTag ..) _ _)
  · exact absurd h (Reading.not_mem_of_place (fun n => place_readComment ..) _ _)
  · exact absurd h (Reading.not_mem_of_place (fun n => place_readInstruction ..) _ _)
  · exact absurd h (Reading.not_mem_of_place (fun n => place_readDeclaration ..) _ _)
  · rename_i c rest _ _ _ _
    split at h
    · rename_i hc
      split at h
      · cases h
      · rename_i found after hread
        dsimp only at h
        split at h
        · simp [Reading.tokens] at h
        · rename_i hending
          simp only [Reading.tokens, List.mem_singleton, Token.startTag.injEq] at h
          obtain ⟨rfl, -⟩ := h
          exact ⟨after, by simpa using hending, c, rest, rfl, hc, hread⟩
      · cases h
    · simp [Reading.tokens] at h
  · cases h

theorem exists_tagAt_of_readToken {final : Bool} {offset o : Nat} {s : List Char} {tag : StartTag}
    (h : Token.startTag tag o ∈ (readToken final offset s).tokens) :
    ∃ after, TagAt s tag after := by
  unfold readToken at h
  split at h
  · exact exists_tagAt_of_readTag h
  · exact absurd h (Reading.not_mem_of_place (fun n => place_readNumeric ..) _ _)
  · exact absurd h (Reading.not_mem_of_place (fun n => place_readNamed ..) _ _)
  · simp [Reading.tokens] at h

theorem exists_tagAt_of_settle {final : Bool} {offset o length : Nat} {s : List Char}
    {tag : StartTag} {tokens : List Token} {next : Mode}
    (h : settle s (readToken final offset s) = .ok (tokens, length, next))
    (hmem : Token.startTag tag o ∈ tokens) : ∃ after, TagAt s tag after := by
  apply exists_tagAt_of_readToken
  cases hread : readToken final offset s with
  | found found length =>
    rw [hread] at h
    obtain ⟨rfl, -⟩ := Prod.mk.inj (Except.ok.inj h)
    exact hmem
  | incomplete =>
    rw [hread] at h
    obtain ⟨rfl, -⟩ := Prod.mk.inj (Except.ok.inj h)
    simp at hmem
  | stop found length =>
    rw [hread] at h
    obtain ⟨rfl, -⟩ := Prod.mk.inj (Except.ok.inj h)
    simpa [Reading.tokens] using hmem
  | failed fault => rw [hread] at h; cases h

-- A start tag is found only in markup, where it stands complete.
theorem exists_tagAt_of_lexStep {mode next : Mode} {offset o length : Nat} {s : List Char}
    {tag : StartTag} {tokens : List Token} (h : lexStep mode offset s = .ok (tokens, length, next))
    (hmem : Token.startTag tag o ∈ tokens) :
    ∃ final after, mode = .markup final ∧ TagAt s tag after := by
  cases mode with
  -- Plain and raw text give text and end tags only.
  | plain =>
    obtain ⟨rfl, -⟩ := Prod.mk.inj (Except.ok.inj h)
    simp at hmem
  | raw final name =>
    simp only [lexStep, readRaw?] at h
    cases hcut : cutWhere? (rawEnd? name.toList) s with
    | none =>
      rw [hcut] at h
      obtain ⟨rfl, -⟩ := Prod.mk.inj (Except.ok.inj h)
      cases hmem
    | some cut =>
      rw [hcut, Option.map_some] at h
      dsimp only at h
      split at h <;>
      · obtain ⟨rfl, -⟩ := Prod.mk.inj (Except.ok.inj h)
        simp at hmem
  | markup final =>
    refine ⟨final, ?_⟩
    have hfound : ∃ after, TagAt s tag after := by
      cases final with
      | true => exact exists_tagAt_of_settle h hmem
      | false =>
        simp only [lexStep] at h
        split at h
        · rename_i found length' hread
          obtain ⟨rfl, -⟩ := Prod.mk.inj (Except.ok.inj h)
          exact exists_tagAt_of_readToken (by rw [hread]; exact hmem)
        · rename_i found length' hread
          obtain ⟨rfl, -⟩ := Prod.mk.inj (Except.ok.inj h)
          exact exists_tagAt_of_readToken (by rw [hread]; exact hmem)
        · exact exists_tagAt_of_settle h hmem
        · exact exists_tagAt_of_settle h hmem
        · cases h
    obtain ⟨after, hat⟩ := hfound
    exact ⟨after, rfl, hat⟩

-- The lexer arrives at every start tag that it reads.
theorem exists_arrives_of_lexFrom {skip offset o : Nat} {mode : Mode} {s : List Char}
    {tokens : List Token} {tag : StartTag} (h : lexFrom skip offset mode s = .ok tokens)
    (hmem : Token.startTag tag o ∈ tokens) :
    ∃ before final after, Arrives o (.markup final) skip offset mode s before ∧
      TagAt (s.drop (o - offset)) tag after := by
  induction s generalizing skip offset mode tokens with
  | nil =>
    cases skip <;> cases h <;> cases hmem
  | cons c rest ih =>
    rcases lexFrom_cons_cases h with ⟨n, rfl, hrest⟩ |
      ⟨first, length, next, more, rfl, hstep, hmore, rfl⟩
    · obtain ⟨before, final, after, harrives, hat⟩ := ih hrest hmem
      have hle := harrives.le
      refine ⟨before, final, after, .skip harrives, ?_⟩
      rwa [drop_sub_cons (by omega)]
    · rcases List.mem_append.1 hmem with hfirst | hlater
      · -- The tag is read in this step, so the lexer has arrived.
        obtain ⟨final, after, rfl, hat⟩ := exists_tagAt_of_lexStep hstep hfirst
        obtain ⟨hlow, hhigh⟩ := within_of_lexStep hstep _ hfirst
        have hstop : offset = o := by omega
        subst hstop
        refine ⟨[], final, after, .here, ?_⟩
        rwa [Nat.sub_self, List.drop_zero]
      · obtain ⟨before, final, after, harrives, hat⟩ := ih hmore hlater
        have hle := harrives.le
        refine ⟨first ++ before, final, after, .step (by omega) hstep harrives, ?_⟩
        rwa [drop_sub_cons (by omega)]

/-! ## Attributes of a start tag -/

/-- The attributes that are read, and the character before the offset `stop`, when an attribute may
begin there; nothing when that offset is not reached.  The other arguments are those of
`readAttributes`, with the offset of the text. -/
def attributesUpTo (stop : Nat) :
    Nat → Nat → Char → List Char → Option (List (List Char × Option (List Char)) × Char)
  | 0, offset, previous, [] => if offset = stop then some ([], previous) else none
  | _ + 1, _, _, [] => none
  | skip + 1, offset, _, c :: rest => attributesUpTo stop skip (offset + 1) c rest
  | 0, offset, previous, c :: rest =>
    if offset = stop then some ([], previous)
    else if canPrecedeName previous && canStartName c then
      (attributesUpTo stop (rest.length - (readAttribute (c :: rest)).2.length) (offset + 1) c
        rest).map fun (more, last) => ((readAttribute (c :: rest)).1 :: more, last)
    else none

theorem le_of_attributesUpTo {stop skip offset : Nat} {previous last : Char} {s : List Char}
    {attrs : List (List Char × Option (List Char))}
    (h : attributesUpTo stop skip offset previous s = some (attrs, last)) : offset ≤ stop := by
  induction s generalizing skip offset previous attrs with
  | nil =>
    cases skip with
    | zero =>
      rw [attributesUpTo] at h
      split at h
      · omega
      · cases h
    | succ skip => cases h
  | cons c rest ih =>
    cases skip with
    | succ skip =>
      rw [attributesUpTo] at h
      have hle := ih h
      omega
    | zero =>
      rw [attributesUpTo] at h
      split at h
      · omega
      · split at h
        · obtain ⟨⟨more, last'⟩, hmore, heq⟩ := Option.map_eq_some_iff.1 h
          obtain ⟨-, rfl⟩ := Prod.mk.inj heq
          have hle := ih hmore
          omega
        · cases h

-- The attributes up to an offset come before those from there on.
theorem readAttributes_of_attributesUpTo {stop skip offset : Nat} {previous last : Char}
    {s : List Char} {attrs : List (List Char × Option (List Char))}
    (h : attributesUpTo stop skip offset previous s = some (attrs, last)) :
    readAttributes skip previous s =
      (attrs ++ (readAttributes 0 last (s.drop (stop - offset))).1,
        (readAttributes 0 last (s.drop (stop - offset))).2) := by
  induction s generalizing skip offset previous attrs with
  | nil =>
    cases skip with
    | zero =>
      rw [attributesUpTo] at h
      split at h
      · obtain ⟨rfl, rfl⟩ := Prod.mk.inj (Option.some.inj h)
        rw [List.drop_nil]
        rfl
      · cases h
    | succ skip => cases h
  | cons c rest ih =>
    cases skip with
    | succ skip =>
      rw [attributesUpTo] at h
      rw [readAttributes, ih h, drop_sub_cons (le_of_attributesUpTo h)]
    | zero =>
      rw [attributesUpTo] at h
      split at h
      · rename_i hstop
        obtain ⟨rfl, rfl⟩ := Prod.mk.inj (Option.some.inj h)
        rw [hstop, Nat.sub_self, List.drop_zero]
        rfl
      · split at h
        · rename_i hstart
          obtain ⟨⟨more, last'⟩, hmore, heq⟩ := Option.map_eq_some_iff.1 h
          obtain ⟨rfl, rfl⟩ := Prod.mk.inj heq
          rw [readAttributes, if_pos hstart, drop_sub_cons (le_of_attributesUpTo hmore)]
          simp only [ih hmore, List.cons_append]
        · cases h

/-- What is known of a start tag when an attribute at the offset `stop` is reached: its name, the
attributes before, and the character before that offset. -/
def tagUpTo (stop : Nat) (s : List Char) :
    Option (List Char × List (List Char × Option (List Char)) × Char) :=
  let name := s.takeWhile isTagNameChar
  let rest := s.dropWhile isTagNameChar
  let gap := skipGap rest
  let previous := ((name ++ rest.take (rest.length - gap.length)).getLast?).getD ' '
  (attributesUpTo stop 0 (s.length - gap.length) previous gap).map fun (attrs, last) =>
    (name, attrs, last)

/-- A start tag with a given name and attributes, when the text goes on with its end. -/
def closeTag? (name : List Char) (attributes : List (List Char × Option (List Char)))
    (s : List Char) : Option (Except DigitOverflow StartTag × List Char) :=
  (readTagEnd? s).map fun (ending, after) =>
    match attributes.findSome? fun (_, value) => value.bind firstOverflow? with
    | some overflow => (.error overflow, after)
    | none => (.ok ⟨String.ofList (lower name), attributes.map cookAttribute, ending⟩, after)

theorem skipGap_suffix (s : List Char) :
    ∃ gap, s = gap ++ skipGap s ∧ ∀ c ∈ gap, (isBlank c || c == '/') = true := by
  induction s with
  | nil => exact ⟨[], rfl, by simp⟩
  | cons c rest ih =>
    rw [skipGap]
    split
    · rename_i hc
      obtain ⟨gap, hgap, hchars⟩ := ih
      refine ⟨c :: gap, congrArg (c :: ·) hgap, List.forall_mem_cons.2 ⟨?_, hchars⟩⟩
      rw [Bool.or_eq_true, Bool.and_eq_true] at hc
      rw [Bool.or_eq_true]
      exact hc.imp_right And.left
    · exact ⟨[], rfl, by simp⟩

-- What is known of a start tag at an attribute is continued with the attributes from there on.
theorem readStartTag?_of_tagUpTo {stop : Nat} {s name : List Char} {last : Char}
    {attrs : List (List Char × Option (List Char))}
    (h : tagUpTo stop s = some (name, attrs, last)) :
    readStartTag? s =
      closeTag? name (attrs ++ (readAttributes 0 last (s.drop stop)).1)
        (readAttributes 0 last (s.drop stop)).2 := by
  obtain ⟨⟨attrs', last'⟩, hattrs, heq⟩ := Option.map_eq_some_iff.1 h
  obtain ⟨rfl, hpair⟩ := Prod.mk.inj heq
  obtain ⟨rfl, rfl⟩ := Prod.mk.inj hpair
  have hread := readAttributes_of_attributesUpTo hattrs
  have hle := le_of_attributesUpTo hattrs
  have hrest : (skipGap (s.dropWhile isTagNameChar)).drop
      (stop - (s.length - (skipGap (s.dropWhile isTagNameChar)).length)) = s.drop stop := by
    obtain ⟨gap, hgap, -⟩ := skipGap_suffix (s.dropWhile isTagNameChar)
    have hs : s = (s.takeWhile isTagNameChar ++ gap) ++ skipGap (s.dropWhile isTagNameChar) := by
      rw [List.append_assoc, ← hgap, List.takeWhile_append_dropWhile]
    generalize skipGap (s.dropWhile isTagNameChar) = tail at hs hle ⊢
    generalize s.takeWhile isTagNameChar ++ gap = front at hs
    subst hs
    rw [List.length_append, Nat.add_sub_cancel] at hle ⊢
    rw [List.drop_append, List.drop_eq_nil_of_le hle, List.nil_append]
  rw [hrest] at hread
  simp only [readStartTag?, hread]
  rfl

end HeadLint.Markup
