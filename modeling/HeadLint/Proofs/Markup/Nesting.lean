import HeadLint.Proofs.Markup.Building
import HeadLint.Proofs.Markup.Progress

/-!
The order of start tags in a tree.  The lexer only moves on, and an element is opened inside the
elements that are open, so the start tag of a child stands behind that of its parent.
-/

namespace HeadLint.Markup

/-! ## Trees -/

/-- In the whole tree the start tag of a child stands behind that of its parent. -/
inductive Node.Nested : Node → Prop where
  | intro {n : Node} (behind : ∀ child ∈ n.children, n.offset < child.offset)
      (children : ∀ child ∈ n.children, Nested child) : Nested n

theorem Node.namedAmong_eq_flatMap (wanted : String) (nodes : List Node) :
    Node.namedAmong wanted nodes = nodes.flatMap (Node.named wanted) := by
  induction nodes with
  | nil => rfl
  | cons n rest ih => rw [Node.namedAmong, ih, List.flatMap_cons]

theorem Node.Nested.named {n : Node} (h : n.Nested) (wanted : String) :
    ∀ m ∈ Node.named wanted n, m.Nested := by
  induction h with
  | @intro n behind children ih =>
    have hself : n.Nested := .intro behind children
    obtain ⟨name, attributes, offset, text, nodes⟩ := n
    -- What is found stands below one of the children, or is the element itself.
    have hinner : ∀ m ∈ Node.namedAmong wanted nodes, m.Nested := by
      intro m hm
      rw [Node.namedAmong_eq_flatMap] at hm
      obtain ⟨child, hchild, hmem⟩ := List.mem_flatMap.1 hm
      exact ih child hchild m hmem
    intro m hm
    rw [Node.named] at hm
    split at hm
    · rcases List.mem_cons.1 hm with rfl | hmem
      · exact hself
      · exact hinner m hmem
    · exact hinner m hm

/-! ## Trees under construction -/

/-- The start tags of the open elements stand before `limit`, those of inner ones behind those of
outer ones, and everything that is closed is in order. -/
structure Builder.Ordered (limit : Nat) (b : Builder) : Prop where
  below : ∀ n ∈ b.stack, n.offset < limit
  stack : b.stack.Pairwise fun inner outer => outer.offset < inner.offset
  children : ∀ n ∈ b.stack, ∀ child ∈ n.children, n.offset < child.offset ∧ child.Nested
  root : ∀ child ∈ b.root.children, child.Nested

namespace Builder

variable {limit : Nat} {b : Builder}

theorem Ordered.mono (h : b.Ordered limit) {limit' : Nat} (hle : limit ≤ limit') :
    b.Ordered limit' :=
  ⟨fun n hn => Nat.lt_of_lt_of_le (h.below n hn) hle, h.stack, h.children, h.root⟩

-- Text does not matter.
theorem Ordered.addString (h : b.Ordered limit) (s : List Char) :
    (b.addString s).Ordered limit := by
  obtain ⟨stack, root, pending, voids⟩ := b
  cases stack with
  | nil => exact ⟨h.below, h.stack, h.children, h.root⟩
  | cons top below =>
    obtain ⟨hbelow, hstack, hchildren, hroot⟩ := h
    simp only [List.forall_mem_cons, List.pairwise_cons] at hbelow hstack hchildren
    refine ⟨List.forall_mem_cons.2 hbelow, List.pairwise_cons.2 hstack,
      List.forall_mem_cons.2 hchildren, hroot⟩

theorem Ordered.flush (h : b.Ordered limit) : b.flush.Ordered limit := by
  unfold Builder.flush
  split
  · exact h
  · have hadd := h.addString b.pending
    exact ⟨hadd.below, hadd.stack, hadd.children, hadd.root⟩

theorem Ordered.nested_close {n : OpenNode}
    (h : ∀ child ∈ n.children, n.offset < child.offset ∧ child.Nested) : n.close.Nested :=
  .intro (fun child hchild => (h child (List.mem_reverse.1 hchild)).1)
    fun child hchild => (h child (List.mem_reverse.1 hchild)).2

-- A closed element becomes a child of the next one, before which it was opened.
theorem Ordered.pop (h : b.Ordered limit) : b.pop.Ordered limit := by
  obtain ⟨stack, root, pending, voids⟩ := b
  cases stack with
  | nil => exact h
  | cons top below =>
    obtain ⟨hbelow, hstack, hchildren, hroot⟩ := h
    simp only [List.forall_mem_cons, List.pairwise_cons] at hbelow hstack hchildren
    have hclosed := Ordered.nested_close hchildren.1
    cases below with
    | nil =>
      exact ⟨List.forall_mem_nil _, .nil, List.forall_mem_nil _,
        List.forall_mem_cons.2 ⟨hclosed, hroot⟩⟩
    | cons next rest =>
      simp only [List.forall_mem_cons, List.pairwise_cons] at hbelow hstack hchildren
      refine ⟨List.forall_mem_cons.2 hbelow.2, List.pairwise_cons.2 hstack.2, ?_, hroot⟩
      refine List.forall_mem_cons.2 ⟨List.forall_mem_cons.2 ⟨⟨hstack.1.1, hclosed⟩, ?_⟩, ?_⟩
      · exact hchildren.2.1
      · exact hchildren.2.2

theorem Ordered.popMany (h : b.Ordered limit) (count : Nat) :
    (Builder.popMany count b).Ordered limit := by
  induction count generalizing b with
  | zero => exact h
  | succ count ih => exact ih h.pop

theorem Ordered.popTo (h : b.Ordered limit) (name : String) : (b.popTo name).Ordered limit := by
  unfold Builder.popTo
  split
  · exact h.popMany _
  · exact h

-- A start tag at the limit stands behind those of all open elements.
theorem Ordered.openTag (h : b.Ordered limit) (tag : StartTag) :
    (b.openTag tag limit).Ordered (limit + 1) := by
  have hflush := h.flush
  have hpush : Builder.Ordered (limit + 1)
      { b.flush with stack := opened tag limit :: b.flush.stack } := by
    refine ⟨?_, List.pairwise_cons.2 ⟨hflush.below, hflush.stack⟩, ?_, hflush.root⟩
    · refine List.forall_mem_cons.2 ⟨Nat.lt_succ_self limit, ?_⟩
      exact (hflush.mono (Nat.le_succ limit)).below
    · exact List.forall_mem_cons.2 ⟨by simp [opened], hflush.children⟩
  unfold Builder.openTag
  dsimp only
  split
  · exact hpush.popTo tag.name
  · split
    · have hpop := hpush.popTo tag.name
      exact ⟨hpop.below, hpop.stack, hpop.children, hpop.root⟩
    · exact hpush

-- Other tokens open nothing.
theorem Ordered.add (h : b.Ordered limit) {token : Token}
    (htoken : ∀ tag offset, token ≠ .startTag tag offset) : (b.add token).Ordered limit := by
  cases token with
  | startTag tag offset => exact absurd rfl (htoken tag offset)
  | endTag name =>
    simp only [Builder.add, close]
    split
    · exact ⟨h.below, h.stack, h.children, h.root⟩
    · exact h.flush.popTo name
  | text s => exact ⟨h.below, h.stack, h.children, h.root⟩
  | comment s => exact h.flush
  | declaration s => exact h.flush.addString s

theorem Ordered.foldl_add (h : b.Ordered limit) {tokens : List Token}
    (htokens : ∀ tag offset, Token.startTag tag offset ∉ tokens) :
    (tokens.foldl Builder.add b).Ordered limit := by
  induction tokens generalizing b with
  | nil => exact h
  | cons token rest ih =>
    simp only [List.mem_cons, not_or] at htokens
    refine ih (h.add fun tag offset heq => ?_) fun tag offset => (htokens tag offset).2
    exact (htokens tag offset).1 heq.symm

end Builder

/-! ## Reading -/

-- A step of the lexer that finds a start tag finds nothing else.
theorem lexStep_tokens {mode next : Mode} {offset length : Nat} {s : List Char}
    {tokens : List Token} (h : lexStep mode offset s = .ok (tokens, length, next)) :
    (∃ tag, tokens = [.startTag tag offset]) ∨ ∀ tag o, Token.startTag tag o ∉ tokens := by
  by_cases hmem : ∃ tag o, Token.startTag tag o ∈ tokens
  · obtain ⟨tag, o, hmem⟩ := hmem
    obtain ⟨final, after, rfl, hending, c, rest, rfl, hc, hread⟩ := exists_tagAt_of_lexStep h hmem
    have hfound : readToken final offset ('<' :: c :: rest) =
        .found [.startTag tag offset] (consumed ('<' :: c :: rest) after) :=
      readTag_startTag hc hread hending
    rw [lexStep_found hfound] at h
    obtain ⟨rfl, -⟩ := Prod.mk.inj (Except.ok.inj h)
    exact .inl ⟨tag, rfl⟩
  · exact .inr fun tag o hin => hmem ⟨tag, o, hin⟩

-- The tree stays in order while the lexer moves on.
theorem ordered_of_lexFrom {skip offset : Nat} {mode : Mode} {s : List Char} {tokens : List Token}
    {b : Builder} (h : lexFrom skip offset mode s = .ok tokens) (hb : b.Ordered offset) :
    (tokens.foldl Builder.add b).Ordered (offset + s.length) := by
  induction s generalizing skip offset mode tokens b with
  | nil =>
    cases skip <;> cases h <;> exact hb
  | cons c rest ih =>
    have hlength : offset + (c :: rest).length = offset + 1 + rest.length := by
      rw [List.length_cons]
      omega
    rw [hlength]
    rcases lexFrom_cons_cases h with ⟨n, rfl, hrest⟩ |
      ⟨first, length, next, more, rfl, hstep, hmore, rfl⟩
    · exact ih hrest (hb.mono (Nat.le_succ offset))
    · rw [List.foldl_append]
      refine ih hmore ?_
      rcases lexStep_tokens hstep with ⟨tag, rfl⟩ | hnone
      · exact hb.openTag tag
      · exact (hb.foldl_add hnone).mono (Nat.le_succ offset)

/-- The elements of a text stand in order. -/
theorem nested_of_lex {s : List Char} {tokens : List Token} (h : lex s = .ok tokens) :
    ∀ n ∈ Node.ofTokens tokens, n.Nested := by
  have hordered := ordered_of_lexFrom (b := {}) h ⟨by simp, .nil, by simp, by simp⟩
  have hclosed := hordered.flush.popMany (tokens.foldl Builder.add {}).flush.stack.length
  intro n hn
  exact hclosed.root n (List.mem_reverse.1 hn)

-- Every element stands at a less-than sign.
theorem opens_of_lex {s : List Char} {tokens : List Token} (h : lex s = .ok tokens) :
    Node.AllAmong (fun _ _ offset => s[offset]? = some '<') (Node.ofTokens tokens) := by
  refine Node.all_ofTokens fun tag offset hmem => ?_
  obtain ⟨before, final, after, -, -, c, rest, htext, -, -⟩ := exists_arrives_of_lexFrom h hmem
  have hget := congrArg List.head? htext
  rwa [Nat.sub_zero, List.head?_drop] at hget

end HeadLint.Markup
