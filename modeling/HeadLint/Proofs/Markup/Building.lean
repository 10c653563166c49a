import HeadLint.Markup.Node
import HeadLint.Proofs.Entries

/-!
How the tree grows.  Tokens that open and close in balance add elements to the innermost open one
and change nothing else but text.
-/

namespace HeadLint.Markup

namespace Builder

/-- An open element with a given text and more children. -/
def grow (text : List Char) (nodes : List Node) (n : OpenNode) : OpenNode :=
  { n with text, children := nodes.reverse ++ n.children }

/-- `Grown b b' nodes`: from `b` to `b'` the innermost open element got the children `nodes`; no
other element changed, and only void elements wait for an end tag that is to be ignored. -/
def Grown (b b' : Builder) (nodes : List Node) : Prop :=
  ∃ text pending voids,
    b' = { b.modifyTop (grow text nodes) with pending := pending, closedVoids := voids } ∧
      ((∀ name ∈ b.closedVoids, name ∈ voidTags) → ∀ name ∈ voids, name ∈ voidTags)

theorem Grown.refl (b : Builder) : Grown b b [] := by
  obtain ⟨stack, root, pending, voids⟩ := b
  cases stack with
  | nil => exact ⟨root.text, pending, voids, rfl, id⟩
  | cons top below => exact ⟨top.text, pending, voids, rfl, id⟩

theorem Grown.trans {b b' b'' : Builder} {nodes nodes' : List Node} (h : Grown b b' nodes)
    (h' : Grown b' b'' nodes') : Grown b b'' (nodes ++ nodes') := by
  obtain ⟨text, pending, voids, rfl, hvoids⟩ := h
  obtain ⟨text', pending', voids', rfl, hvoids'⟩ := h'
  refine ⟨text', pending', voids', ?_, fun hb => hvoids' (hvoids hb)⟩
  obtain ⟨stack, root, pending₀, voids₀⟩ := b
  cases stack with
  | nil => simp [modifyTop, grow]
  | cons top below => simp [modifyTop, grow]

theorem grown_text (b : Builder) (s : List Char) : Grown b (b.add (.text s)) [] := by
  obtain ⟨stack, root, pending, voids⟩ := b
  cases stack with
  | nil => exact ⟨root.text, pending ++ s, voids, rfl, id⟩
  | cons top below => exact ⟨top.text, pending ++ s, voids, rfl, id⟩

theorem grown_flush (b : Builder) : Grown b b.flush [] := by
  unfold flush
  split
  · exact Grown.refl b
  · obtain ⟨stack, root, pending, voids⟩ := b
    cases stack with
    | nil => exact ⟨_, [], voids, rfl, id⟩
    | cons top below => exact ⟨_, [], voids, rfl, id⟩

-- Text and void elements that wait do not count as growth.
theorem Grown.waiting {b b' : Builder} {nodes : List Node} (h : Grown b b' nodes)
    (pending : List Char) {voids : List String}
    (hvoids : (∀ name ∈ b.closedVoids, name ∈ voidTags) → ∀ name ∈ voids, name ∈ voidTags) :
    Grown b { b' with pending := pending, closedVoids := voids } nodes := by
  obtain ⟨text, pending₀, voids₀, rfl, -⟩ := h
  exact ⟨text, pending, voids, rfl, hvoids⟩

theorem Grown.voids {b b' : Builder} {nodes : List Node} (h : Grown b b' nodes)
    (hb : ∀ name ∈ b.closedVoids, name ∈ voidTags) : ∀ name ∈ b'.closedVoids, name ∈ voidTags := by
  obtain ⟨text, pending, voids, rfl, hvoids⟩ := h
  exact hvoids hb

theorem Grown.void {b b' : Builder} {nodes : List Node} {name : String} (h : Grown b b' nodes)
    (hname : name ∈ voidTags) :
    Grown b { b' with closedVoids := name :: b'.closedVoids } nodes := by
  refine h.waiting b'.pending fun hb other hother => ?_
  rcases List.mem_cons.1 hother with rfl | hmem
  · exact hname
  · exact h.voids hb other hmem

-- An element on top of the stack is closed by its own name.
theorem grown_popTo (b : Builder) (n : OpenNode) :
    Grown b ({ b with stack := n :: b.stack }.popTo n.name) [n.close] := by
  have hfind : (n :: b.stack).findIdx? (·.name == n.name) = some 0 := by
    rw [List.findIdx?_cons, beq_self_eq_true, if_pos rfl]
  simp only [popTo, hfind, popMany, pop]
  obtain ⟨stack, root, pending, voids⟩ := b
  cases stack with
  | nil => exact ⟨root.text, pending, voids, rfl, id⟩
  | cons top below => exact ⟨top.text, pending, voids, rfl, id⟩

/-- The element of a start tag that has just been read. -/
def opened (tag : StartTag) (offset : Nat) : OpenNode :=
  { name := tag.name, attributes := keepFirst tag.attributes, offset }

-- A void element is complete with its start tag.
theorem grown_void (b : Builder) {tag : StartTag} (offset : Nat) (hending : tag.ending = .plain)
    (hvoid : tag.name ∈ voidTags) :
    Grown b (b.add (.startTag tag offset))
      [⟨tag.name, keepFirst tag.attributes, offset, [], []⟩] := by
  have hpop : Grown b ({ b.flush with stack := opened tag offset :: b.flush.stack }.popTo tag.name)
      [(opened tag offset).close] :=
    (grown_flush b).trans (grown_popTo b.flush (opened tag offset))
  simpa [add, openTag, hending, hvoid, opened, OpenNode.close] using hpop.void hvoid

-- An element that is neither void nor closed at once stays open behind its start tag.
theorem add_startTag (b : Builder) {tag : StartTag} (offset : Nat) (hending : tag.ending = .plain)
    (hvoid : tag.name ∉ voidTags) :
    b.add (.startTag tag offset) =
      { b.flush with stack := opened tag offset :: b.flush.stack } := by
  simp [add, openTag, hending, hvoid, opened]

-- What grows between a start tag and its end tag are the children of their element.
theorem grown_element {b b' : Builder} {tag : StartTag} {offset : Nat} {nodes : List Node}
    (hb : ∀ name ∈ b.closedVoids, name ∈ voidTags) (hending : tag.ending = .plain)
    (hvoid : tag.name ∉ voidTags) (h : Grown (b.add (.startTag tag offset)) b' nodes) :
    ∃ text, Grown b (b'.add (.endTag tag.name))
      [⟨tag.name, keepFirst tag.attributes, offset, text, nodes⟩] := by
  rw [add_startTag b offset hending hvoid] at h
  have hflush := (grown_flush b).voids hb
  have hopen : b'.closedVoids.contains tag.name = false := by
    have hvoids := h.voids hflush
    simp only [List.contains_eq_mem, decide_eq_false_iff_not]
    exact fun hmem => hvoid (hvoids _ hmem)
  have hadd : b'.add (.endTag tag.name) = b'.flush.popTo tag.name := by
    simp only [add, close, hopen, Bool.false_eq_true, if_false]
  have hinner := h.trans (grown_flush b')
  rw [List.append_nil] at hinner
  obtain ⟨text, pending, voids, heq, hvoids⟩ := hinner
  have houter : Grown b { b.flush with pending := pending, closedVoids := voids } [] :=
    (grown_flush b).waiting pending fun _ => hvoids hflush
  have hpop := houter.trans (grown_popTo _ (grow text nodes (opened tag offset)))
  refine ⟨text, ?_⟩
  rw [hadd, heq]
  simpa [grow, opened, OpenNode.close, modifyTop] using hpop

/-- An attribute as an entry. -/
def entryOf (attr : String × Option String) : String × String :=
  (attr.1, attr.2.getD "")

theorem keepFirst_eq_firsts (attributes : List (String × Option String)) :
    keepFirst attributes = Entries.firsts (attributes.map entryOf) := by
  rw [Entries.firsts, List.foldl_map]
  rfl

-- Attributes with distinct names are all kept.
theorem keepFirst_of_nodup {attributes : List (String × Option String)}
    (h : (attributes.map (·.1)).Nodup) :
    keepFirst attributes = attributes.map fun attr => (attr.1, attr.2.getD "") := by
  rw [keepFirst_eq_firsts, Entries.firsts_of_nodup]
  · rfl
  · rwa [List.map_map]

end Builder

/-! ## Where elements come from -/

mutual

/-- Every element of a tree satisfies a condition on its name, attributes and offset. -/
def Node.All (p : String → Entries String → Nat → Prop) : Node → Prop
  | ⟨name, attributes, offset, _, children⟩ => p name attributes offset ∧ Node.AllAmong p children

/-- Every element of some trees does. -/
def Node.AllAmong (p : String → Entries String → Nat → Prop) : List Node → Prop
  | [] => True
  | n :: rest => Node.All p n ∧ Node.AllAmong p rest

end

section Provenance

variable {p : String → Entries String → Nat → Prop}

theorem Node.allAmong_iff {nodes : List Node} :
    Node.AllAmong p nodes ↔ ∀ n ∈ nodes, n.All p := by
  induction nodes with
  | nil => simp [Node.AllAmong]
  | cons n rest ih => simp [Node.AllAmong, ih]

theorem Node.All.children {n : Node} (h : n.All p) : ∀ child ∈ n.children, child.All p := by
  cases n
  exact Node.allAmong_iff.1 h.2

theorem Node.All.self {n : Node} (h : n.All p) : p n.name n.attributes n.offset := by
  cases n
  exact h.1

mutual

theorem Node.All.named (wanted : String) :
    (n : Node) → n.All p → ∀ m ∈ Node.named wanted n, m.All p
  | ⟨name, attributes, offset, text, children⟩, h => by
    have hinner := Node.All.namedAmong wanted children h.2
    rw [Node.named]
    split
    · intro m hm
      rcases List.mem_cons.1 hm with rfl | hmem
      · exact h
      · exact hinner m hmem
    · exact hinner

theorem Node.All.namedAmong (wanted : String) :
    (nodes : List Node) → Node.AllAmong p nodes → ∀ m ∈ Node.namedAmong wanted nodes, m.All p
  | [], _ => by simp [Node.namedAmong]
  | n :: rest, h => by
    intro m hm
    rw [Node.namedAmong] at hm
    rcases List.mem_append.1 hm with hfirst | hrest
    · exact Node.All.named wanted n h.1 m hfirst
    · exact Node.All.namedAmong wanted rest h.2 m hrest

end

/-- The condition holds for everything in a tree under construction. -/
structure Builder.AllNodes (p : String → Entries String → Nat → Prop) (b : Builder) : Prop where
  stack : ∀ n ∈ b.stack, p n.name n.attributes n.offset ∧ ∀ child ∈ n.children, child.All p
  root : ∀ child ∈ b.root.children, child.All p

namespace Builder

theorem AllNodes.modifyTop {b : Builder} (h : b.AllNodes p) {f : OpenNode → OpenNode}
    (hself : ∀ n, (f n).name = n.name ∧ (f n).attributes = n.attributes ∧ (f n).offset = n.offset)
    (hchildren : ∀ n : OpenNode, (∀ child ∈ n.children, child.All p) →
      ∀ child ∈ (f n).children, child.All p) : (b.modifyTop f).AllNodes p := by
  obtain ⟨stack, root, pending, voids⟩ := b
  cases stack with
  | nil => exact ⟨h.stack, hchildren root h.root⟩
  | cons top below =>
    refine ⟨fun n hn => ?_, h.root⟩
    rcases List.mem_cons.1 hn with rfl | hmem
    · have htop := h.stack top (List.mem_cons_self ..)
      obtain ⟨hname, hattributes, hoffset⟩ := hself top
      rw [hname, hattributes, hoffset]
      exact ⟨htop.1, hchildren top htop.2⟩
    · exact h.stack n (List.mem_cons_of_mem _ hmem)

theorem AllNodes.addString {b : Builder} (h : b.AllNodes p) (s : List Char) :
    (b.addString s).AllNodes p :=
  h.modifyTop (fun _ => ⟨rfl, rfl, rfl⟩) fun _ hn => hn

theorem AllNodes.flush {b : Builder} (h : b.AllNodes p) : b.flush.AllNodes p := by
  unfold Builder.flush
  split
  · exact h
  · exact ⟨(h.addString b.pending).stack, (h.addString b.pending).root⟩

theorem AllNodes.pop {b : Builder} (h : b.AllNodes p) : b.pop.AllNodes p := by
  obtain ⟨stack, root, pending, voids⟩ := b
  cases stack with
  | nil => exact h
  | cons top below =>
    have htop := h.stack top (List.mem_cons_self ..)
    have hclosed : top.close.All p :=
      ⟨htop.1, Node.allAmong_iff.2 fun child hchild => htop.2 child (List.mem_reverse.1 hchild)⟩
    have hbelow : Builder.AllNodes p { stack := below, root, pending, closedVoids := voids } :=
      ⟨fun n hn => h.stack n (List.mem_cons_of_mem _ hn), h.root⟩
    refine hbelow.modifyTop (fun _ => ⟨rfl, rfl, rfl⟩) fun n hn child hchild => ?_
    rcases List.mem_cons.1 hchild with rfl | hmem
    · exact hclosed
    · exact hn child hmem

theorem AllNodes.popMany {b : Builder} (h : b.AllNodes p) (count : Nat) :
    (Builder.popMany count b).AllNodes p := by
  induction count generalizing b with
  | zero => exact h
  | succ count ih => exact ih h.pop

theorem AllNodes.popTo {b : Builder} (h : b.AllNodes p) (name : String) :
    (b.popTo name).AllNodes p := by
  unfold Builder.popTo
  split
  · exact h.popMany _
  · exact h

theorem AllNodes.openTag {b : Builder} (h : b.AllNodes p) {tag : StartTag} {offset : Nat}
    (htag : p tag.name (keepFirst tag.attributes) offset) : (b.openTag tag offset).AllNodes p := by
  have hpush : Builder.AllNodes p
      { b.flush with stack := opened tag offset :: b.flush.stack } := by
    refine ⟨fun n hn => ?_, h.flush.root⟩
    rcases List.mem_cons.1 hn with rfl | hmem
    · exact ⟨htag, by simp [opened]⟩
    · exact h.flush.stack n hmem
  unfold Builder.openTag
  dsimp only
  split
  · exact hpush.popTo tag.name
  · split
    · exact ⟨(hpush.popTo tag.name).stack, (hpush.popTo tag.name).root⟩
    · exact hpush

-- What the start tags satisfy, the elements satisfy.
theorem AllNodes.add {b : Builder} (h : b.AllNodes p) {token : Token}
    (htoken : ∀ tag offset, token = .startTag tag offset →
      p tag.name (keepFirst tag.attributes) offset) : (b.add token).AllNodes p := by
  cases token with
  | startTag tag offset => exact h.openTag (htoken tag offset rfl)
  | endTag name =>
    simp only [Builder.add, close]
    split
    · exact ⟨h.stack, h.root⟩
    · exact h.flush.popTo name
  | text s => exact ⟨h.stack, h.root⟩
  | comment s => exact h.flush
  | declaration s => exact h.flush.addString s

end Builder

/-- Every element of a document comes from a start tag with its name, attributes and offset. -/
theorem Node.all_ofTokens {tokens : List Token}
    (h : ∀ tag offset, Token.startTag tag offset ∈ tokens →
      p tag.name (Builder.keepFirst tag.attributes) offset) :
    Node.AllAmong p (Node.ofTokens tokens) := by
  have hfold : ∀ (tokens : List Token) (b : Builder), b.AllNodes p →
      (∀ tag offset, Token.startTag tag offset ∈ tokens →
        p tag.name (Builder.keepFirst tag.attributes) offset) →
      (tokens.foldl Builder.add b).AllNodes p := by
    intro tokens
    induction tokens with
    | nil => intro b hb _; exact hb
    | cons token rest ih =>
      intro b hb htokens
      refine ih _ (hb.add fun tag offset heq => ?_) fun tag offset hmem => ?_
      · exact htokens tag offset (heq ▸ List.mem_cons_self ..)
      · exact htokens tag offset (List.mem_cons_of_mem _ hmem)
  have hall := hfold tokens {} ⟨by simp, by simp⟩ h
  have hclosed := hall.flush.popMany (tokens.foldl Builder.add {}).flush.stack.length
  exact Node.allAmong_iff.2 fun n hn => hclosed.root n (List.mem_reverse.1 hn)

end Provenance

end HeadLint.Markup
