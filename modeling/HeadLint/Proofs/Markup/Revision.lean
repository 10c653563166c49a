import HeadLint.Proofs.Markup.Building

/-!
Trees under a change of attributes.  Building a tree looks at the names of elements only, so a
change of attributes may be made on the tokens or on the finished tree.
-/

namespace HeadLint.Markup

/-- A change of attributes, which may depend on the name of an element and on its offset. -/
abbrev Revision := String → Nat → Entries String → Entries String

/-- The attributes stay what they are. -/
def Revision.none : Revision := fun _ _ attributes => attributes

/-- A change that repeats no name and leaves what has no name as it is. -/
structure Revision.Proper (g : Revision) : Prop where
  nodup : ∀ name offset attributes, (Entries.keys attributes).Nodup →
    (Entries.keys (g name offset attributes)).Nodup
  root : g "" 0 [] = []

theorem Revision.none_proper : Revision.none.Proper :=
  ⟨fun _ _ _ h => h, rfl⟩

mutual

/-- A tree with its attributes changed and without its offsets. -/
def Node.revise (g : Revision) : Node → Node
  | ⟨name, attributes, offset, text, children⟩ =>
    ⟨name, g name offset attributes, 0, text, Node.reviseAll g children⟩

/-- Trees with their attributes changed and without their offsets. -/
def Node.reviseAll (g : Revision) : List Node → List Node
  | [] => []
  | n :: rest => Node.revise g n :: Node.reviseAll g rest

end

theorem Node.reviseAll_eq_map (g : Revision) (nodes : List Node) :
    Node.reviseAll g nodes = nodes.map (Node.revise g) := by
  induction nodes with
  | nil => rfl
  | cons n rest ih => rw [Node.reviseAll, ih, List.map_cons]

/-- An open element, changed likewise. -/
def OpenNode.revise (g : Revision) (n : OpenNode) : OpenNode :=
  { n with
    attributes := g n.name n.offset n.attributes
    offset := 0
    children := n.children.map (Node.revise g) }

/-- A tree under construction, changed likewise. -/
def Builder.revise (g : Revision) (b : Builder) : Builder :=
  { b with stack := b.stack.map (OpenNode.revise g), root := b.root.revise g }

/-- A start tag whose attributes are the given entries. -/
def StartTag.withEntries (tag : StartTag) (entries : Entries String) : StartTag :=
  { tag with attributes := entries.map fun entry => (entry.1, some entry.2) }

/-- A token, changed likewise. -/
def Token.revise (g : Revision) : Token → Token
  | .startTag tag offset =>
    .startTag (tag.withEntries (g tag.name offset (Builder.keepFirst tag.attributes))) 0
  | token => token

theorem OpenNode.close_revise (g : Revision) (n : OpenNode) :
    (n.revise g).close = n.close.revise g := by
  rw [OpenNode.close, OpenNode.close, Node.revise, Node.reviseAll_eq_map, List.map_reverse]
  rfl

namespace Builder

variable (g : Revision)

theorem revise_modifyTop {f f' : OpenNode → OpenNode} (b : Builder)
    (h : ∀ n : OpenNode, (f n).revise g = f' (n.revise g)) :
    (b.modifyTop f).revise g = (b.revise g).modifyTop f' := by
  obtain ⟨stack, root, pending, voids⟩ := b
  cases stack with
  | nil => simp [modifyTop, revise, h]
  | cons top below => simp [modifyTop, revise, h]

theorem preserves_revise (b : Builder) : (b.revise g).preserves = b.preserves := by
  simp only [preserves, revise, List.any_map]
  rfl

theorem revise_addString (s : List Char) (b : Builder) :
    (b.addString s).revise g = (b.revise g).addString s := by
  rw [addString, addString, preserves_revise]
  exact revise_modifyTop g b fun n => rfl

theorem revise_flush (b : Builder) : b.flush.revise g = (b.revise g).flush := by
  have hpending : (b.revise g).pending = b.pending := rfl
  rw [flush, flush, hpending]
  split
  · rfl
  · rw [← revise_addString]
    rfl

theorem revise_pop (b : Builder) : b.pop.revise g = (b.revise g).pop := by
  obtain ⟨stack, root, pending, voids⟩ := b
  cases stack with
  | nil => rfl
  | cons top below =>
    refine revise_modifyTop g { stack := below, root, pending, closedVoids := voids } fun n => ?_
    simp [OpenNode.revise, ← OpenNode.close_revise]

theorem revise_popMany (count : Nat) (b : Builder) :
    (popMany count b).revise g = popMany count (b.revise g) := by
  induction count generalizing b with
  | zero => rfl
  | succ count ih => rw [popMany, popMany, ih, revise_pop]

theorem revise_popTo (name : String) (b : Builder) :
    (b.popTo name).revise g = (b.revise g).popTo name := by
  have hfind : (b.revise g).stack.findIdx? (·.name == name) =
      b.stack.findIdx? (·.name == name) := by
    simp only [revise, List.findIdx?_map]
    rfl
  rw [popTo, popTo, hfind]
  split
  · exact revise_popMany g _ b
  · rfl

theorem revise_close (name : String) (b : Builder) :
    (b.close name).revise g = (b.revise g).close name := by
  have hvoids : (b.revise g).closedVoids = b.closedVoids := rfl
  rw [close, close, hvoids]
  split
  · rfl
  · rw [revise_popTo, revise_flush]

-- Every name is kept once.
theorem nodup_keepFirst (attributes : List (String × Option String)) :
    (Entries.keys (keepFirst attributes)).Nodup := by
  rw [keepFirst_eq_firsts]
  exact Entries.nodup_keys_firsts _

theorem keepFirst_withEntries (tag : StartTag) {entries : Entries String}
    (h : (Entries.keys entries).Nodup) :
    keepFirst (tag.withEntries entries).attributes = entries := by
  have hnodup : ((tag.withEntries entries).attributes.map (·.1)).Nodup := by
    simpa [StartTag.withEntries, Entries.keys, Function.comp_def] using h
  rw [keepFirst_of_nodup hnodup]
  simp [StartTag.withEntries, Function.comp_def]

variable {g}

theorem revise_openTag (hg : g.Proper) (tag : StartTag) (offset : Nat) (b : Builder) :
    (b.openTag tag offset).revise g =
      (b.revise g).openTag
        (tag.withEntries (g tag.name offset (keepFirst tag.attributes))) 0 := by
  have hkept :
      keepFirst (tag.withEntries (g tag.name offset (keepFirst tag.attributes))).attributes =
        g tag.name offset (keepFirst tag.attributes) := by
    apply keepFirst_withEntries
    exact hg.nodup _ _ _ (nodup_keepFirst tag.attributes)
  have hpush : Builder.revise g { b.flush with
      stack := { name := tag.name, attributes := keepFirst tag.attributes, offset } ::
        b.flush.stack } =
      { (b.revise g).flush with
        stack := { name := tag.name, attributes := g tag.name offset (keepFirst tag.attributes) } ::
          (b.revise g).flush.stack } := by
    rw [← revise_flush]
    rfl
  have hname : ∀ entries, (tag.withEntries entries).name = tag.name := fun _ => rfl
  have hending : ∀ entries, (tag.withEntries entries).ending = tag.ending := fun _ => rfl
  simp only [openTag, hkept, hname, hending]
  rw [← hpush]
  split
  · exact revise_popTo g tag.name _
  · split
    · rw [← revise_popTo]
      rfl
    · rfl

theorem revise_add (hg : g.Proper) (token : Token) (b : Builder) :
    (b.add token).revise g = (b.revise g).add (token.revise g) := by
  cases token with
  | startTag tag offset => exact revise_openTag hg tag offset b
  | endTag name => exact revise_close g name b
  | text s => rfl
  | comment s => exact revise_flush g b
  | declaration s =>
    simp only [add, Token.revise]
    rw [revise_addString, revise_flush]

theorem revise_foldl_add (hg : g.Proper) (tokens : List Token) (b : Builder) :
    (tokens.foldl add b).revise g = (tokens.map (Token.revise g)).foldl add (b.revise g) := by
  induction tokens generalizing b with
  | nil => rfl
  | cons token rest ih => rw [List.foldl_cons, ih, revise_add hg, List.map_cons, List.foldl_cons]

theorem revise_finish (b : Builder) : b.finish.map (Node.revise g) = (b.revise g).finish := by
  have hlength : (b.revise g).flush.stack.length = b.flush.stack.length := by
    rw [← revise_flush]
    simp [revise]
  simp only [finish]
  rw [hlength, ← revise_flush, ← revise_popMany, List.map_reverse]
  rfl

end Builder

/-- Changing the attributes of tokens changes the tree likewise. -/
theorem Node.ofTokens_revise {g : Revision} (hg : g.Proper) (tokens : List Token) :
    (Node.ofTokens tokens).map (Node.revise g) = Node.ofTokens (tokens.map (Token.revise g)) := by
  have hstart : Builder.revise g {} = {} := by
    simp [Builder.revise, OpenNode.revise, hg.root]
  rw [Node.ofTokens, Builder.revise_finish, Builder.revise_foldl_add hg, hstart]
  rfl

mutual

theorem Node.named_revise (g : Revision) (wanted : String) :
    (n : Node) → (Node.named wanted n).map (Node.revise g) = Node.named wanted (n.revise g)
  | ⟨name, attributes, offset, text, children⟩ => by
    have hinner := Node.namedAmong_revise g wanted children
    simp only [Node.named, Node.revise] at hinner ⊢
    rw [← hinner]
    split
    · rw [List.map_cons, Node.revise]
    · rfl

theorem Node.namedAmong_revise (g : Revision) (wanted : String) :
    (nodes : List Node) →
      (Node.namedAmong wanted nodes).map (Node.revise g) =
        Node.namedAmong wanted (Node.reviseAll g nodes)
  | [] => rfl
  | n :: rest => by
    rw [Node.namedAmong, List.map_append, Node.named_revise g wanted n,
      Node.namedAmong_revise g wanted rest, Node.reviseAll, Node.namedAmong]

end

end HeadLint.Markup
