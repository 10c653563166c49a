import HeadLint.Proofs.Markup.Document
import HeadLint.Proofs.Markup.Slot

/-!
Documents with one value changed.  The outline of an element is what a document says of it apart
from where it stands; another value in its place changes the outlines by that value alone.
-/

namespace HeadLint

open Markup Text

/-! ## Outlines -/

namespace Element

/-- What becomes of the attributes of an element, given its span. -/
abbrev Change := Option Span → Entries (Option String) → Entries (Option String)

/-- The attributes stay what they are. -/
def keep : Change := fun _ attrs => attrs

/-- The attribute `key` of the element at a span is set. -/
def setAt (target : Option Span) (key value : String) : Change := fun span attrs =>
  if span = target then Entries.put key (some value) attrs else attrs

mutual

/-- An element without its source ranges and with its attributes changed. -/
def outline (change : Change) : Element → Element
  | ⟨tag, attrs, text, children, span, _⟩ =>
    { tag, attrs := change span attrs, text, children := outlineAll change children }

/-- The outlines of a list of elements. -/
def outlineAll (change : Change) : List Element → List Element
  | [] => []
  | e :: rest => outline change e :: outlineAll change rest

end

theorem outlineAll_eq_map (change : Change) (elements : List Element) :
    outlineAll change elements = elements.map (outline change) := by
  induction elements with
  | nil => rfl
  | cons e rest ih => rw [outlineAll, ih, List.map_cons]

theorem attrs_outline (change : Change) (e : Element) :
    (e.outline change).attrs = change e.span e.attrs := by
  cases e
  rfl

theorem children_outline (change : Change) (e : Element) :
    (e.outline change).children = e.children.map (outline change) := by
  cases e
  exact outlineAll_eq_map change _

end Element

namespace Document

open Element

/-- The attributes of a tree as those of an element. -/
def elementAttrs (attributes : Entries String) : Entries (Option String) :=
  attributes.map fun (key, value) => (key, some value)

theorem elementAttrs_put (key value : String) (attributes : Entries String) :
    elementAttrs (Entries.put key value attributes) =
      Entries.put key (some value) (elementAttrs attributes) := by
  induction attributes with
  | nil => rfl
  | cons entry rest ih =>
    obtain ⟨k, v⟩ := entry
    simp only [elementAttrs, List.map_cons, Entries.put] at ih ⊢
    split
    · rfl
    · rw [List.map_cons, ih]

/-- A change of elements and a change of trees that do the same. -/
def Agrees (source : List Char) (shift : Nat) (change : Change) (g : Revision) : Prop :=
  ∀ name offset attributes,
    change ((locate? source name (offset + shift)).map (·.1)) (elementAttrs attributes) =
      elementAttrs (g name offset attributes)

mutual

theorem outline_locateNode {source : List Char} {shift : Nat} {change : Change} {g : Revision}
    (h : Agrees source shift change g) : (n : Node) →
      (locateNode source shift n).outline change = locateNode [] 0 (n.revise g)
  | ⟨name, attributes, offset, text, children⟩ => by
    have hnone : ∀ start, locate? [] name start = none := by
      intro start
      simp [locate?, after?]
    have hchildren := outlineAll_locateNodes h children
    have hattrs := h name offset attributes
    rw [elementAttrs, elementAttrs] at hattrs
    simp only [locateNode, outline, Node.revise, hchildren, hattrs, hnone, Option.map_none,
      Option.getD_none]

theorem outlineAll_locateNodes {source : List Char} {shift : Nat} {change : Change} {g : Revision}
    (h : Agrees source shift change g) : (nodes : List Node) →
      outlineAll change (locateNodes source shift nodes) = locateNodes [] 0 (Node.reviseAll g nodes)
  | [] => rfl
  | n :: rest => by
    rw [locateNodes, outlineAll, outline_locateNode h n, outlineAll_locateNodes h rest,
      Node.reviseAll, locateNodes]

end

-- The outlines of the heads, from the tokens.
theorem map_outline_heads {source : List Char} {shift : Nat} {change : Change} {g : Revision}
    (h : Agrees source shift change g) (hg : g.Proper) (tokens : List Token) :
    (locateNodes source shift (Node.namedAmong "head" (Node.ofTokens tokens))).map
        (outline change) =
      (Node.namedAmong "head" (Node.ofTokens (tokens.map (Token.revise g)))).map
        (locateNode [] 0) := by
  rw [← outlineAll_eq_map, outlineAll_locateNodes h, locateNodes_eq_map, Node.reviseAll_eq_map,
    Node.namedAmong_revise, Node.reviseAll_eq_map, Node.ofTokens_revise hg]

theorem agrees_keep (source : List Char) (shift : Nat) : Agrees source shift keep .none :=
  fun _ _ _ => rfl

/-! ## Setting one value -/

/-- The change of trees that belongs to `setAt`. -/
def resetAt (source : List Char) (shift : Nat) (target : Option Span) (key value : String) :
    Revision := fun name offset attributes =>
  if (locate? source name (offset + shift)).map (·.1) = target then
    Entries.put key value attributes
  else attributes

theorem agrees_setAt (source : List Char) (shift : Nat) (target : Option Span)
    (key value : String) :
    Agrees source shift (setAt target key value) (resetAt source shift target key value) := by
  intro name offset attributes
  simp only [setAt, resetAt]
  split
  · rw [elementAttrs_put]
  · rfl

-- An element is located where its start tag stands.
theorem start_of_locate? {source : List Char} {name : String} {start : Nat} {span : Span}
    (h : (locate? source name start).map (·.1) = some span) : span.start = start := by
  obtain ⟨found, hfound, rfl⟩ := Option.map_eq_some_iff.1 h
  obtain ⟨run, rest, -, rfl⟩ := locate?_eq_some_iff.1 hfound
  rfl

theorem locate?_empty (source : List Char) (start : Nat) : locate? source "" start = none := by
  cases h : locate? source "" start with
  | none => rfl
  | some found =>
    obtain ⟨run, rest, hopens, -⟩ := locate?_eq_some_iff.1 h
    have hname : lower run = [] := by
      have htexts := congrArg String.toList hopens.name_eq
      rwa [String.toList_ofList, lowered, String.toList_ofList] at htexts
    exact absurd (lower_eq_nil_iff.1 hname) hopens.ne_nil

theorem resetAt_proper (source : List Char) (shift : Nat) (span : Span) (key value : String) :
    (resetAt source shift (some span) key value).Proper := by
  constructor
  · intro name offset attributes h
    rw [resetAt]
    split
    · exact Entries.nodup_keys_put key value attributes h
    · exact h
  · rw [resetAt, locate?_empty, if_neg (by simp)]

theorem resetAt_of_ne {source : List Char} {shift offset : Nat} {span : Span}
    (hspan : span.start = ((offset + shift : Nat) : Int)) (key value name : String) (n : Nat)
    (attributes : Entries String) (hne : n ≠ offset) :
    resetAt source shift (some span) key value name n attributes = attributes := by
  rw [resetAt, if_neg]
  intro hlocate
  have hstart := start_of_locate? hlocate
  omega

/-! ## Elements and their start tags -/

theorem span_locateNode (source : List Char) (shift : Nat) (n : Node) :
    (locateNode source shift n).span =
      (locate? source n.name (n.offset + shift)).map (·.1) := by
  cases n
  rfl

theorem attrSpans_locateNode (source : List Char) (shift : Nat) (n : Node) :
    (locateNode source shift n).attrSpans =
      ((locate? source n.name (n.offset + shift)).map (·.2)).getD [] := by
  cases n
  rfl

theorem attrs_locateNode (source : List Char) (shift : Nat) (n : Node) :
    (locateNode source shift n).attrs = elementAttrs n.attributes := by
  cases n
  rfl

/-- An element that rules report on: a head or one of its children. -/
def Has (doc : Document) (e : Element) : Prop :=
  ∃ head ∈ doc.heads, e = head ∨ e ∈ head.children

-- An element comes from a start tag of the text.
theorem exists_startTag_of_has {html : String} {source : List Char} {shift : Nat}
    {tokens : List Token} {e : Element}
    (h : Has ⟨html, locateNodes source shift (Node.namedAmong "head" (Node.ofTokens tokens))⟩ e) :
    ∃ n tag, e = locateNode source shift n ∧ Token.startTag tag n.offset ∈ tokens ∧
      tag.name = n.name := by
  have hall : Node.AllAmong (fun name _ offset => ∃ tag,
      Token.startTag tag offset ∈ tokens ∧ tag.name = name) (Node.ofTokens tokens) :=
    Node.all_ofTokens fun tag offset hmem => ⟨tag, hmem, rfl⟩
  obtain ⟨head, hhead, he⟩ := h
  rw [locateNodes_eq_map] at hhead
  obtain ⟨m, hm, rfl⟩ := List.mem_map.1 hhead
  have hnode := Node.All.namedAmong "head" _ hall m hm
  rcases he with rfl | hchild
  · obtain ⟨tag, htag⟩ := hnode.self
    exact ⟨m, tag, rfl, htag⟩
  · rw [children_locateNode] at hchild
    obtain ⟨n, hn, rfl⟩ := List.mem_map.1 hchild
    obtain ⟨tag, htag⟩ := (hnode.children n hn).self
    exact ⟨n, tag, rfl, htag⟩

/-! ## Another value in a slot -/

theorem markLength_le (source : List Char) : markLength source ≤ source.length := by
  unfold markLength
  split
  · rename_i hmark
    cases source with
    | nil => cases hmark
    | cons c rest => exact Nat.succ_le_succ (Nat.zero_le _)
  · exact Nat.zero_le _

/-- A slot without the mark of byte order at the start of its text. -/
def unmarked (slot : Slot) : Slot :=
  { slot with front := slot.front.drop (markLength slot.front) }

theorem markLength_fill (slot : Slot) (value : List Char) :
    markLength (slot.fill value) = markLength slot.front := by
  rw [markLength, markLength, Slot.fill]
  cases slot.front with
  | nil => rfl
  | cons c front => rfl

theorem drop_markLength_fill (slot : Slot) (value : List Char) :
    (slot.fill value).drop (markLength (slot.fill value)) = (unmarked slot).fill value := by
  rw [markLength_fill, Slot.fill, List.drop_append_of_le_length (markLength_le _)]
  rfl

theorem length_unmarked_front (slot : Slot) :
    (unmarked slot).front.length + markLength slot.front = slot.front.length := by
  have hle := markLength_le slot.front
  rw [unmarked, List.length_drop]
  omega

/-- With a new value in the slot of an attribute, the document says the same but for that value,
which is read with its references replaced. -/
theorem parse_fill {html : String} {doc : Document} {e : Element} {span : Span} {slot : Slot}
    {old new : List Char} (hparse : parse html = .ok doc) (he : doc.Has e)
    (hspan : e.span = some span) (hstart : span.start = slot.front.length)
    (hhtml : html.toList = slot.fill old) (hproper : slot.Proper)
    (halike : (unmarked slot).ReadAlike old new) :
    (∀ overflow, firstOverflow? new = some overflow →
      parse (String.ofList (slot.fill new)) = .error (.tooManyDigits overflow)) ∧
    (firstOverflow? new = none → ∃ doc', parse (String.ofList (slot.fill new)) = .ok doc' ∧
      doc'.heads.map (outline keep) =
        doc.heads.map (outline (setAt e.span slot.key (String.ofList (unescape new))))) := by
  obtain ⟨tokens, hlex, rfl⟩ := parse_eq_ok_iff.1 hparse
  obtain ⟨n, tag, rfl, hmem, hname⟩ := exists_startTag_of_has he
  -- The slot is that of the start tag from which the element comes.
  have hlocate : (locate? html.toList n.name (n.offset + markLength html.toList)).map (·.1) =
      some span := by
    rw [← hspan, span_locateNode]
  have hoffset : n.offset = (unmarked slot).front.length := by
    have hlength := length_unmarked_front slot
    have hshown := start_of_locate? hlocate
    rw [hhtml, markLength_fill] at hshown
    omega
  rw [hhtml, drop_markLength_fill] at hlex
  rw [hoffset] at hmem
  obtain ⟨hoverflow, hfine⟩ := halike.lex ⟨hproper.name, hproper.link, hproper.quotes⟩ hlex hmem
  constructor
  · intro overflow hsome
    rw [parse, String.toList_ofList, drop_markLength_fill, hoverflow overflow hsome]
    rfl
  · intro hnone
    obtain ⟨tokens', hlex', hrevise⟩ := hfine hnone
    refine ⟨⟨String.ofList (slot.fill new), _⟩, parse_eq_ok_iff.2 ⟨tokens', ?_, rfl⟩, ?_⟩
    · rw [String.toList_ofList, drop_markLength_fill, hlex']
    · -- No other start tag stands at this offset, so only this element is changed.
      have hfirst := start_of_locate? hlocate
      have hsame := hrevise
        (resetAt html.toList (markLength html.toList) (some span) slot.key
          (String.ofList (unescape new)))
        (fun name k attributes hne => resetAt_of_ne (by rw [hfirst, hoffset]) _ _ _ _ _ hne)
        (by rw [resetAt, if_pos (by rw [hname, ← hoffset, hlocate])]; rfl)
      rw [hspan, map_outline_heads (agrees_keep _ _) Revision.none_proper,
        map_outline_heads (agrees_setAt _ _ _ _ _) (resetAt_proper _ _ _ _ _), hsame]

-- Different values of an attribute show in the outlines.
theorem eq_of_map_outline {doc : Document} {e : Element} {key value value' : String}
    (he : doc.Has e)
    (h : doc.heads.map (outline (setAt e.span key value)) =
      doc.heads.map (outline (setAt e.span key value'))) : value = value' := by
  obtain ⟨head, hhead, hin⟩ := he
  have heads := List.map_inj_left.1 h head hhead
  have hself : e.outline (setAt e.span key value) = e.outline (setAt e.span key value') := by
    rcases hin with rfl | hchild
    · exact heads
    · have hchildren := congrArg Element.children heads
      rw [children_outline, children_outline] at hchildren
      exact List.map_inj_left.1 hchildren e hchild
  -- The look-up of the attribute tells the two values apart.
  have hattrs := congrArg Element.attrs hself
  rw [attrs_outline, attrs_outline] at hattrs
  simp only [setAt, if_true] at hattrs
  have hget := congrArg (Entries.get? key) hattrs
  rw [Entries.get?_put, Entries.get?_put, if_pos rfl, if_pos rfl] at hget
  exact Option.some.inj (Option.some.inj hget)

/-- The document says the same but for the new value exactly when the value has no references in
it. -/
theorem parse_fill_iff {html : String} {doc : Document} {e : Element} {span : Span} {slot : Slot}
    {old new : List Char} (hparse : parse html = .ok doc) (he : doc.Has e)
    (hspan : e.span = some span) (hstart : span.start = slot.front.length)
    (hhtml : html.toList = slot.fill old) (hproper : slot.Proper)
    (halike : (unmarked slot).ReadAlike old new) :
    (∃ doc', parse (String.ofList (slot.fill new)) = .ok doc' ∧
      doc'.heads.map (outline keep) =
        doc.heads.map (outline (setAt e.span slot.key (String.ofList new)))) ↔
      firstOverflow? new = none ∧ unescape new = new := by
  obtain ⟨hoverflow, hfine⟩ := parse_fill hparse he hspan hstart hhtml hproper halike
  constructor
  · rintro ⟨doc', hparse', houtlines⟩
    cases hnew : firstOverflow? new with
    | some overflow =>
      rw [hoverflow overflow hnew] at hparse'
      cases hparse'
    | none =>
      obtain ⟨found, hfound, houtlines'⟩ := hfine hnew
      obtain rfl := Except.ok.inj (hfound.symm.trans hparse')
      have hvalue := eq_of_map_outline he (houtlines'.symm.trans houtlines)
      exact ⟨rfl, String.ofList_injective hvalue⟩
  · rintro ⟨hnone, hself⟩
    obtain ⟨found, hfound, houtlines⟩ := hfine hnone
    rw [hself] at houtlines
    exact ⟨found, hfound, houtlines⟩

end Document

end HeadLint
