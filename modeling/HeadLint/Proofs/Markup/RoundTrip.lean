import HeadLint.Proofs.Markup.Building
import HeadLint.Proofs.Markup.Document
import HeadLint.Proofs.Markup.ForestExtent

/-!
The text of a plain head reads back as that head: one head with the same elements, attributes and
nesting, and with source ranges that are exactly the texts of the elements and of the values.
-/

namespace HeadLint.Markup

open Text

/-! ## The trees of a plain head -/

/-- Attributes as entries. -/
def PlainAttributes.entries (attrs : PlainAttributes) : Entries String :=
  attrs.list.map fun a => (a.name, a.value)

/-- `Built offset forest nodes`: the nodes are those of the content that stands at `offset`, text
aside. -/
inductive Built : Nat → Forest → List Node → Prop where
  | done {offset : Nat} {gap : Gap} : Built offset (.done gap) []
  | single {offset : Nat} {gap : Gap} {tag : PlainTag singleNames} {attrs : PlainAttributes}
      {rest : Forest} {text : List Char} {nodes : List Node}
      (hrest : Built (offset + gap.text.length + (renderOpen tag.name attrs).length) rest nodes) :
      Built offset (.single gap tag attrs rest)
        (⟨tag.name, attrs.entries, offset + gap.text.length, text, []⟩ :: nodes)
  | wording {offset : Nat} {gap : Gap} {tag : PlainTag wordingNames} {attrs : PlainAttributes}
      {content : PlainText} {rest : Forest} {text : List Char} {nodes : List Node}
      (hrest : Built (offset + gap.text.length +
        (renderAround tag.name attrs content.text).length) rest nodes) :
      Built offset (.wording gap tag attrs content rest)
        (⟨tag.name, attrs.entries, offset + gap.text.length, text, []⟩ :: nodes)
  | group {offset : Nat} {gap : Gap} {tag : PlainTag groupNames} {attrs : PlainAttributes}
      {inner rest : Forest} {text : List Char} {children nodes : List Node}
      (hinner :
        Built (offset + gap.text.length + (renderOpen tag.name attrs).length) inner children)
      (hrest : Built (offset + gap.text.length +
        (renderAround tag.name attrs inner.render).length) rest nodes) :
      Built offset (.group gap tag attrs inner rest)
        (⟨tag.name, attrs.entries, offset + gap.text.length, text, children⟩ :: nodes)

open Builder

theorem keepFirst_plain (name : String) (attrs : PlainAttributes) :
    keepFirst (plainStartTag name attrs).attributes = attrs.entries := by
  have hnodup : ((plainStartTag name attrs).attributes.map (·.1)).Nodup := by
    simpa [plainStartTag, Function.comp_def] using attrs.nodup
  rw [keepFirst_of_nodup hnodup]
  simp [plainStartTag, PlainAttributes.entries]

theorem grown_textTokens (b : Builder) (s : List Char) :
    Grown b ((textTokens s).foldl Builder.add b) [] := by
  unfold textTokens
  split
  · exact Grown.refl b
  · exact grown_text b s

theorem grown_wordingTokens (b : Builder) (name : String) (s : List Char) :
    Grown b ((wordingTokens name s).foldl Builder.add b) [] := by
  unfold wordingTokens
  split
  · exact grown_text b s
  · exact grown_textTokens b s

theorem not_void_plain : ∀ name ∈ "head" :: (wordingNames ++ groupNames), name ∉ voidTags := by
  decide

/-- The tokens of a tree build that tree. -/
theorem Forest.exists_built (forest : Forest) {b : Builder}
    (hb : ∀ name ∈ b.closedVoids, name ∈ voidTags) (offset : Nat) :
    ∃ nodes, Grown b ((forest.tokens offset).foldl Builder.add b) nodes ∧
      Built offset forest nodes := by
  -- The tokens of a tree leave the builder as it was, but for the new nodes at its end.
  induction forest generalizing b offset with
  | done gap => exact ⟨[], grown_textTokens b gap.text, .done⟩
  | single gap tag attrs rest ih =>
    simp only [Forest.tokens, List.foldl_append, List.foldl_cons]
    have hvoid : ∀ name ∈ singleNames, name ∈ voidTags := by decide
    have helement : Grown _ (Builder.add _
        (.startTag (plainStartTag tag.name attrs) (offset + gap.text.length))) _ :=
      grown_void ((textTokens gap.text).foldl Builder.add b) _ rfl (hvoid tag.name tag.mem)
    have htag := (grown_textTokens b gap.text).trans helement
    rw [keepFirst_plain] at htag
    obtain ⟨nodes, hgrown, hbuilt⟩ := ih (htag.voids hb)
      (offset + gap.text.length + (renderOpen tag.name attrs).length)
    exact ⟨_, htag.trans hgrown, .single hbuilt⟩
  | wording gap tag attrs content rest ih =>
    simp only [Forest.tokens, List.foldl_append, List.foldl_cons]
    have hgap := grown_textTokens b gap.text
    have hcontent := grown_wordingTokens
      (((textTokens gap.text).foldl Builder.add b).add
        (.startTag (plainStartTag tag.name attrs) (offset + gap.text.length)))
      tag.name content.text
    obtain ⟨text, helement⟩ := grown_element (hgap.voids hb) rfl
      (not_void_plain tag.name (by simp [tag.mem])) hcontent
    have htag := hgap.trans helement
    rw [keepFirst_plain] at htag
    obtain ⟨nodes, hgrown, hbuilt⟩ := ih (htag.voids hb)
      (offset + gap.text.length + (renderAround tag.name attrs content.text).length)
    exact ⟨_, htag.trans hgrown, .wording hbuilt⟩
  | group gap tag attrs inner rest ihInner ihRest =>
    simp only [Forest.tokens, List.foldl_append, List.foldl_cons]
    have hgap := grown_textTokens b gap.text
    have hvoid := not_void_plain tag.name (by simp [tag.mem])
    have hopen : ∀ name ∈ (((textTokens gap.text).foldl Builder.add b).add
        (.startTag (plainStartTag tag.name attrs) (offset + gap.text.length))).closedVoids,
        name ∈ voidTags := by
      rw [add_startTag _ _ rfl hvoid]
      exact (hgap.trans (grown_flush _)).voids hb
    obtain ⟨children, hchildren, hinner⟩ := ihInner hopen
      (offset + gap.text.length + (renderOpen tag.name attrs).length)
    obtain ⟨text, helement⟩ := grown_element (hgap.voids hb) rfl hvoid hchildren
    have htag := hgap.trans helement
    rw [keepFirst_plain] at htag
    obtain ⟨nodes, hgrown, hbuilt⟩ := ihRest (htag.voids hb)
      (offset + gap.text.length + (renderAround tag.name attrs inner.render).length)
    exact ⟨_, htag.trans hgrown, .group hinner hbuilt⟩

-- No other head is among the elements of a plain head.
theorem Built.namedAmong {offset : Nat} {forest : Forest} {nodes : List Node}
    (h : Built offset forest nodes) : Node.namedAmong "head" nodes = [] := by
  have hne : ∀ name ∈ singleNames ++ wordingNames ++ groupNames, (name == "head") = false := by
    decide
  induction h with
  | done => rfl
  | @single _ _ tag _ _ _ _ _ ih =>
    simp [Node.namedAmong, Node.named, hne tag.name (by simp [tag.mem]), ih]
  | @wording _ _ tag _ _ _ _ _ _ ih =>
    simp [Node.namedAmong, Node.named, hne tag.name (by simp [tag.mem]), ih]
  | @group _ _ tag _ _ _ _ _ _ _ _ ihInner ihRest =>
    simp [Node.namedAmong, Node.named, hne tag.name (by simp [tag.mem]), ihInner, ihRest]

-- A head that is read as the only element of its document.
theorem finish_of_grown {b : Builder} {nodes : List Node} (h : Grown {} b nodes) :
    b.finish = nodes := by
  have hflush := h.trans (grown_flush b)
  rw [List.append_nil] at hflush
  obtain ⟨text, pending, voids, heq, -⟩ := hflush
  rw [finish, heq]
  simp [modifyTop, grow, popMany]

/-! ## What a document shows of a plain head -/

/-- `ShowsTag source name attrs text e`: the element has this name and these attributes, its source
range holds exactly `text`, and every attribute has a source range that holds exactly its value. -/
structure ShowsTag (source : List Char) (name : String) (attrs : PlainAttributes)
    (text : List Char) (e : Element) : Prop where
  tag : e.tag = name
  values : e.attrs = attrs.list.map fun a => (a.name, some a.value)
  span : ∃ start stop, e.span = some (spanOf source start stop) ∧ slice start stop source = text
  attrSpans : ∀ a ∈ attrs.list, ∃ start stop,
    e.attributeSpan? a.name = some (spanOf source start stop) ∧
      slice start stop source = a.value.toList

/-- `Shows source forest elements`: the elements are those of the content of a head or of a group,
one for one, with the same nesting. -/
inductive Shows (source : List Char) : Forest → List Element → Prop where
  | done {gap : Gap} : Shows source (.done gap) []
  | single {gap : Gap} {tag : PlainTag singleNames} {attrs : PlainAttributes} {rest : Forest}
      {e : Element} {more : List Element}
      (htag : ShowsTag source tag.name attrs (renderOpen tag.name attrs) e)
      (hchildren : e.children = []) (hrest : Shows source rest more) :
      Shows source (.single gap tag attrs rest) (e :: more)
  | wording {gap : Gap} {tag : PlainTag wordingNames} {attrs : PlainAttributes}
      {content : PlainText} {rest : Forest} {e : Element} {more : List Element}
      (htag : ShowsTag source tag.name attrs (renderAround tag.name attrs content.text) e)
      (hchildren : e.children = []) (hrest : Shows source rest more) :
      Shows source (.wording gap tag attrs content rest) (e :: more)
  | group {gap : Gap} {tag : PlainTag groupNames} {attrs : PlainAttributes}
      {inner rest : Forest} {e : Element} {more : List Element}
      (htag : ShowsTag source tag.name attrs (renderAround tag.name attrs inner.render) e)
      (hinner : Shows source inner e.children) (hrest : Shows source rest more) :
      Shows source (.group gap tag attrs inner rest) (e :: more)

theorem get?_of_mem {α : Type} {entries : Entries α} {key : String} {value : α}
    (hnodup : (Entries.keys entries).Nodup) (hmem : (key, value) ∈ entries) :
    Entries.get? key entries = some value := by
  induction entries with
  | nil => cases hmem
  | cons entry rest ih =>
    simp only [Entries.keys, List.map_cons, List.nodup_cons] at hnodup
    rcases List.mem_cons.1 hmem with rfl | hrest
    · simp [Entries.get?]
    · have hne : (entry.1 == key) = false := by
        rw [beq_eq_false_iff_ne]
        exact fun heq => hnodup.1 (heq ▸ List.mem_map_of_mem hrest)
      have hget := ih hnodup.2 hrest
      simp only [Entries.get?, List.find?_cons, hne] at hget ⊢
      exact hget

open Document

-- An element whose end is found is shown with all its ranges.
theorem showsTag_locateNode {source rest text rest' : List Char} {start : Nat} {name : String}
    (hname : name ∈ plainNames) {attrs : PlainAttributes}
    (hopen : source.drop start = renderOpen name attrs ++ rest)
    (hend : extentEnd source name (start + 1 + name.toList.length)
      (renderAttributes attrs.list ++ '>' :: rest) = start + text.length)
    (htext : source.drop start = text ++ rest') (content : List Char) (children : List Node) :
    ShowsTag source name attrs text
      (locateNode source 0 ⟨name, attrs.entries, start, content, children⟩) := by
  have hlocate := locate?_eq_some_iff.2 ⟨_, _, opensTag_plain hname attrs hopen, rfl⟩
  -- The names differ, so every range is the first of its name.
  have hnodup : ((plainRanges (start + 1 + name.toList.length) attrs.list).map (·.1)).Nodup := by
    rw [map_name_plainRanges]
    exact attrs.nodup
  rw [attributeRanges_plain, firstRanges_eq_firsts, Entries.firsts_of_nodup hnodup, hend] at hlocate
  refine ⟨?_, ?_, ?_, ?_⟩
  · rw [locateNode]
  · simp [locateNode, PlainAttributes.entries]
  · refine ⟨start, start + text.length, ?_, slice_of_drop htext⟩
    rw [locateNode, Nat.add_zero, hlocate]
    rfl
  · intro a ha
    have hdrop : source.drop (start + 1 + name.toList.length) =
        renderAttributes attrs.list ++ '>' :: rest := by
      have hsplit : source.drop start =
          ('<' :: name.toList) ++ (renderAttributes attrs.list ++ '>' :: rest) := by
        rw [hopen]
        simp [renderOpen]
      have hbehind := drop_add_of_drop hsplit
      rwa [List.length_cons, Nat.add_comm name.toList.length, ← Nat.add_assoc] at hbehind
    obtain ⟨lo, hi, hmem, hslice⟩ := exists_mem_plainRanges hdrop ha
    refine ⟨lo, hi, ?_, hslice⟩
    have hlower : lowered a.name = a.name := by
      rw [lowered, a.lower_name, String.ofList_toList]
    rw [locateNode, Nat.add_zero, hlocate, Element.attributeSpan?, hlower]
    apply get?_of_mem
    · simpa [Entries.keys, Function.comp_def] using hnodup
    · exact List.mem_map.2 ⟨_, hmem, rfl⟩

-- The located nodes of a tree show the tree.
theorem Built.shows {source rest : List Char} {offset : Nat} {forest : Forest} {nodes : List Node}
    (h : Built offset forest nodes) (hsource : source.drop offset = forest.render ++ rest) :
    Shows source forest (nodes.map (locateNode source 0)) := by
  -- Each element ends where its rendering ends; what follows is the rest for the next one.
  induction h generalizing rest with
  | done => exact .done
  | @single offset gap tag attrs more text nodes hrest ih =>
    rw [Forest.render, List.append_assoc, List.append_assoc] at hsource
    have hopen := drop_add_of_drop hsource
    refine .single (showsTag_locateNode (mem_plainNames_of_single tag.mem) hopen
      (elementEnd_single tag attrs hopen) hopen _ _) ?_ (ih (drop_add_of_drop hopen))
    rw [children_locateNode]
    rfl
  | @wording offset gap tag attrs content more text nodes hrest ih =>
    rw [Forest.render, List.append_assoc, List.append_assoc] at hsource
    have htext := drop_add_of_drop hsource
    have hopen := htext
    rw [renderAround, List.append_assoc, List.append_assoc] at hopen
    refine .wording (showsTag_locateNode (mem_plainNames_of_wording tag.mem) hopen
      (elementEnd_wording tag attrs content htext) htext _ _) ?_ (ih (drop_add_of_drop htext))
    rw [children_locateNode]
    rfl
  | @group offset gap tag attrs inner more text children nodes hinner hrest ihInner ihRest =>
    rw [Forest.render, List.append_assoc, List.append_assoc] at hsource
    have htext := drop_add_of_drop hsource
    have hopen := htext
    rw [renderAround, List.append_assoc, List.append_assoc] at hopen
    have hnested : tag.name ∈ nestedNames := by simp [nestedNames, tag.mem]
    refine .group (showsTag_locateNode (mem_plainNames_of_group tag.mem) hopen
      (elementEnd_group hnested attrs inner htext) htext _ _) ?_ (ihRest (drop_add_of_drop htext))
    rw [children_locateNode]
    exact ihInner (drop_add_of_drop hopen)

/-! ## The head itself -/

/-- The tokens of a plain head. -/
def Forest.headTokens (forest : Forest) : List Token :=
  .startTag (plainStartTag "head" .none) 0 ::
    (forest.tokens (renderOpen "head" .none).length ++ [.endTag "head"])

theorem lex_renderHead (forest : Forest) : lex forest.renderHead = .ok forest.headTokens := by
  have hhead : "head" ∈ plainNames := by decide
  have hraw := rawTextTags_of_markup "head" (by decide)
  rw [lex, Forest.renderHead, renderAround, lexFrom_renderOpen hhead,
    modeAfter_of_not_raw _ _ hraw, ← List.append_nil (renderClose "head"),
    forest.lexFrom_render (head?_renderClose ..), lexFrom_renderClose hhead, Nat.zero_add]
  simp [lexFrom, Except.map, Forest.headTokens]

-- The only head is the outermost element.
theorem Forest.exists_headNode (forest : Forest) :
    ∃ text nodes, Node.namedAmong "head" (Node.ofTokens forest.headTokens) =
        [⟨"head", PlainAttributes.none.entries, 0, text, nodes⟩] ∧
      Built (renderOpen "head" .none).length forest nodes := by
  obtain ⟨nodes, hgrown, hbuilt⟩ := forest.exists_built
    (b := ({} : Builder).add (.startTag (plainStartTag "head" .none) 0)) (by decide)
    (renderOpen "head" .none).length
  obtain ⟨text, hhead⟩ := grown_element (b := {}) (by simp) rfl
    (not_void_plain "head" (by decide)) hgrown
  rw [keepFirst_plain] at hhead
  refine ⟨text, nodes, ?_, hbuilt⟩
  have htree : Node.ofTokens forest.headTokens =
      [⟨"head", PlainAttributes.none.entries, 0, text, nodes⟩] := by
    rw [Node.ofTokens, Forest.headTokens, List.foldl_cons, List.foldl_append]
    exact finish_of_grown hhead
  rw [htree]
  simp [Node.namedAmong, Node.named, hbuilt.namedAmong]

/-- Reading the text of a plain head gives exactly one head, which shows the tree: the same names,
attributes, values and nesting, and source ranges that hold exactly the text of each element and of
each value. -/
theorem parse_renderHead (forest : Forest) :
    ∃ head, Document.parse (String.ofList forest.renderHead) =
        .ok ⟨String.ofList forest.renderHead, [head]⟩ ∧
      ShowsTag forest.renderHead "head" .none forest.renderHead head ∧
      Shows forest.renderHead forest head.children := by
  have hmark : markLength forest.renderHead = 0 := rfl
  obtain ⟨text, nodes, htree, hbuilt⟩ := forest.exists_headNode
  have htext : forest.renderHead.drop 0 = renderAround "head" .none forest.render ++ [] := by
    rw [List.drop_zero, List.append_nil, Forest.renderHead]
  have hopen := htext
  rw [renderAround, List.append_assoc, List.append_assoc] at hopen
  have hbehind := drop_add_of_drop hopen
  rw [Nat.zero_add] at hbehind
  refine ⟨locateNode forest.renderHead 0 ⟨"head", PlainAttributes.none.entries, 0, text, nodes⟩,
    ?_, ?_, ?_⟩
  · rw [parse_eq_ok_iff, String.toList_ofList, hmark, List.drop_zero]
    refine ⟨forest.headTokens, lex_renderHead forest, ?_⟩
    rw [htree, locateNodes_eq_map]
    rfl
  · exact showsTag_locateNode (by decide) hopen (elementEnd_group (by decide) .none forest htext)
      htext text nodes
  · rw [children_locateNode]
    exact hbuilt.shows hbehind

end HeadLint.Markup
