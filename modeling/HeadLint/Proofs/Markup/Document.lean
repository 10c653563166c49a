import HeadLint.Markup.Document

/-!
How a document comes from its text: tokens, trees, and the located elements of its heads.
-/

namespace HeadLint.Document

open Markup

/-- A document is read in two steps: tokens, then the located trees of its heads. -/
theorem parse_eq_ok_iff {html : String} {doc : Document} :
    parse html = .ok doc ↔
      ∃ tokens, lex (html.toList.drop (markLength html.toList)) = .ok tokens ∧
        doc = ⟨html, locateNodes html.toList (markLength html.toList)
          (Node.namedAmong "head" (Node.ofTokens tokens))⟩ := by
  simp only [parse]
  cases lex (html.toList.drop (markLength html.toList)) with
  | error fault => simp [bind, Except.bind]
  | ok tokens =>
    simp only [bind, Except.bind, Except.ok.injEq, exists_eq_left']
    exact eq_comm

theorem locateNodes_eq_map (source : List Char) (shift : Nat) (nodes : List Node) :
    locateNodes source shift nodes = nodes.map (locateNode source shift) := by
  induction nodes with
  | nil => rfl
  | cons n rest ih => rw [locateNodes, ih, List.map_cons]

theorem children_locateNode (source : List Char) (shift : Nat) (n : Node) :
    (locateNode source shift n).children = n.children.map (locateNode source shift) := by
  cases n
  rw [locateNode, locateNodes_eq_map]

end HeadLint.Document
