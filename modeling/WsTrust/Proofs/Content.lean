import WsTrust.Token

/-!
# The content of an element

The children of an element are texts and elements in document order.  Where the
elements among them stand decides how their tokens fall apart.
-/

namespace WsTrust

namespace Node

theorem tokensOfAll_eq_flatMap (nodes : List Node) :
    tokensOfAll nodes = nodes.flatMap tokens := by
  induction nodes with
  | nil => rfl
  | cons node rest inductionHypothesis =>
      rw [tokensOfAll, inductionHypothesis, List.flatMap_cons]

theorem tokensOfAll_cons (node : Node) (rest : List Node) :
    tokensOfAll (node :: rest) = node.tokens ++ tokensOfAll rest := rfl

theorem tokensOfAll_append (left right : List Node) :
    tokensOfAll (left ++ right) = tokensOfAll left ++ tokensOfAll right := by
  simp only [tokensOfAll_eq_flatMap, List.flatMap_append]

/-- Elements as nodes are written one after another. -/
theorem tokensOfAll_map_toNode (elements : List Element) :
    tokensOfAll (elements.map Element.toNode) =
      elements.flatMap Element.tokens := by
  rw [tokensOfAll_eq_flatMap, List.flatMap_map]
  rfl

@[simp]
theorem toNode_of_element? {node : Node} {element : Element}
    (found : node.element? = some element) :
    element.toNode = node := by
  cases node with
  | text content => cases found
  | element name attributes children =>
      cases found
      rfl

/-- Nodes without an element among them are written as their texts. -/
theorem tokensOfAll_of_no_element {nodes : List Node}
    (noElement : nodes.filterMap element? = []) :
    tokensOfAll nodes = (nodes.filterMap text?).map Token.text := by
  induction nodes with
  | nil => rfl
  | cons node rest inductionHypothesis =>
      cases node with
      | text content =>
          have restHasNone : rest.filterMap element? = [] := by
            simpa [element?] using noElement
          rw [tokensOfAll_cons, inductionHypothesis restHasNone]
          rfl
      | element name attributes children =>
          simp [element?] at noElement

theorem tokensOfAll_map_text (texts : List String) :
    tokensOfAll (texts.map Node.text) = texts.map Token.text := by
  induction texts with
  | nil => rfl
  | cons head tail inductionHypothesis =>
      rw [List.map_cons, tokensOfAll_cons, inductionHypothesis]
      rfl

/-- Nodes without an element among them are texts. -/
theorem eq_map_text {nodes : List Node}
    (noElement : nodes.filterMap element? = []) :
    nodes = (nodes.filterMap text?).map Node.text := by
  induction nodes with
  | nil => rfl
  | cons node rest inductionHypothesis =>
      cases node with
      | text content =>
          have restHasNone : rest.filterMap element? = [] := by
            simpa [element?] using noElement
          have restTexts := inductionHypothesis restHasNone
          simpa [text?] using restTexts
      | element name attributes children =>
          simp [element?] at noElement

/-- Nodes are texts up to the first element among them. -/
theorem exists_texts_before_element
    {nodes : List Node} {first : Element} {others : List Element}
    (elements : nodes.filterMap element? = first :: others) :
    ∃ (texts : List String) (after : List Node),
      nodes = texts.map Node.text ++ first.toNode :: after := by
  obtain ⟨before, node, after, rfl, noneBefore, found, _⟩ :=
    List.filterMap_eq_cons_iff.mp elements
  have noElement : before.filterMap element? = [] :=
    List.filterMap_eq_nil_iff.mpr noneBefore
  refine ⟨before.filterMap text?, after, ?_⟩
  rw [← eq_map_text noElement, toNode_of_element? found]

/-- The first element among nodes, with the texts before it and the nodes after
it. -/
theorem exists_split_at_element
    {nodes : List Node} {first : Element} {others : List Element}
    (elements : nodes.filterMap element? = first :: others) :
    ∃ (texts : List String) (after : List Node),
      tokensOfAll nodes =
          texts.map Token.text ++ (first.tokens ++ tokensOfAll after) ∧
        after.filterMap element? = others := by
  obtain ⟨before, node, after, rfl, noneBefore, found, remaining⟩ :=
    List.filterMap_eq_cons_iff.mp elements
  have noElement : before.filterMap element? = [] :=
    List.filterMap_eq_nil_iff.mpr noneBefore
  refine ⟨before.filterMap text?, after, ?_, remaining⟩
  rw [tokensOfAll_append, tokensOfAll_of_no_element noElement,
    tokensOfAll_cons, ← toNode_of_element? found]
  rfl

end Node

namespace Element

def startTag (element : Element) : StartTag :=
  ⟨element.name, element.attributes⟩

theorem tokens_eq (element : Element) :
    element.tokens =
      .startTag element.startTag ::
        (Node.tokensOfAll element.children ++ [.endTag element.name]) :=
  rfl

theorem tokens_ne_nil (element : Element) : element.tokens ≠ [] :=
  List.cons_ne_nil _ _

end Element

end WsTrust
