import WsTrust.Element.Written
import WsTrust.Proofs.Escaping
import WsTrust.Proofs.TextRuns

/-!
# Joined texts

Joining the texts of an element that stand side by side changes neither the
text that the element is read as nor what it is written as.  How the texts
between two of its tags are divided is exactly what is lost.
-/

namespace WsTrust

namespace Node

/-! ## Joining more nodes -/

/-- The nodes in front of others; two texts that meet are joined. -/
def prependAll (nodes others : List Node) : List Node :=
  nodes.foldr prepend others

theorem prependAll_prepend (node : Node) (nodes others : List Node) :
    prependAll (prepend node nodes) others =
      prepend node (prependAll nodes others) := by
  cases node with
  | element name attributes children => rfl
  | text content =>
      cases nodes with
      | nil => rfl
      | cons first rest =>
          cases first with
          | element name attributes children => rfl
          | text following =>
              exact (prepend_text_prepend_text content following _).symm

theorem joinTextsAll_append (first second : List Node) :
    joinTextsAll (first ++ second) =
      prependAll (joinTextsAll first) (joinTextsAll second) := by
  induction first with
  | nil => rfl
  | cons node rest inductionHypothesis =>
      rw [List.cons_append, joinTextsAll, inductionHypothesis, joinTextsAll,
        prependAll_prepend]

/-- Texts that stand side by side are joined to one. -/
theorem joinTextsAll_texts (first : String) (others : List String) :
    joinTextsAll ((first :: others).map .text) =
      [.text (String.join (first :: others))] := by
  induction others generalizing first with
  | nil => simp [joinTextsAll, joinTexts, prepend]
  | cons second rest inductionHypothesis =>
      rw [List.map_cons, joinTextsAll, joinTexts, inductionHypothesis second,
        prepend, ← String.join_cons]

/-! ## What is written -/

theorem writtenAll_prepend (node : Node) (nodes : List Node) :
    writtenAll (prepend node nodes) = node.written ++ writtenAll nodes := by
  cases node with
  | element name attributes children => rfl
  | text content =>
      cases nodes with
      | nil => rfl
      | cons first rest =>
          cases first with
          | element name attributes children => rfl
          | text following =>
              simp only [prepend, writtenAll, written, String.toList_append,
                Xml.escape_append, List.append_assoc]

theorem prepend_ne_nil (node : Node) (nodes : List Node) :
    prepend node nodes ≠ [] := by
  rw [prepend.eq_def]
  split <;> exact List.cons_ne_nil _ _

/-- An element with children is written as its tags around what they are
written as. -/
theorem written_element
    (name : QName) (attributes : List Attribute) {children : List Node}
    (some : children ≠ []) :
    (element name attributes children).written =
      ['<'] ++ name.written.toList ++ attributes.flatMap Attribute.written ++
        ['>'] ++ writtenAll children ++ ['<', '/'] ++ name.written.toList ++
        ['>'] := by
  cases children with
  | nil => exact absurd rfl some
  | cons first rest =>
      simp only [written, writtenAll, List.append_assoc]

mutual

theorem written_joinTexts (node : Node) :
    node.joinTexts.written = node.written := by
  cases node with
  | text content => rfl
  | element name attributes children =>
      cases children with
      | nil => rfl
      | cons first rest =>
          have same := writtenAll_joinTextsAll (first :: rest)
          rw [joinTextsAll] at same
          rw [joinTexts, joinTextsAll, written_element _ _ (prepend_ne_nil _ _),
            written_element _ _ (List.cons_ne_nil first rest), same]

theorem writtenAll_joinTextsAll (nodes : List Node) :
    writtenAll (joinTextsAll nodes) = writtenAll nodes := by
  cases nodes with
  | nil => rfl
  | cons node rest =>
      rw [joinTextsAll, writtenAll_prepend, written_joinTexts node,
        writtenAll_joinTextsAll rest, writtenAll]

end

/-! ## What is read -/

theorem join_texts_cons (node : Node) (nodes : List Node) :
    String.join ((node :: nodes).filterMap text?) =
      node.text?.getD "" ++ String.join (nodes.filterMap text?) := by
  rw [List.filterMap_cons]
  cases node with
  | text content => exact String.join_cons
  | element name attributes children => exact String.empty_append.symm

theorem join_texts_prepend (node : Node) (nodes : List Node) :
    String.join ((prepend node nodes).filterMap text?) =
      node.text?.getD "" ++ String.join (nodes.filterMap text?) := by
  cases node with
  | element name attributes children => exact join_texts_cons _ nodes
  | text content =>
      cases nodes with
      | nil => exact join_texts_cons _ []
      | cons first rest =>
          cases first with
          | element name attributes children => exact join_texts_cons _ _
          | text following =>
              rw [prepend, join_texts_cons, join_texts_cons]
              exact String.append_assoc

theorem text?_joinTexts (node : Node) : node.joinTexts.text? = node.text? := by
  cases node with
  | text content => rfl
  | element name attributes children => rfl

theorem join_texts_joinTextsAll (nodes : List Node) :
    String.join ((joinTextsAll nodes).filterMap text?) =
      String.join (nodes.filterMap text?) := by
  induction nodes with
  | nil => rfl
  | cons node rest inductionHypothesis =>
      rw [joinTextsAll, join_texts_prepend, inductionHypothesis,
        text?_joinTexts, join_texts_cons]

end Node

namespace Element

variable (element : Element)

/-- Joining texts does not change what an element is written as. -/
theorem toXml_joinTexts : element.joinTexts.toXml = element.toXml :=
  congrArg String.ofList (Node.written_joinTexts element.toNode)

/-- Joining texts does not change the text of an element. -/
theorem text_joinTexts : element.joinTexts.text = element.text :=
  Node.join_texts_joinTextsAll element.children

end Element

end WsTrust
