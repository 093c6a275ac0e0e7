import WsTrust.Proofs.StartTags
import WsTrust.Proofs.TextRuns
import WsTrust.Xml.Document

/-!
# The items of a written fragment

A fragment that is written out is divided into its tags and its runs of text
again.  Each start tag stands for itself or for a fault, under the scope of
the tags around it; nothing else can be wrong with what is written.
-/

namespace WsTrust

/-! ## Items of characters -/

namespace Xml

def itemsFrom (nesting : Nesting) (characters : List Char) : List Item :=
  itemsOfPieces nesting (pieces characters).items ++
    ((pieces characters).fault.map fun flaw =>
      Item.fault (.markup flaw)).toList

theorem itemsFrom_nil (nesting : Nesting) : itemsFrom nesting [] = [] := by
  rw [itemsFrom, pieces]
  rfl

theorem itemsFrom_of_pieces_cons
    {nesting : Nesting} {characters rest : List Char} {piece : Piece}
    (divided : pieces characters = (pieces rest).cons piece) :
    itemsFrom nesting characters =
      (readPiece nesting piece).1 ++
        itemsFrom (readPiece nesting piece).2 rest := by
  rw [itemsFrom, divided, itemsFrom, Interrupted.cons]
  simp only [itemsOfPieces, List.append_assoc]

theorem itemsFrom_markup
    {rest after : List Char} {piece : Piece}
    (read : readMarkup rest = .ok (piece, after)) (nesting : Nesting) :
    itemsFrom nesting ('<' :: rest) =
      (readPiece nesting piece).1 ++
        itemsFrom (readPiece nesting piece).2 after := by
  apply itemsFrom_of_pieces_cons
  rw [pieces, if_pos rfl]
  split
  · rename_i failed
    rw [read] at failed
    cases failed
  · rename_i found
    rw [read] at found
    cases found
    rfl

def textItems (content : String) : List Item :=
  if content = "" then [] else [.characters content]

/-- An escaped text before markup is reported as the text. -/
theorem itemsFrom_escape
    (nesting : Nesting) (content : String) (rest : List Char) :
    itemsFrom nesting (escape content.toList ++ '<' :: rest) =
      textItems content ++ itemsFrom nesting ('<' :: rest) := by
  have noMarkup : ∀ c ∈ escape content.toList, (c != '<') = true := by
    intro c member
    rw [bne_iff_ne]
    rintro rfl
    exact not_mem_escape rfl (by decide) _ member
  cases escaped : escape content.toList with
  | nil =>
      have back := unescape_escape content.toList
      rw [escaped, unescape, unescapeFrom] at back
      have empty : content = "" := by
        rw [← String.toList_inj]
        exact (Except.ok.inj back).symm
      rw [textItems, if_pos empty]
      rfl
  | cons first others =>
      rw [escaped] at noMarkup
      obtain ⟨firstPlain, othersPlain⟩ := List.forall_mem_cons.mp noMarkup
      have stops : ('<' != '<') = false := rfl
      have divided :
          pieces (first :: others ++ '<' :: rest) =
            (pieces ('<' :: rest)).cons (.text (first :: others)) := by
        rw [List.cons_append, pieces, if_neg (bne_iff_ne.mp firstPlain),
          Text.takeWhile_append_stop othersPlain stops,
          Text.dropWhile_append_stop othersPlain stops]
      have present : content ≠ "" := by
        rintro rfl
        cases escaped
      rw [itemsFrom_of_pieces_cons divided, readPiece, ← escaped,
        unescape_escape, textItems, if_neg present]
      simp only [String.ofList_toList]

end Xml

/-! ## Items of nodes -/

namespace Node

open Xml

mutual

def itemsIn (scope : Scope) : Node → List Item
  | .text content => textItems content
  | .element name attributes children =>
      let opening := readStartTag scope (StartTag.written ⟨name, attributes⟩)
      opening.toItem ::
        (itemsInAll opening.scope children ++
          [.token (.endTag (opening.scope.elementName opening.written))])

/-- The items that written nodes are read as inside a scope, if no two texts
stand side by side. -/
def itemsInAll (scope : Scope) : List Node → List Item
  | [] => []
  | node :: rest => node.itemsIn scope ++ itemsInAll scope rest

end

theorem itemsInAll_prepend_empty (scope : Scope) (nodes : List Node) :
    itemsInAll scope (prepend (.text "") nodes) = itemsInAll scope nodes := by
  cases nodes with
  | nil => rfl
  | cons node rest =>
      cases node with
      | text content => rw [prepend, String.empty_append]
      | element name attributes children => rfl

theorem written_empty_append
    (name : QName) (attributes : List Attribute) (tail : List Char) :
    (element name attributes []).written ++ tail =
      '<' :: (StartTag.written ⟨name, attributes⟩ ++ '/' :: '>' :: tail) := by
  simp [written, StartTag.written]

theorem written_append
    (name : QName) (attributes : List Attribute) (first : Node)
    (others : List Node) (tail : List Char) :
    (element name attributes (first :: others)).written ++ tail =
      '<' :: (StartTag.written ⟨name, attributes⟩ ++
        '>' :: (writtenAll (first :: others) ++
          '<' :: '/' :: (name.written.toList ++ '>' :: tail))) := by
  simp [written, writtenAll, StartTag.written]

theorem exists_written_eq
    (name : QName) (attributes : List Attribute) (children : List Node) :
    ∃ characters,
      (element name attributes children).written = '<' :: characters := by
  cases children with
  | nil => exact ⟨_, rfl⟩
  | cons first others => exact ⟨_, rfl⟩

mutual

/-- An element that is written out is read back as its items, and what follows
it is read as if nothing had been there. -/
theorem itemsFrom_written
    {outer : Bindings} (nesting : Nesting) (node : Node)
    (isElement : node.text? = none)
    (named : node.EveryTag (fun _ tag => tag.HasXmlNames) outer)
    (tail : List Char) :
    itemsFrom nesting (node.written ++ tail) =
      node.joinTexts.itemsIn nesting.scope ++ itemsFrom nesting tail := by
  cases node with
  | text content => cases isElement
  | element name attributes children =>
      obtain ⟨tagNamed, insideNamed⟩ := named
      let opening :=
        readStartTag nesting.scope (StartTag.written ⟨name, attributes⟩)
      have sameName : opening.written = name.written.toList :=
        tagNamed.takeWhile_written.1
      have inside := itemsFrom_writtenAll
        (nesting.enter opening.written opening.scope) "" children
        insideNamed ('/' :: (name.written.toList ++ '>' :: tail))
      have closing :
          readPiece (nesting.enter opening.written opening.scope)
              (.endTag name.written.toList) =
            ([.token (.endTag (opening.scope.elementName opening.written))],
              nesting) := by
        simp only [readPiece, readEndTag, Nesting.enter,
          tagNamed.1.endTagName_written, if_pos sameName.symm]
        rfl
      rw [itemsInAll_prepend_empty,
        itemsFrom_markup (tagNamed.1.readMarkup_endTag tail), closing]
        at inside
      cases children with
      | nil =>
          rw [written_empty_append,
            itemsFrom_markup (tagNamed.readMarkup_written_empty tail)]
          rfl
      | cons first others =>
          have opened :
              readPiece nesting
                  (.startTag (StartTag.written ⟨name, attributes⟩) false) =
                ([opening.toItem],
                  nesting.enter opening.written opening.scope) := rfl
          have escapedNothing : escape "".toList = [] := rfl
          rw [escapedNothing, List.nil_append] at inside
          rw [written_append, itemsFrom_markup (tagNamed.readMarkup_written _),
            opened, inside]
          simp only [joinTexts, itemsIn, List.cons_append,
            List.append_assoc]
          rfl

/-- Nodes that are written out behind a text, and before markup. -/
theorem itemsFrom_writtenAll
    {outer : Bindings} (nesting : Nesting) (before : String)
    (nodes : List Node)
    (named : EveryTagOfAll (fun _ tag => tag.HasXmlNames) outer nodes)
    (tail : List Char) :
    itemsFrom nesting
        (escape before.toList ++ (writtenAll nodes ++ '<' :: tail)) =
      itemsInAll nesting.scope
          (prepend (.text before) (joinTextsAll nodes)) ++
        itemsFrom nesting ('<' :: tail) := by
  cases nodes with
  | nil =>
      rw [writtenAll, List.nil_append, itemsFrom_escape]
      simp [joinTextsAll, prepend, itemsInAll, itemsIn]
  | cons node rest =>
      obtain ⟨nodeNamed, restNamed⟩ := named
      cases node with
      | text content =>
          have joined := itemsFrom_writtenAll nesting (before ++ content)
            rest restNamed tail
          rw [String.toList_append, escape_append, List.append_assoc]
            at joined
          rw [writtenAll, written, List.append_assoc, joinTextsAll,
            joinTexts, prepend_text_prepend_text, joined]
      | element name attributes children =>
          have others := itemsFrom_writtenAll nesting "" rest restNamed tail
          have whole := itemsFrom_written nesting
            (.element name attributes children) rfl nodeNamed
            (writtenAll rest ++ '<' :: tail)
          obtain ⟨characters, markup⟩ :=
            exists_written_eq name attributes children
          have first :
              itemsFrom nesting (escape before.toList ++
                  ((element name attributes children).written ++
                    (writtenAll rest ++ '<' :: tail))) =
                textItems before ++
                  itemsFrom nesting
                    ((element name attributes children).written ++
                      (writtenAll rest ++ '<' :: tail)) := by
            rw [markup]
            exact itemsFrom_escape nesting before _
          rw [itemsInAll_prepend_empty] at others
          have escapedNothing : escape "".toList = [] := rfl
          rw [escapedNothing, List.nil_append] at others
          rw [writtenAll, List.append_assoc, first, whole, others]
          simp only [joinTextsAll, joinTexts, prepend, itemsInAll, itemsIn,
            List.append_assoc]

end

end Node

end WsTrust
