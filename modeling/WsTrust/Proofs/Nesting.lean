import WsTrust.Proofs.Content
import WsTrust.Proofs.Prepared

/-!
# The nesting of a document's tokens

Whatever a text contains, the tokens that are read from it before a fault are
the beginning of the tokens of a content: each end tag has the name of the
innermost start tag that is still open.  The reader may look ahead and switch
the reporting of text at will between two tokens.
-/

namespace WsTrust

/-! ## Demands on a stream -/

/-- One use of a stream. -/
inductive Demand where
  | next
  | peek
  | preserveText (verbatim : Bool)

namespace TokenStream

/-- The tokens that demands consume, up to the end of the stream or the first
fault. -/
def delivered (stream : TokenStream) : List Demand → List Token
  | [] => []
  | .next :: later =>
      match Cursor.next stream with
      | .ok (some token) after => token :: after.delivered later
      | _ => []
  | .peek :: later =>
      match Cursor.peek stream with
      | .ok (some _) after => after.delivered later
      | _ => []
  | .preserveText verbatim :: later =>
      match Cursor.preserveText verbatim stream with
      | .ok _ after => after.delivered later
      | _ => []

end TokenStream

/-! ## Nested tokens and items -/

/-- Tokens that may stand inside the elements of these names, the innermost
first. -/
inductive Nested : List QName → List Token → Prop
  | nil (opened : List QName) : Nested opened []
  | startTag {opened : List QName} {tag : StartTag} {rest : List Token}
      (inside : Nested (tag.name :: opened) rest) :
      Nested opened (.startTag tag :: rest)
  | endTag {name : QName} {opened : List QName} {rest : List Token}
      (outside : Nested opened rest) :
      Nested (name :: opened) (.endTag name :: rest)
  | text {opened : List QName} {content : String} {rest : List Token}
      (following : Nested opened rest) :
      Nested opened (.text content :: rest)

/-- Items that may stand inside the elements of these names.  Nothing is asked
of what follows a fault. -/
inductive NestedItems : List QName → List Item → Prop
  | nil (opened : List QName) : NestedItems opened []
  | startTag {opened : List QName} {tag : StartTag} {rest : List Item}
      (inside : NestedItems (tag.name :: opened) rest) :
      NestedItems opened (.token (.startTag tag) :: rest)
  | endTag {name : QName} {opened : List QName} {rest : List Item}
      (outside : NestedItems opened rest) :
      NestedItems (name :: opened) (.token (.endTag name) :: rest)
  | text {opened : List QName} {content : String} {rest : List Item}
      (following : NestedItems opened rest) :
      NestedItems opened (.token (.text content) :: rest)
  | characters {opened : List QName} {content : String} {rest : List Item}
      (following : NestedItems opened rest) :
      NestedItems opened (.characters content :: rest)
  | fault (opened : List QName) (cause : Xml.DocumentFault)
      (rest : List Item) :
      NestedItems opened (.fault cause :: rest)

/-! ## The items of a document -/

namespace Xml

/-- The qualified names of the open elements, the innermost first. -/
def Nesting.openedNames (nesting : Nesting) : List QName :=
  List.zipWith (fun written scope => scope.elementName written)
    nesting.opened nesting.scopes

/-- Every open element has its own scope. -/
def Nesting.IsAligned (nesting : Nesting) : Prop :=
  nesting.opened.length = nesting.scopes.length

theorem name_of_readStartTag
    {outer : Scope} {content : List Char} {tag : StartTag}
    (read : (readStartTag outer content).tag = .ok tag) :
    tag.name =
      (readStartTag outer content).scope.elementName
        (readStartTag outer content).written := by
  simp only [readStartTag] at read ⊢
  split at read
  · cases read
  · split at read
    · cases read
    · cases read
      rfl

/-- A start tag is nested if what follows it is nested inside its element. -/
theorem nestedItems_startTag
    {opened : List QName} (outer : Scope) (content : List Char)
    {rest : List Item}
    (inside :
      NestedItems
        ((readStartTag outer content).scope.elementName
          (readStartTag outer content).written :: opened) rest) :
    NestedItems opened ((readStartTag outer content).toItem :: rest) := by
  cases read : (readStartTag outer content).tag with
  | error cause =>
      rw [OpeningTag.toItem, read]
      exact NestedItems.fault opened cause rest
  | ok tag =>
      rw [OpeningTag.toItem, read]
      apply NestedItems.startTag
      rw [name_of_readStartTag read]
      exact inside

/-- An end tag is nested if what follows it is nested outside its element. -/
theorem nestedItems_endTag
    {nesting : Nesting} (aligned : nesting.IsAligned) (content : List Char)
    {rest : List Item}
    (outside :
      (readEndTag nesting content).2.IsAligned →
        NestedItems (readEndTag nesting content).2.openedNames rest) :
    NestedItems nesting.openedNames
      ((readEndTag nesting content).1 :: rest) := by
  obtain ⟨opened, scopes⟩ := nesting
  cases opened with
  | nil => exact NestedItems.fault _ _ _
  | cons written others =>
      cases scopes with
      | nil => cases aligned
      | cons scope outer =>
          have shorter : others.length = outer.length :=
            Nat.succ.inj aligned
          by_cases matching : endTagName content = written
          · simp only [readEndTag, if_pos matching] at outside ⊢
            exact NestedItems.endTag (outside shorter)
          · simp only [readEndTag, if_neg matching]
            exact NestedItems.fault _ _ _

/-- The items of pieces are nested, with anything after them that is nested
inside whatever elements are open there. -/
theorem nestedItems_itemsOfPieces
    (pieces : List Piece) {nesting : Nesting} (aligned : nesting.IsAligned)
    {rest : List Item} (following : ∀ opened, NestedItems opened rest) :
    NestedItems nesting.openedNames
      (itemsOfPieces nesting pieces ++ rest) := by
  induction pieces generalizing nesting with
  | nil => exact following nesting.openedNames
  | cons piece later inductionHypothesis =>
      rw [itemsOfPieces, List.append_assoc]
      cases piece with
      | skipped => exact inductionHypothesis aligned
      | namelessDoctype => exact NestedItems.fault _ _ _
      | characterData content =>
          exact NestedItems.text (inductionHypothesis aligned)
      | text raw =>
          rw [readPiece]
          cases unescape raw with
          | error flaw => exact NestedItems.fault _ _ _
          | ok content =>
              exact NestedItems.characters (inductionHypothesis aligned)
      | startTag content isEmpty =>
          cases isEmpty with
          | true =>
              apply nestedItems_startTag
              exact NestedItems.endTag (inductionHypothesis aligned)
          | false =>
              apply nestedItems_startTag
              let opening := readStartTag nesting.scope content
              have entered :
                  (nesting.enter opening.written opening.scope).IsAligned :=
                congrArg Nat.succ aligned
              exact inductionHypothesis entered
      | endTag content =>
          apply nestedItems_endTag aligned content
          exact inductionHypothesis

theorem nestedItems_documentItems (text : String) :
    NestedItems [] (documentItems text) := by
  have outside : Nesting.outermost.IsAligned := rfl
  apply nestedItems_itemsOfPieces _ outside
  intro opened
  cases (pieces (Text.dropByteOrderMark text.toList)).fault with
  | none => exact NestedItems.nil opened
  | some flaw => exact NestedItems.fault opened _ _

end Xml

/-! ## From items to tokens -/

/-- The first token that nested items report, if it is delivered as it stands,
is nested with the items after it. -/
theorem nestedItems_of_firstReport
    {opened : List QName} {items rest : List Item} {trimming : Bool}
    {token : Token}
    (nested : NestedItems opened items)
    (reported : Cursor.firstReport? trimming items = some (.ok token, rest)) :
    NestedItems opened (.token token :: rest) := by
  induction nested with
  | nil => cases reported
  | startTag inside =>
      cases reported
      exact NestedItems.startTag inside
  | endTag outside =>
      cases reported
      exact NestedItems.endTag outside
  | text following =>
      cases reported
      exact NestedItems.text following
  | @characters opened content others following inductionHypothesis =>
      simp only [Cursor.firstReport?] at reported
      cases report : (Item.characters content).read? trimming with
      | none =>
          rw [report] at reported
          exact inductionHypothesis reported
      | some delivered =>
          rw [report] at reported
          simp only [Option.some.injEq, Prod.mk.injEq] at reported
          obtain ⟨rfl, rfl⟩ := reported
          simp only [Item.read?] at report
          split at report
          · split at report
            · cases report
            · cases report
              exact NestedItems.text following
          · split at report
            · cases report
            · cases report
              exact NestedItems.text following
  | fault => cases reported

/-- Whatever is demanded of nested items, the tokens consumed are nested. -/
theorem nested_delivered
    (demands : List Demand) {opened : List QName} {stream : TokenStream}
    (nested : NestedItems opened stream.items) :
    Nested opened (stream.delivered demands) := by
  induction demands generalizing opened stream with
  | nil => exact Nested.nil opened
  | cons demand later inductionHypothesis =>
      cases demand with
      | preserveText verbatim => exact inductionHypothesis nested
      | peek =>
          simp only [TokenStream.delivered, Cursor.peek]
          cases reported :
              Cursor.firstReport? stream.trimming stream.items with
          | none => exact Nested.nil opened
          | some report =>
              obtain ⟨read | token, rest⟩ := report
              · exact Nested.nil opened
              · exact inductionHypothesis
                  (nestedItems_of_firstReport nested reported)
      | next =>
          simp only [TokenStream.delivered, Cursor.next]
          cases reported :
              Cursor.firstReport? stream.trimming stream.items with
          | none => exact Nested.nil opened
          | some report =>
              obtain ⟨read | token, rest⟩ := report
              · exact Nested.nil opened
              · cases nestedItems_of_firstReport nested reported with
                | startTag inside =>
                    exact Nested.startTag (inductionHypothesis inside)
                | endTag outside =>
                    exact Nested.endTag (inductionHypothesis outside)
                | text following =>
                    exact Nested.text (inductionHypothesis following)

/-! ## Elements left open -/

/-- These start tags, the innermost first, are what tokens leave open. -/
def LeavesOpen : List StartTag → List Token → Prop
  | [], tokens => ∃ nodes, tokens = Node.tokensOfAll nodes
  | tag :: outer, tokens =>
      ∃ earlier nodes,
        tokens = earlier ++ .startTag tag :: Node.tokensOfAll nodes ∧
          LeavesOpen outer earlier

namespace LeavesOpen

variable {opened : List StartTag} {tokens : List Token}

theorem append_node (left : LeavesOpen opened tokens) (node : Node) :
    LeavesOpen opened (tokens ++ node.tokens) := by
  have extended (nodes : List Node) :
      Node.tokensOfAll nodes ++ node.tokens =
        Node.tokensOfAll (nodes ++ [node]) := by
    rw [Node.tokensOfAll_append, Node.tokensOfAll_cons, Node.tokensOfAll,
      List.append_nil]
  cases opened with
  | nil =>
      obtain ⟨nodes, rfl⟩ := left
      exact ⟨nodes ++ [node], extended nodes⟩
  | cons tag outer =>
      obtain ⟨earlier, nodes, rfl, outerLeft⟩ := left
      refine ⟨earlier, nodes ++ [node], ?_, outerLeft⟩
      rw [List.append_assoc, List.cons_append, extended]

theorem append_startTag (left : LeavesOpen opened tokens) (tag : StartTag) :
    LeavesOpen (tag :: opened) (tokens ++ [.startTag tag]) :=
  ⟨tokens, [], rfl, left⟩

theorem append_endTag {tag : StartTag}
    (left : LeavesOpen (tag :: opened) tokens) :
    LeavesOpen opened (tokens ++ [.endTag tag.name]) := by
  obtain ⟨earlier, nodes, rfl, outerLeft⟩ := left
  have closed :
      Token.startTag tag :: Node.tokensOfAll nodes ++ [.endTag tag.name] =
        (Node.element tag.name tag.attributes nodes).tokens := rfl
  rw [List.append_assoc, closed]
  exact outerLeft.append_node _

/-- End tags for the open elements complete the tokens. -/
theorem exists_completion (left : LeavesOpen opened tokens) :
    ∃ nodes missing, tokens ++ missing = Node.tokensOfAll nodes := by
  induction opened generalizing tokens with
  | nil =>
      obtain ⟨nodes, rfl⟩ := left
      exact ⟨nodes, [], List.append_nil _⟩
  | cons tag outer inductionHypothesis =>
      obtain ⟨nodes, missing, complete⟩ :=
        inductionHypothesis left.append_endTag
      refine ⟨nodes, .endTag tag.name :: missing, ?_⟩
      rw [← complete, List.append_assoc]
      rfl

/-- After a part of nested tokens some elements are open, and what follows is
nested inside these. -/
theorem append_nested
    {names : List QName} {before after : List Token}
    (nested : Nested names (before ++ after))
    (named : opened.map StartTag.name = names)
    (left : LeavesOpen opened tokens) :
    ∃ stillOpened,
      LeavesOpen stillOpened (tokens ++ before) ∧
        Nested (stillOpened.map StartTag.name) after := by
  induction before generalizing names opened tokens with
  | nil =>
      rw [← named] at nested
      rw [List.append_nil]
      exact ⟨opened, left, nested⟩
  | cons token rest inductionHypothesis =>
      rw [List.append_cons]
      cases nested with
      | @startTag _ tag _ inside =>
          have named' :
              (tag :: opened).map StartTag.name = tag.name :: names := by
            rw [List.map_cons, named]
          exact inductionHypothesis inside named' (left.append_startTag tag)
      | @text _ content _ following =>
          exact inductionHypothesis following named
            (left.append_node (.text content))
      | @endTag name outer _ outside =>
          cases opened with
          | nil => cases named
          | cons tag others =>
              obtain ⟨sameName, othersNamed⟩ := List.cons.inj named
              rw [← sameName]
              exact inductionHypothesis outside othersNamed
                left.append_endTag

end LeavesOpen

namespace Nested

theorem exists_leavesOpen
    {before after : List Token} (nested : Nested [] (before ++ after)) :
    ∃ opened, LeavesOpen opened before ∧
      Nested (opened.map StartTag.name) after := by
  have outside : LeavesOpen [] [] := ⟨[], rfl⟩
  exact outside.append_nested nested rfl

/-- Nested tokens are the beginning of the tokens of a content. -/
theorem exists_completion
    {tokens : List Token} (nested : Nested [] tokens) :
    ∃ nodes missing, tokens ++ missing = Node.tokensOfAll nodes := by
  rw [← List.append_nil tokens] at nested
  obtain ⟨opened, left, _⟩ := nested.exists_leavesOpen
  exact left.exists_completion

/-- Before an end tag nested tokens leave an element of its name open, and none
inside this one. -/
theorem opening_of_endTag
    {before after : List Token} {name : QName}
    (nested : Nested [] (before ++ .endTag name :: after)) :
    ∃ earlier tag nodes,
      before = earlier ++ .startTag tag :: Node.tokensOfAll nodes ∧
        tag.name = name := by
  obtain ⟨opened, left, following⟩ := nested.exists_leavesOpen
  cases opened with
  | nil => cases following
  | cons tag outer =>
      obtain ⟨earlier, nodes, equality, _⟩ := left
      refine ⟨earlier, tag, nodes, equality, ?_⟩
      cases following
      rfl

end Nested

/-! ## Every document -/

/-- The tokens that a document delivers, under any demands, are the beginning of
the tokens of a content, and each end tag among them has the name of the start
tag that it closes, prefix included. -/
theorem document_tokens_are_nested
    (trimText : Bool) (text : String) (demands : List Demand) :
    (∃ nodes missing,
      (TokenStream.ofXml trimText text).delivered demands ++ missing =
        Node.tokensOfAll nodes) ∧
    ∀ before name after,
      (TokenStream.ofXml trimText text).delivered demands =
          before ++ .endTag name :: after →
        ∃ earlier tag nodes,
          before = earlier ++ .startTag tag :: Node.tokensOfAll nodes ∧
            tag.name = name := by
  have items : NestedItems [] (TokenStream.ofXml trimText text).items :=
    Xml.nestedItems_documentItems text
  have nested := nested_delivered demands items
  constructor
  · exact nested.exists_completion
  · intro before name after equality
    rw [equality] at nested
    exact nested.opening_of_endTag

/-- An empty tag that declares its own namespace is closed under the name it
opened with, although the document ends too early. -/
theorem empty_tag_is_closed_in_its_namespace :
    ∃ outer text inner,
      (TokenStream.ofXml true "<a> <b xmlns='u'/>").delivered
          [.next, .preserveText true, .peek, .next, .next, .next, .next] =
        [outer, text, inner] ++ .endTag (.ofParts "u" "b") :: [] ∧
      ∃ earlier tag nodes,
        [outer, text, inner] =
            earlier ++ .startTag tag :: Node.tokensOfAll nodes ∧
          tag.name = .ofParts "u" "b" := by
  let declaration : Attribute :=
    ⟨.ofParts Vocabulary.declarations "xmlns", "u"⟩
  have delivered :
      (TokenStream.ofXml true "<a> <b xmlns='u'/>").delivered
          [.next, .preserveText true, .peek, .next, .next, .next, .next] =
        [.startTag ⟨.ofLocal "a", []⟩, .text " ",
            .startTag ⟨.ofParts "u" "b", [declaration]⟩] ++
          .endTag (.ofParts "u" "b") :: [] := by
    decide +kernel
  refine ⟨_, _, _, delivered, ?_⟩
  exact (document_tokens_are_nested true "<a> <b xmlns='u'/>" _).2
    _ _ _ delivered

end WsTrust
