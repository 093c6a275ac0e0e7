import WsTrust.Proofs.Captured
import WsTrust.Proofs.WrittenItems

/-!
# Capturing what was written

A fragment that is written out and captured again keeps its tags, texts and
prefixes, but each name is then in the namespace that the fragment itself binds
its prefix to.  The capture fails exactly where the attributes of a tag cannot
stand side by side.  A self-contained fragment is therefore read back as it
was.
-/

namespace WsTrust

/-! ## Scanning verbatim items -/

namespace Cursor

variable {State Result : Type} {expected : String}
  {step : State → Token → Except Failure (Turn State Result)}
  {stream : TokenStream}

theorem scanItems_of_again
    {item : Item} {token : Token} {state later : State}
    (read : item.read? stream.trimming = some (.ok token))
    (decided : step state token = .ok (.again later)) (rest : List Item) :
    scan.scanItems expected step stream (item :: rest) state =
      scan.scanItems expected step stream rest later := by
  simp only [scan.scanItems, read, decided]

theorem scanItems_of_fault
    {item : Item} {fault : Xml.DocumentFault}
    (read : item.read? stream.trimming = some (.error fault))
    (rest : List Item) (state : State) :
    scan.scanItems expected step stream (item :: rest) state =
      .error (.parse (.markup fault)) { stream with items := rest } := by
  simp only [scan.scanItems, read]

namespace Unclosed

/-- The element with more children, the first one first. -/
def pushAll (unclosed : Unclosed) (children : List Node) : Unclosed :=
  ⟨unclosed.tag, children.reverse ++ unclosed.reversedChildren⟩

theorem pushAll_append
    (unclosed : Unclosed) (first second : List Node) :
    (unclosed.pushAll first).pushAll second =
      unclosed.pushAll (first ++ second) := by
  simp [pushAll]

theorem close_pushAll_ofTag (tag : StartTag) (children : List Node) :
    ((ofTag tag).pushAll children).close = tag.toElement children := by
  simp [pushAll, ofTag, close]

end Unclosed

end Cursor

theorem Node.dropEmptyTextsAll_cons (node : Node) (rest : List Node) :
    dropEmptyTextsAll (node :: rest) =
      dropEmptyTextsAll [node] ++ dropEmptyTextsAll rest := by
  simp only [dropEmptyTextsAll]
  by_cases empty : node.isEmptyText
  · rw [if_pos empty, if_pos empty, List.nil_append]
  · rw [if_neg empty, if_neg empty, List.singleton_append]

/-! ## Capturing the items of a written fragment -/

namespace Cursor

open Xml

abbrev AllDeclarable (outer : Bindings) (nodes : List Node) : Prop :=
  Node.EveryTagOfAll (fun _ tag => tag.IsDeclarable) outer nodes

/-- Capturing goes on behind the items of nodes, with the children that the
nodes are read as; or it fails in them, if a tag among them is a fault. -/
def CapturesItems
    (maxDepth : Nat) (stream : TokenStream) (bindings : Bindings)
    (nodes : List Node) (items : List Item) (inner : Unclosed)
    (outer : List Unclosed) : Prop :=
  (AllDeclarable bindings nodes ∧ ∀ rest,
    scan.scanItems "end tag" (captureStep maxDepth) stream (items ++ rest)
        (inner, outer) =
      scan.scanItems "end tag" (captureStep maxDepth) stream rest
        (inner.pushAll (Node.dropEmptyTextsAll
          (Node.reboundAll bindings nodes)), outer)) ∨
  (¬ AllDeclarable bindings nodes ∧ ∀ rest, ∃ failure after,
    scan.scanItems "end tag" (captureStep maxDepth) stream (items ++ rest)
        (inner, outer) =
      .error failure after)

theorem CapturesItems.append
    {maxDepth : Nat} {stream : TokenStream} {bindings : Bindings}
    {node : Node} {others : List Node} {items later : List Item}
    {inner : Unclosed} {outer : List Unclosed}
    (first : CapturesItems maxDepth stream bindings [node] items inner outer)
    (second : ∀ extended,
      CapturesItems maxDepth stream bindings others later extended outer) :
    CapturesItems maxDepth stream bindings (node :: others) (items ++ later)
      inner outer := by
  rcases first with ⟨declarable, goesOn⟩ | ⟨undeclarable, fails⟩
  · let extended := inner.pushAll
      (Node.dropEmptyTextsAll (Node.reboundAll bindings [node]))
    rcases second extended with
      ⟨othersDeclarable, othersGoOn⟩ | ⟨undeclarable, othersFail⟩
    · refine Or.inl ⟨⟨declarable.1, othersDeclarable⟩, fun rest => ?_⟩
      have divided :
          Node.dropEmptyTextsAll (Node.reboundAll bindings (node :: others)) =
            Node.dropEmptyTextsAll (Node.reboundAll bindings [node]) ++
              Node.dropEmptyTextsAll (Node.reboundAll bindings others) :=
        Node.dropEmptyTextsAll_cons _ _
      rw [List.append_assoc, goesOn, othersGoOn, Unclosed.pushAll_append,
        divided]
    · refine Or.inr ⟨fun all => undeclarable all.2, fun rest => ?_⟩
      rw [List.append_assoc, goesOn]
      exact othersFail rest
  · refine Or.inr ⟨fun all => undeclarable ⟨all.1, trivial⟩, fun rest => ?_⟩
    rw [List.append_assoc]
    exact fails _

/-- A tag whose attributes can stand side by side is read as itself, in the
namespaces that its prefixes are bound to. -/
theorem exists_itemsIn_of_declarable
    {scope : Scope} {bindings : Bindings}
    (realized : scope.Realizes bindings) {tag : StartTag}
    (named : tag.HasXmlNames) (declarable : tag.IsDeclarable)
    (children : List Node) :
    ∃ innerScope : Scope,
      innerScope.Realizes (bindings.declareAll tag.attributes) ∧
        (Node.element tag.name tag.attributes children).itemsIn scope =
          .token (.startTag
              (tag.rebound (bindings.declareAll tag.attributes))) ::
            (Node.itemsInAll innerScope children ++
              [.token (.endTag (tag.rebound
                (bindings.declareAll tag.attributes)).name)]) := by
  obtain ⟨innerScope, opened, realizedInside⟩ :=
    named.readStartTag_written realized declarable
  refine ⟨innerScope, realizedInside, ?_⟩
  rw [Node.itemsIn, opened]
  simp only [OpeningTag.toItem, realizedInside.elementName_written named.1]
  rfl

section Capturing

variable {maxDepth : Nat} {stream : TokenStream}

theorem capturesItems_text
    (plain : stream.trimming = false) (bindings : Bindings)
    (content : String) (inner : Unclosed) (outer : List Unclosed) :
    CapturesItems maxDepth stream bindings [.text content]
      (textItems content) inner outer := by
  refine Or.inl ⟨⟨trivial, trivial⟩, fun rest => ?_⟩
  by_cases empty : content = ""
  · subst empty
    rfl
  · have present : content.isEmpty = false := by
      simpa using empty
    have read :
        (Item.characters content).read? stream.trimming =
          some (.ok (.text content)) := by
      simp [Item.read?, plain, present]
    have kept :
        Node.dropEmptyTextsAll (Node.reboundAll bindings [.text content]) =
          [.text content] := by
      simp [Node.reboundAll, Node.rebound, Node.dropEmptyTextsAll,
        Node.isEmptyText, Node.dropEmptyTexts, present]
    rw [textItems, if_neg empty, List.singleton_append,
      scanItems_of_again read rfl, kept]
    rfl

mutual

theorem capturesItems_node
    (plain : stream.trimming = false) {scope : Scope} {bindings : Bindings}
    (realized : scope.Realizes bindings) (node : Node)
    (named : node.EveryTag (fun _ tag => tag.HasXmlNames) bindings)
    (inner : Unclosed) (outer : List Unclosed)
    (fits : node.height = 0 ∨
      node.height + (outer.length + 1) ≤ maxDepth) :
    CapturesItems maxDepth stream bindings [node] (node.itemsIn scope)
      inner outer := by
  cases node with
  | text content => exact capturesItems_text plain bindings content _ _
  | element name attributes children =>
      let tag : StartTag := ⟨name, attributes⟩
      let within := bindings.declareAll attributes
      obtain ⟨tagNamed, insideNamed⟩ := named
      rw [Node.height] at fits
      by_cases declarable : tag.IsDeclarable
      · obtain ⟨innerScope, realizedInside, items⟩ :=
          exists_itemsIn_of_declarable realized tagNamed declarable children
        have inside := capturesItems_nodes plain realizedInside children
          insideNamed (.ofTag (tag.rebound within)) (inner :: outer)
          (by rw [List.length_cons]; omega)
        have entered :
            captureStep maxDepth (inner, outer)
                (.startTag (tag.rebound within)) =
              .ok (.again (.ofTag (tag.rebound within), inner :: outer)) := by
          rw [captureStep, if_neg (by omega)]
        rcases inside with
          ⟨insideDeclarable, goesOn⟩ | ⟨undeclarable, fails⟩
        · refine Or.inl
            ⟨⟨⟨declarable, insideDeclarable⟩, trivial⟩, fun rest => ?_⟩
          rw [items, List.cons_append, List.append_assoc,
            scanItems_of_again rfl entered, goesOn,
            List.singleton_append, scanItems_of_again rfl rfl,
            Unclosed.close_pushAll_ofTag]
          rfl
        · refine Or.inr
            ⟨fun all => undeclarable all.1.2, fun rest => ?_⟩
          rw [items, List.cons_append, List.append_assoc,
            scanItems_of_again rfl entered]
          exact fails _
      · obtain ⟨fault, failed⟩ :=
          tagNamed.readStartTag_fails realized declarable
        refine Or.inr ⟨fun all => declarable all.1.1, fun rest => ?_⟩
        rw [Node.itemsIn, OpeningTag.toItem, failed, List.cons_append,
          scanItems_of_fault rfl]
        exact ⟨_, _, rfl⟩

theorem capturesItems_nodes
    (plain : stream.trimming = false) {scope : Scope} {bindings : Bindings}
    (realized : scope.Realizes bindings) (nodes : List Node)
    (named : Node.EveryTagOfAll (fun _ tag => tag.HasXmlNames) bindings nodes)
    (inner : Unclosed) (outer : List Unclosed)
    (fits : Node.heightOfAll nodes = 0 ∨
      Node.heightOfAll nodes + (outer.length + 1) ≤ maxDepth) :
    CapturesItems maxDepth stream bindings nodes
      (Node.itemsInAll scope nodes) inner outer := by
  cases nodes with
  | nil => exact Or.inl ⟨trivial, fun rest => rfl⟩
  | cons node rest =>
      rw [Node.heightOfAll] at fits
      exact (capturesItems_node plain realized node named.1 inner outer
        (by omega)).append fun extended =>
          capturesItems_nodes plain realized rest named.2 extended outer
            (by omega)

end

end Capturing

/-! ## A capture from its beginning -/

/-- A capture succeeds on the items of an element, and leaves nothing, unless a
tag inside the element is a fault. -/
theorem captureElement_of_items
    {maxDepth : Nat} {stream : TokenStream} {bindings : Bindings}
    {tag : StartTag} {children : List Node} {items : List Item}
    (starts : stream.items = .token (.startTag tag) ::
      (items ++ [.token (.endTag tag.name)]))
    (captured : ∀ verbatimStream : TokenStream,
      verbatimStream.trimming = false →
        CapturesItems maxDepth verbatimStream bindings children items
          (.ofTag tag) []) :
    (AllDeclarable bindings children ∧ ∃ after,
      captureElement maxDepth stream =
          .ok (tag.toElement (Node.dropEmptyTextsAll
            (Node.reboundAll bindings children))) after ∧
        after.tokens = .done) ∨
    (¬ AllDeclarable bindings children ∧ ∃ failure after,
      captureElement maxDepth stream = .error failure after) := by
  let behind : TokenStream :=
    { stream with items := items ++ [.token (.endTag tag.name)] }
  let reader : Cursor Element :=
    scan "end tag" (captureStep maxDepth) (.ofTag tag, [])
  have consumed : next stream = .ok (some (.startTag tag)) behind := by
    simp only [next, starts, firstReport?, Item.read?]
    rfl
  have begun : captureElement maxDepth stream = verbatim reader behind := by
    rw [captureElement, bind_of_ok consumed]
  have plain : (behind.withVerbatim true).trimming = false :=
    Bool.and_false _
  rw [begun, verbatim]
  rcases captured (behind.withVerbatim true) plain with
    ⟨declarable, goesOn⟩ | ⟨undeclarable, fails⟩
  · let children := Node.dropEmptyTextsAll (Node.reboundAll bindings children)
    have scanned :
        reader { behind with verbatim := true } =
          .ok ((Unclosed.ofTag tag).pushAll children).close
            { behind with items := [], verbatim := true } :=
      goesOn [.token (.endTag tag.name)]
    refine Or.inl ⟨declarable, ?_⟩
    rw [scanned, Unclosed.close_pushAll_ofTag]
    exact ⟨_, rfl, rfl⟩
  · obtain ⟨failure, after, failed⟩ := fails [.token (.endTag tag.name)]
    have scanned :
        reader { behind with verbatim := true } = .error failure after :=
      failed
    refine Or.inr ⟨undeclarable, ?_⟩
    rw [scanned]
    exact ⟨_, _, rfl⟩

theorem captureElement_of_fault
    {maxDepth : Nat} {stream : TokenStream} {cause : Xml.DocumentFault}
    {items : List Item} (starts : stream.items = .fault cause :: items) :
    ∃ failure after,
      captureElement maxDepth stream = .error failure after := by
  have refused :
      next stream =
        .error (.parse (.markup cause)) { stream with items } := by
    simp only [next, starts, firstReport?, Item.read?]
  exact ⟨_, _, bind_of_error refused⟩

end Cursor

/-! ## Whole fragments -/

namespace Element

variable {element : Element}

theorem documentItems_toXml (named : element.HasXmlNames) :
    Xml.documentItems element.toXml =
      element.joinTexts.toNode.itemsIn Xml.Scope.outermost := by
  have read := Node.itemsFrom_written .outermost element.toNode rfl named []
  obtain ⟨characters, markup⟩ :=
    Node.exists_written_eq element.name element.attributes element.children
  have noMark :
      Text.dropByteOrderMark element.toXml.toList =
        element.toNode.written := by
    have startsTag : element.toNode.written = '<' :: characters := markup
    rw [toXml, String.toList_ofList, startsTag]
    rfl
  rw [Xml.itemsFrom_nil, List.append_nil, List.append_nil] at read
  rw [← noMark] at read
  exact read

theorem captureElement_toXml_fails
    (maxDepth : Nat) (named : element.HasXmlNames)
    (undeclarable : ¬ element.startTag.IsDeclarable) (trimText : Bool) :
    ∃ failure after,
      Cursor.captureElement maxDepth
          (TokenStream.ofXml trimText element.toXml) =
        .error failure after := by
  let stream := TokenStream.ofXml trimText element.toXml
  obtain ⟨fault, failed⟩ :=
    named.1.readStartTag_fails Xml.Scope.outermost_realizes undeclarable
  have document :
      stream.items = element.joinTexts.toNode.itemsIn Xml.Scope.outermost :=
    documentItems_toXml named
  have starts : ∃ items, stream.items = .fault fault :: items := by
    rw [document, joinTexts, toNode, Node.itemsIn, Xml.OpeningTag.toItem,
      failed]
    exact ⟨_, rfl⟩
  obtain ⟨items, equality⟩ := starts
  exact Cursor.captureElement_of_fault equality

/-- Behind a tag that can be written, all depends on the tags inside. -/
theorem captureElement_toXml_of_startTag
    {maxDepth : Nat} (named : element.HasXmlNames)
    (fits : element.FitsDepth maxDepth)
    (declarable : element.startTag.IsDeclarable) (trimText : Bool) :
    let within := Bindings.initial.declareAll element.attributes
    (Cursor.AllDeclarable within element.children ∧ ∃ after,
      Cursor.captureElement maxDepth
          (TokenStream.ofXml trimText element.toXml) =
        .ok element.joinTexts.rebound.dropEmptyTexts after ∧
      after.tokens = .done) ∨
    (¬ Cursor.AllDeclarable within element.children ∧ ∃ failure after,
      Cursor.captureElement maxDepth
          (TokenStream.ofXml trimText element.toXml) =
        .error failure after) := by
  intro within
  let joined := Node.joinTextsAll element.children
  obtain ⟨innerScope, realized, items⟩ :=
    Cursor.exists_itemsIn_of_declarable Xml.Scope.outermost_realizes
      named.1 declarable joined
  have document :
      (TokenStream.ofXml trimText element.toXml).items = _ :=
    (documentItems_toXml named).trans items
  have childrenNamed :
      Node.EveryTagOfAll (fun _ tag => tag.HasXmlNames) within joined :=
    (Node.everyTagOfAll_joinTextsAll_iff _ _ _).mpr named.2
  have sameHeight : Node.heightOfAll joined = _ :=
    Node.heightOfAll_joinTextsAll element.children
  rw [FitsDepth, height_eq] at fits
  have childrenFit :
      Node.heightOfAll joined = 0 ∨
        Node.heightOfAll joined + (0 + 1) ≤ maxDepth := by
    omega
  have captured := Cursor.captureElement_of_items document
    fun verbatimStream plain =>
      Cursor.capturesItems_nodes plain realized joined childrenNamed _ []
        childrenFit
  have sameTags : Cursor.AllDeclarable within joined ↔
      Cursor.AllDeclarable within element.children :=
    Node.everyTagOfAll_joinTextsAll_iff _ _ _
  rw [sameTags] at captured
  exact captured

/-- A fragment with names of XML that is written out is captured again under the
same limit, its names in the namespaces that it binds their prefixes to, or
not at all, if the attributes of a tag in it cannot stand side by side. -/
theorem captureElement_toXml
    {maxDepth : Nat} (named : element.HasXmlNames)
    (fits : element.FitsDepth maxDepth) (trimText : Bool) :
    (element.toNode.EveryTag (fun _ tag => tag.IsDeclarable) .initial ∧
      ∃ after,
        Cursor.captureElement maxDepth
            (TokenStream.ofXml trimText element.toXml) =
          .ok element.joinTexts.rebound.dropEmptyTexts after ∧
        after.tokens = .done) ∨
    (¬ element.toNode.EveryTag (fun _ tag => tag.IsDeclarable) .initial ∧
      ∃ failure after,
        Cursor.captureElement maxDepth
            (TokenStream.ofXml trimText element.toXml) =
          .error failure after) := by
  by_cases declarable : element.startTag.IsDeclarable
  · rcases captureElement_toXml_of_startTag named fits declarable trimText with
      ⟨inside, succeeds⟩ | ⟨undeclarable, fails⟩
    · exact Or.inl ⟨⟨declarable, inside⟩, succeeds⟩
    · exact Or.inr ⟨fun all => undeclarable all.2, fails⟩
  · have fails := captureElement_toXml_fails maxDepth named declarable trimText
    exact Or.inr ⟨fun all => declarable all.1, fails⟩

end Element

/-- A self-contained fragment with names of XML that is written out is captured
as it was, prefixes, attribute order and blanks included, once adjacent texts
are joined and empty ones dropped; nothing is left of what was written. -/
theorem selfContained_fragment_is_read_back
    {element : Element} {maxDepth : Nat}
    (named : element.HasXmlNames) (contained : element.IsSelfContained)
    (fits : element.FitsDepth maxDepth) (trimText : Bool) :
    ∃ after,
      Cursor.captureElement maxDepth
          (TokenStream.ofXml trimText element.toXml) =
        .ok element.joinTexts.dropEmptyTexts after ∧
      after.tokens = .done := by
  have declarable := Node.EveryTag.mono
    (fun _ _ both => And.left both) contained
  have unchanged :=
    (element.isSelfContained_joinTexts_iff.mpr contained).rebound_eq
  rcases Element.captureElement_toXml named fits trimText with
    ⟨_, succeeds⟩ | ⟨undeclarable, _⟩
  · rw [unchanged] at succeeds
    exact succeeds
  · exact absurd declarable undeclarable

/-- A claim on an address, in two namespaces, one of which is declared anew
inside it. -/
def addressClaim : Element where
  name := ⟨⟨"urn:claims", "Claim"⟩, "c"⟩
  attributes :=
    [⟨⟨⟨Vocabulary.declarations, "c"⟩, "xmlns"⟩, "urn:claims"⟩,
      ⟨⟨⟨"", "note"⟩, ""⟩, "a<b & \x22c\x22"⟩,
      ⟨⟨⟨"urn:claims", "kind"⟩, "c"⟩, ""⟩]
  children :=
    [.text " x", .text "", .text "> ",
      .element ⟨⟨"urn:address", "City"⟩, ""⟩
        [⟨.ofParts Vocabulary.declarations "xmlns", "urn:address"⟩]
        [.text ""]]

theorem addressClaim_is_read_back :
    addressClaim.HasXmlNames ∧ addressClaim.IsSelfContained ∧
      addressClaim.FitsDepth 2 ∧
      ∃ after,
        Cursor.captureElement 2 (TokenStream.ofXml true addressClaim.toXml) =
          .ok addressClaim.joinTexts.dropEmptyTexts after ∧
        after.tokens = .done := by
  have named : addressClaim.HasXmlNames := by decide +kernel
  have contained : addressClaim.IsSelfContained := by decide +kernel
  have fits : addressClaim.FitsDepth 2 := by decide +kernel
  exact ⟨named, contained, fits,
    selfContained_fragment_is_read_back named contained fits true⟩

end WsTrust
