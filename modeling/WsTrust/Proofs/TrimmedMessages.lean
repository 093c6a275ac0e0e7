import WsTrust.Proofs.Compositions
import WsTrust.Proofs.DocumentItems
import WsTrust.Proofs.Trimming

/-!
# Messages in trimmed documents

A document without other markup than tags has its texts between the tags.  A
message that is read from it untrimmed is also read from it trimmed, fragments
with all their text included.
-/

namespace WsTrust

/-! ## Readers of messages -/

namespace Cursor

theorem closeWith_toleratesAt
    {Result : Type} (localPart : String) (result : Result) (name : QName)
    {stream : TokenStream} (plain : stream.Plain)
    (atMarkup : stream.AtMarkup) :
    ToleratesAt (closeWith localPart result name) stream := by
  rw [closeWith]
  split
  · exact (next_toleratesAt plain atMarkup).bind
      fun _ _ _ restPlain => Tolerates.pure result restPlain
  · exact Tolerates.refuse _ plain

namespace Tolerates

variable {Result Other : Type}

theorem endsBind
    {reader : Cursor Result} {next : Result → Cursor Other}
    (first : Tolerates reader)
    (second : ∀ result,
      Tolerates (next result) ∨ ∃ other, next result = Pure.pure other) :
    Tolerates (reader >>= next) := by
  refine first.bind fun result => ?_
  rcases second result with tolerates | ⟨other, equality⟩
  · exact tolerates
  · rw [equality]
    exact pure other

theorem untilEnd
    {next : Option Boundary → Cursor Result}
    (opening : ∀ tag, Tolerates (next (some (.opening tag))))
    (closing : ∃ localPart result, ∀ name,
      next (some (.closing name)) = closeWith localPart result name)
    (ended : Tolerates (next none)) :
    Tolerates (peekBoundary >>= next) := by
  obtain ⟨localPart, result, closed⟩ := closing
  refine peekBoundary_bind_tolerates fun boundary stream plain atMarkup => ?_
  rcases boundary with _ | tag | name
  · exact ended plain
  · exact opening tag plain
  · rw [closed name]
    exact closeWith_toleratesAt localPart result name plain atMarkup

/-- Tolerance passes to messages. -/
theorem compositional : CompositionalToEnd Tolerates where
  has_of_ends := id
  pure := pure
  refuse fault _ := refuse fault
  raise := raise
  bind := bind
  bindEnds := bind
  endsBind := endsBind
  nextStartTag := nextStartTag_tolerates
  nextEndTag := nextEndTag_tolerates
  peekStartTag := peekStartTag_tolerates
  peekChild := peekChild_tolerates
  elementText := elementText_tolerates
  skipElement := skipElement_tolerates
  captureElement := captureElement_tolerates
  requiredTextOf expected text := by
    refine (nextStartTag_tolerates expected).bind fun tag => ?_
    rcases text tag with ⟨fault, refused, _⟩ |
      ⟨within, what, later, equality, finished⟩
    · rw [refused]
      exact refuse fault
    · rw [equality]
      exact (requiredText_tolerates within what).endsBind finished
  atBoundary opening closing ended := by
    obtain ⟨expected, exhausted⟩ := ended
    refine untilEnd opening closing ?_
    rw [exhausted]
    exact refuse _
  untilEnd := untilEnd
  atTag opening closing texts ended := by
    obtain ⟨localPart, result, closed⟩ := closing
    obtain ⟨fault, refused, _⟩ := texts
    obtain ⟨expected, exhausted⟩ := ended
    refine peek_bind_tolerates ?_ fun token stream plain atMarkup => ?_
    · intro content stream value rest succeeded
      rw [refused content] at succeeded
      cases succeeded
    · rcases token with _ | tag | name | content
      · rw [exhausted]
        exact refuse _ plain
      · exact opening tag plain
      · rw [closed name]
        exact closeWith_toleratesAt localPart result name plain atMarkup
      · rw [refused content]
        exact refuse fault plain
  searching looks found ended := repeating_tolerates fun state =>
    turn_of_look pure bind looks (found state) (ended state)
  repeatingEnds := repeating_tolerates

end Tolerates

end Cursor

theorem Registry.IsPlain.tolerates
    {registry : Registry} (plain : registry.IsPlain) :
    ∀ extension ∈ registry.extensions,
      Cursor.Tolerates extension.read := by
  intro extension member
  rcases plain with rfl | rfl
  · cases member
  · rw [List.mem_singleton.mp member]
    have reading := Cursor.Tolerates.compositional.toCompositional.appliesTo
    exact reading.map _

theorem Payload.read_tolerates
    {registry : Registry} (plain : registry.IsPlain) (maxDepth : Nat) :
    Cursor.Tolerates (read registry maxDepth) :=
  Cursor.Tolerates.compositional.readPayload plain.tolerates maxDepth

/-! ## Documents without other markup than tags -/

namespace Xml

def Piece.isTextOrTag : Piece → Bool
  | .text _ | .startTag _ _ | .endTag _ => true
  | .characterData _ | .skipped | .namelessDoctype => false

/-- The document has no character data, comments, instructions, declarations
and document types. -/
def HasOnlyTags (text : String) : Prop :=
  ∀ piece ∈ (pieces (Text.dropByteOrderMark text.toList)).items,
    piece.isTextOrTag

instance (text : String) : Decidable (HasOnlyTags text) :=
  inferInstanceAs (Decidable (∀ _ ∈ _, _))

theorem spaced_tag_item
    (opening : OpeningTag) {rest : List Item} (spaced : Item.Spaced rest) :
    Item.Spaced (opening.toItem :: rest) := by
  rw [OpeningTag.toItem]
  split
  · exact .tag rfl spaced
  · exact .fault _ spaced

theorem not_isCharacters_toItem (opening : OpeningTag) :
    ¬ opening.toItem.IsCharacters := by
  rintro ⟨content, equality⟩
  rw [OpeningTag.toItem] at equality
  split at equality <;> cases equality

theorem readEndTag_cases (nesting : Nesting) (content : List Char) :
    (∃ name, (readEndTag nesting content).1 = .token (.endTag name)) ∨
      ∃ cause, (readEndTag nesting content).1 = .fault cause := by
  rw [readEndTag]
  split
  · exact Or.inr ⟨_, rfl⟩
  · dsimp only
    split
    · exact Or.inl ⟨_, rfl⟩
    · exact Or.inr ⟨_, rfl⟩

/-- A tag begins with an item that is no run of characters. -/
theorem head_readPiece_tag
    {nesting : Nesting} {piece : Piece} (tag : piece.isTextOrTag)
    (noText : ¬ piece.IsText) (rest : List Item) :
    ∀ item ∈ ((readPiece nesting piece).1 ++ rest).head?,
      ¬ item.IsCharacters := by
  cases piece with
  | characterData | skipped | namelessDoctype => cases tag
  | text raw => exact absurd ⟨raw, rfl⟩ noText
  | startTag content isEmpty =>
      cases isEmpty <;>
        simpa [readPiece] using not_isCharacters_toItem _
  | endTag content =>
      rcases readEndTag_cases nesting content with
        ⟨name, equality⟩ | ⟨cause, equality⟩ <;>
        simp [readPiece, equality, Item.IsCharacters]

theorem spaced_readPiece_append
    {nesting : Nesting} {piece : Piece} (tag : piece.isTextOrTag)
    (something : piece ≠ .text []) {rest : List Item}
    (apart : piece.IsText → ∀ item ∈ rest.head?, ¬ item.IsCharacters)
    (spaced : Item.Spaced rest) :
    Item.Spaced ((readPiece nesting piece).1 ++ rest) := by
  cases piece with
  | characterData | skipped | namelessDoctype => cases tag
  | text raw =>
      have notEmpty :
          Item.characters "" ∉ (readPiece nesting (.text raw)).1 :=
        readPiece_characters_ne_empty something
      rw [readPiece] at notEmpty ⊢
      cases read : unescape raw with
      | error flaw => exact .fault _ spaced
      | ok content =>
          rw [read] at notEmpty
          refine .characters ?_ (apart ⟨raw, rfl⟩) spaced
          intro empty
          exact notEmpty (by simp [empty])
  | startTag content isEmpty =>
      cases isEmpty with
      | false => exact spaced_tag_item _ spaced
      | true => exact spaced_tag_item _ (.tag rfl spaced)
  | endTag content =>
      have items : (readPiece nesting (.endTag content)).1 =
          [(readEndTag nesting content).1] := rfl
      rw [items]
      rcases readEndTag_cases nesting content with
        ⟨name, equality⟩ | ⟨cause, equality⟩
      · rw [equality]
        exact .tag rfl spaced
      · rw [equality]
        exact .fault cause spaced

/-- What pieces of markup begin with is no run of characters. -/
theorem head_itemsOfPieces
    {nesting : Nesting} {pieces : List Piece}
    (tags : ∀ piece ∈ pieces, piece.isTextOrTag)
    (markup : ∀ first ∈ pieces.head?, ¬ first.IsText)
    {rest : List Item} (after : ∀ item ∈ rest.head?, ¬ item.IsCharacters) :
    ∀ item ∈ (itemsOfPieces nesting pieces ++ rest).head?,
      ¬ item.IsCharacters := by
  cases pieces with
  | nil => exact after
  | cons piece others =>
      obtain ⟨tag, _⟩ := List.forall_mem_cons.mp tags
      have noText : ¬ piece.IsText := markup piece rfl
      rw [itemsOfPieces, List.append_assoc]
      exact head_readPiece_tag tag noText _

theorem spaced_itemsOfPieces
    {pieces : List Piece} (tags : ∀ piece ∈ pieces, piece.isTextOrTag)
    (apart : TextsApart pieces) (nesting : Nesting) {rest : List Item}
    (after : ∀ item ∈ rest.head?, ¬ item.IsCharacters)
    (spaced : Item.Spaced rest) :
    Item.Spaced (itemsOfPieces nesting pieces ++ rest) := by
  induction pieces generalizing nesting with
  | nil => exact spaced
  | cons piece others inductionHypothesis =>
      obtain ⟨tag, otherTags⟩ := List.forall_mem_cons.mp tags
      obtain ⟨something, separated, othersApart⟩ := apart
      rw [itemsOfPieces, List.append_assoc]
      refine spaced_readPiece_append tag something (fun text => ?_)
        (inductionHypothesis otherTags othersApart _)
      exact head_itemsOfPieces otherTags (separated text) after

theorem spaced_documentItems {text : String} (tags : HasOnlyTags text) :
    Item.Spaced (documentItems text) := by
  have apart := textsApart_pieces (Text.dropByteOrderMark text.toList)
  rw [documentItems]
  cases (pieces (Text.dropByteOrderMark text.toList)).fault with
  | none => exact spaced_itemsOfPieces tags apart _ (by simp) .nil
  | some flaw =>
      refine spaced_itemsOfPieces tags apart _ ?_ (.fault _ .nil)
      simp [Item.IsCharacters]

end Xml

/-- A message that is accepted untrimmed from a document with no other markup
than tags is the message that is read from the document trimmed. -/
theorem Payload.trimming_keeps_accepted
    {registry : Registry} (plain : registry.IsPlain) {maxDepth : Nat}
    {text : String} (tags : Xml.HasOnlyTags text) {payload : Payload}
    (accepted : readXml registry ⟨false, maxDepth⟩ text = .ok payload) :
    readXml registry ⟨true, maxDepth⟩ text = .ok payload := by
  have plainStream : (TokenStream.ofXml false text).Plain :=
    ⟨rfl, rfl, Xml.spaced_documentItems tags⟩
  rw [readXml] at accepted
  cases read : Payload.read registry maxDepth (.ofXml false text) with
  | error failure rest =>
      rw [read] at accepted
      cases accepted
  | ok found rest =>
      rw [read] at accepted
      cases accepted
      have again := (read_tolerates plain maxDepth plainStream read).2
      have trimmed :
          (TokenStream.ofXml false text).trimmed =
            TokenStream.ofXml true text := rfl
      rw [trimmed] at again
      rw [readXml, again]

def indentedMessage : String :=
  "<RequestSecurityToken>\n <OnBehalfOf> <Id> x <Part/>\n</Id> " ++
    "</OnBehalfOf>\n</RequestSecurityToken>\n"

def indentedIdentity : Element :=
  ⟨.ofParts "" "Id", [],
    [.text " x ", .element (.ofParts "" "Part") [] [], .text "\n"]⟩

theorem indentedMessage_keeps_its_identity :
    Registry.standard.IsPlain ∧ Xml.HasOnlyTags indentedMessage ∧
      Payload.readXml .standard ⟨false, 2⟩ indentedMessage =
        .ok (.request
          { context := "", onBehalfOf := some ⟨indentedIdentity⟩ }) ∧
      Payload.readXml .standard ⟨true, 2⟩ indentedMessage =
        .ok (.request
          { context := "", onBehalfOf := some ⟨indentedIdentity⟩ }) := by
  have plain : Registry.standard.IsPlain := Or.inr rfl
  have tags : Xml.HasOnlyTags indentedMessage := by decide +kernel
  have accepted :
      Payload.readXml .standard ⟨false, 2⟩ indentedMessage =
        .ok (.request
          { context := "", onBehalfOf := some ⟨indentedIdentity⟩ }) := by
    decide +kernel
  exact ⟨plain, tags, accepted,
    Payload.trimming_keeps_accepted plain tags accepted⟩

end WsTrust
