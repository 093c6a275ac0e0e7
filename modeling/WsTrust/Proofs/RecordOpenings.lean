import Mathlib.Data.List.Forall2
import WsTrust.Proofs.Collection
import WsTrust.Proofs.Termination
import WsTrust.Proofs.WrittenContext

/-!
# Where records begin

Each record of a message begins at a start tag, which has a place in the
document.  A collection is read member by member, each one from the start tag
that is looked at when the member before it has been read; a single message
begins at the first start tag of all.
-/

namespace WsTrust

/-! ## Start tags in a document -/

namespace Xml

/-- The nesting after pieces that are read one after another. -/
def nestingAfter (nesting : Nesting) (before : List Piece) : Nesting :=
  before.foldl (fun nesting piece => (readPiece nesting piece).2) nesting

/-- A start tag with the pieces of the document before and after it. -/
structure Opening where
  before : List Piece
  content : List Char
  isEmpty : Bool
  later : List Piece
  deriving DecidableEq

namespace Opening

/-- The start tag stands in the document, at this place. -/
def IsIn (opening : Opening) (text : String) : Prop :=
  (pieces (Text.dropByteOrderMark text.toList)).items =
    opening.before ++ .startTag opening.content opening.isEmpty :: opening.later

instance (opening : Opening) (text : String) :
    Decidable (opening.IsIn text) :=
  inferInstanceAs (Decidable (_ = _))

def nesting (opening : Opening) : Nesting :=
  nestingAfter .outermost opening.before

def read (opening : Opening) : OpeningTag :=
  readStartTag opening.nesting.scope opening.content

def items (opening : Opening) (text : String) : List Item :=
  itemsOfPieces opening.nesting
      (.startTag opening.content opening.isEmpty :: opening.later) ++
    ((pieces (Text.dropByteOrderMark text.toList)).fault.map fun flaw =>
      Item.fault (.markup flaw)).toList

def attributes (opening : Opening) : List (List Char × String) :=
  writtenAttributes opening.content

def writtenContext (opening : Opening) : String :=
  contextWritten opening.attributes

/-- The attribute of the start tag that is taken for the context instead of the
one that is written so, if there is such an attribute. -/
def shadowing? (opening : Opening) : Option (List Char × String) :=
  Xml.shadowing? opening.read.scope opening.attributes

variable {opening : Opening} {text : String} {tag : StartTag}
  {behind : List Item}

/-- The first one of its items is what the start tag is read as. -/
theorem tag_of_items
    (begins : opening.items text = .token (.startTag tag) :: behind) :
    opening.read.tag = .ok tag := by
  have head (items : List Item) :
      (readPiece opening.nesting
          (.startTag opening.content opening.isEmpty)).1 ++ items =
        .token (.startTag tag) :: behind →
        opening.read.toItem = .token (.startTag tag) := by
    intro equality
    rw [readPiece] at equality
    split at equality
    · exact (List.cons.inj equality).1
    · exact (List.cons.inj equality).1
  have first : opening.read.toItem = .token (.startTag tag) := by
    apply head
    rw [← begins, items, itemsOfPieces, List.append_assoc]
  rw [OpeningTag.toItem] at first
  split at first
  · rename_i found read
    cases first
    exact read
  · cases first

end Opening

/-- The start tags among pieces of a document that others come before. -/
def openingsFrom (before : List Piece) : List Piece → List Opening
  | [] => []
  | .startTag content isEmpty :: later =>
      ⟨before, content, isEmpty, later⟩ ::
        openingsFrom (before ++ [.startTag content isEmpty]) later
  | piece :: later => openingsFrom (before ++ [piece]) later

def openingsOf (text : String) : List Opening :=
  openingsFrom [] (pieces (Text.dropByteOrderMark text.toList)).items

theorem mem_openingsFrom
    {before passed later : List Piece} (content : List Char) (isEmpty : Bool) :
    ⟨before ++ passed, content, isEmpty, later⟩ ∈
      openingsFrom before
        (passed ++ .startTag content isEmpty :: later) := by
  induction passed generalizing before with
  | nil => simp [openingsFrom]
  | cons piece rest inductionHypothesis =>
      have further := @inductionHypothesis (before ++ [piece])
      rw [List.append_assoc] at further
      cases piece with
      | startTag => exact List.mem_cons_of_mem _ further
      | _ => exact further

theorem Opening.IsIn.mem_openingsOf
    {opening : Opening} {text : String} (placed : opening.IsIn text) :
    opening ∈ openingsOf text := by
  rw [openingsOf, placed]
  exact mem_openingsFrom opening.content opening.isEmpty

/-- Only a piece that is a start tag has one among its items, as the first. -/
theorem eq_startTag_of_readPiece
    {nesting : Nesting} {piece : Piece} {tag : StartTag}
    {earlier later : List Item}
    (split : (readPiece nesting piece).1 =
      earlier ++ .token (.startTag tag) :: later) :
    earlier = [] ∧ ∃ content isEmpty, piece = .startTag content isEmpty := by
  have member :
      Item.token (.startTag tag) ∈ (readPiece nesting piece).1 := by
    rw [split]
    simp
  cases piece with
  | startTag content isEmpty =>
      refine ⟨?_, content, isEmpty, rfl⟩
      cases earlier with
      | nil => rfl
      | cons head passed =>
          rw [readPiece] at split
          cases isEmpty with
          | false => simp at split
          | true =>
              have closing := (List.cons.inj split).2
              cases passed <;> simp at closing
  | skipped => simp [readPiece] at member
  | namelessDoctype => simp [readPiece] at member
  | characterData content => simp [readPiece] at member
  | text raw =>
      rw [readPiece] at member
      split at member <;> simp at member
  | endTag content =>
      cases opened : nesting.opened with
      | nil => simp [readPiece, readEndTag, opened] at member
      | cons written others =>
          by_cases same : endTagName content = written
          · simp [readPiece, readEndTag, opened, same] at member
          · simp [readPiece, readEndTag, opened, same] at member

theorem exists_piece_of_suffix
    {nesting : Nesting} {pieces : List Piece} {ending behind : List Item}
    {tag : StartTag}
    (plain : Item.token (.startTag tag) ∉ ending)
    (suffix : .token (.startTag tag) :: behind <:+
      itemsOfPieces nesting pieces ++ ending) :
    ∃ before content isEmpty later,
      pieces = before ++ .startTag content isEmpty :: later ∧
        itemsOfPieces (nestingAfter nesting before)
            (.startTag content isEmpty :: later) ++ ending =
          .token (.startTag tag) :: behind := by
  induction pieces generalizing nesting with
  | nil =>
      have member := suffix.subset List.mem_cons_self
      exact absurd member plain
  | cons piece rest inductionHypothesis =>
      have further
          (suffix : .token (.startTag tag) :: behind <:+
            itemsOfPieces (readPiece nesting piece).2 rest ++ ending) :
          ∃ before content isEmpty later,
            piece :: rest = before ++ .startTag content isEmpty :: later ∧
              itemsOfPieces (nestingAfter nesting before)
                  (.startTag content isEmpty :: later) ++ ending =
                .token (.startTag tag) :: behind := by
        obtain ⟨before, content, isEmpty, later, rfl, begins⟩ :=
          inductionHypothesis suffix
        exact ⟨piece :: before, content, isEmpty, later, rfl, begins⟩
      obtain ⟨consumed, split⟩ := suffix
      rw [itemsOfPieces, List.append_assoc] at split
      rcases List.append_eq_append_iff.mp split with
        ⟨taken, ofPiece, left⟩ | ⟨passed, _, left⟩
      · cases taken with
        | nil => exact further ⟨[], left⟩
        | cons head taken =>
            obtain ⟨rfl, others⟩ := List.cons.inj left
            obtain ⟨rfl, content, isEmpty, rfl⟩ :=
              eq_startTag_of_readPiece ofPiece
            refine ⟨[], content, isEmpty, rest, rfl, ?_⟩
            rw [nestingAfter, List.foldl_nil, itemsOfPieces,
              List.append_assoc, ofPiece, others]
            rfl
      · exact further ⟨passed, left.symm⟩

/-- A start tag among the items of a document stands in the document. -/
theorem exists_opening
    {text : String} {tag : StartTag} {behind : List Item}
    (suffix : .token (.startTag tag) :: behind <:+ documentItems text) :
    ∃ opening : Opening,
      opening.IsIn text ∧
        opening.items text = .token (.startTag tag) :: behind := by
  have plain :
      Item.token (.startTag tag) ∉
        ((pieces (Text.dropByteOrderMark text.toList)).fault.map fun flaw =>
          Item.fault (.markup flaw)).toList := by
    cases (pieces (Text.dropByteOrderMark text.toList)).fault <;> simp
  obtain ⟨before, content, isEmpty, later, whole, begins⟩ :=
    exists_piece_of_suffix plain suffix
  exact ⟨⟨before, content, isEmpty, later⟩, whole, begins⟩

end Xml

/-- What is left of items and begins with a start tag is a suffix of them, since
looking at a start tag does not change it. -/
theorem Item.Remain.suffix_of_startTag
    {tag : StartTag} {behind items : List Item}
    (remain : Item.Remain (.token (.startTag tag) :: behind) items) :
    .token (.startTag tag) :: behind <:+ items := by
  generalize left : Item.token (.startTag tag) :: behind = given at remain
  induction remain with
  | refl items => exact List.suffix_refl items
  | @lookedAt trimming head token read rest =>
      obtain ⟨tokens, rfl⟩ := List.cons.inj left
      cases tokens
      cases head with
      | token delivered =>
          cases read
          exact List.suffix_refl _
      | characters content =>
          simp only [Item.read?, Option.ite_none_left_eq_some] at read
          obtain ⟨_, impossible⟩ := read
          cases impossible
      | fault cause => cases read
  | cons head _ inductionHypothesis =>
      exact (inductionHypothesis left).trans (List.suffix_cons head _)

open Cursor

/-- A reader that moves forward and succeeds leaves what is left. -/
theorem Cursor.Moves.of_ok
    {Result : Type} {registry : Registry} {origin stream stop : TokenStream}
    {least : Result → Nat} {reader : Cursor Result} {result : Result}
    (moves : Moves registry origin least reader)
    (succeeded : reader stream = .ok result stop)
    (left : stream.IsRestOf origin) :
    stop.IsRestOf stream := by
  have moved := moves stream left
  rw [succeeded] at moved
  cases moved with
  | ok leftLater _ => exact leftLater

theorem TokenStream.IsRestOf.suffix_of_startsWith
    {rest stream : TokenStream} {tag : StartTag}
    (left : rest.IsRestOf stream) (starts : rest.StartsWith (.startTag tag)) :
    rest.items <:+ stream.items := by
  obtain ⟨behind, begins⟩ := starts
  rw [IsRestOf, begins] at left
  rw [begins]
  exact left.suffix_of_startTag

theorem Cursor.startsWith_of_peekStartTag
    {stream rest : TokenStream} {tag : StartTag}
    (looked : peekStartTag stream = .ok (some tag) rest) :
    rest.StartsWith (.startTag tag) := by
  obtain ⟨_, dropped, _, looked⟩ := bind_eq_ok_iff.mp looked
  obtain ⟨token, after, peeked, concluded⟩ := bind_eq_ok_iff.mp looked
  have starts := @startsWith_of_peek dropped after
  cases token with
  | none => cases concluded
  | some token =>
      cases token with
      | startTag opening =>
          cases concluded
          exact starts peeked
      | endTag name => cases concluded
      | text content => cases concluded

/-! ## The records of a body grammar -/

/-- Items that a record with this context begins with. -/
def Opens (context : String) (items : List Item) : Prop :=
  ∃ tag behind, items = .token (.startTag tag) :: behind ∧
    context = BodyGrammar.contextOf tag

namespace BodyGrammar

variable {Record Child : Type} {grammar : BodyGrammar Record Child}
  {registry : Registry} {maxDepth : Nat}

/-- Members that are read one after another, each with the items that are left
where its start tag has been looked at. -/
inductive ReadsMembers
    (grammar : BodyGrammar Record Child)
    (registry : Registry) (maxDepth : Nat) :
    TokenStream → List (Record × List Item) → TokenStream → Prop
  | nil (stream : TokenStream) :
      ReadsMembers grammar registry maxDepth stream [] stream
  | cons {stream begun after stop : TokenStream} {tag : StartTag}
      {record : Record} {others : List (Record × List Item)}
      (looked : peekBoundary stream = .ok (some (.opening tag)) begun)
      (read : grammar.read registry maxDepth begun = .ok record after)
      (later : ReadsMembers grammar registry maxDepth after others stop) :
      ReadsMembers grammar registry maxDepth stream
        ((record, begun.items) :: others) stop

/-- A turn reads one more member, from the start tag that is looked at, or is
the last one. -/
theorem collectionTurn_cases
    {elementName : String} {earlier : List Record}
    {stream rest : TokenStream} {turned : Turn (List Record) (List Record)}
    (succeeded :
      grammar.collectionTurn registry maxDepth elementName earlier stream =
        .ok turned rest) :
    (∃ tag begun record,
      peekBoundary stream = .ok (some (.opening tag)) begun ∧
        grammar.read registry maxDepth begun = .ok record rest ∧
          turned = .again (record :: earlier)) ∨
      turned = .done earlier.reverse := by
  obtain ⟨boundary, begun, looked, decided⟩ := bind_eq_ok_iff.mp succeeded
  rcases boundary with _ | tag | name
  · cases decided
  · dsimp only at decided
    split at decided
    · obtain ⟨record, after, read, again⟩ := bind_eq_ok_iff.mp decided
      cases again
      exact Or.inl ⟨tag, begun, record, looked, read, rfl⟩
    · cases decided
  · dsimp only at decided
    split at decided
    · obtain ⟨token, after, _, ended⟩ := bind_eq_ok_iff.mp decided
      cases ended
      exact Or.inr rfl
    · cases decided

/-- The turns of a collection read its members, and add their records to those
that came before. -/
theorem exists_members_of_repeats
    {elementName : String} {earlier records : List Record}
    {stream stop : TokenStream}
    (turns : Repeats (grammar.collectionTurn registry maxDepth elementName)
      earlier stream records stop) :
    ∃ (last : TokenStream) (members : List (Record × List Item)),
      grammar.ReadsMembers registry maxDepth stream members last ∧
        records = earlier.reverse ++ members.map Prod.fst := by
  induction turns with
  | @done _ stream _ _ read =>
      rcases collectionTurn_cases read with
        ⟨_, _, _, _, _, impossible⟩ | last
      · cases impossible
      · cases last
        exact ⟨stream, [], .nil stream, by simp⟩
  | again read _ _ inductionHypothesis =>
      obtain ⟨last, members, readOthers, rfl⟩ := inductionHypothesis
      rcases collectionTurn_cases read with
        ⟨tag, begun, record, looked, readOne, again⟩ | impossible
      · cases again
        exact ⟨last, _, .cons looked readOne readOthers, by simp⟩
      · cases impossible

/-- The records of a collection are those of its members, in their order. -/
theorem exists_members_of_readCollection
    {elementName : String} {stream stop : TokenStream}
    {records : List Record}
    (succeeded : grammar.readCollection registry maxDepth elementName stream =
      .ok records stop) :
    ∃ (root : StartTag) (inside last : TokenStream)
        (members : List (Record × List Item)),
      enter elementName stream = .ok root inside ∧
        grammar.ReadsMembers registry maxDepth inside members last ∧
          records = members.map Prod.fst := by
  obtain ⟨root, inside, entered, repeated⟩ := bind_eq_ok_iff.mp succeeded
  obtain ⟨last, members, readAll, equality⟩ :=
    exists_members_of_repeats (repeating_eq_ok_iff.mp repeated)
  exact ⟨root, inside, last, members, entered, readAll, equality⟩

/-- Members that are read begin on what is left of the stream. -/
theorem ReadsMembers.suffixes
    {origin stream stop : TokenStream}
    (consuming : registry.ConsumesOn origin)
    (children : ∀ row ∈ grammar.children,
      Moves registry origin (fun _ => 1) (row.2 maxDepth))
    {members : List (Record × List Item)}
    (read : grammar.ReadsMembers registry maxDepth stream members stop)
    (left : stream.IsRestOf origin) :
    ∀ member ∈ members, member.2 <:+ origin.items := by
  induction read with
  | nil => simp
  | cons looked readOne _ inductionHypothesis =>
      have peeks : Moves registry origin (fun _ => 0) peekBoundary :=
        Moves.peekBoundary
      have begunLeft := (peeks.of_ok looked left).trans left
      have afterLeft :=
        ((read_moves consuming children).of_ok readOne begunLeft).trans
          begunLeft
      have starts := startsWith_of_peekBoundary looked
      exact List.forall_mem_cons.mpr
        ⟨begunLeft.suffix_of_startsWith starts,
          inductionHypothesis afterLeft⟩

/-- The context of a record is the one that it is made with. -/
structure KeepsContext
    (grammar : BodyGrammar Record Child) (context : Record → String) :
    Prop where
  ofContext (text : String) : context (grammar.ofContext text) = text
  add (record : Record) (child : Child) :
    context (grammar.add record child) = context record

variable {context : Record → String} (kept : grammar.KeepsContext context)

include kept

theorem KeepsContext.turn_ensures
    {record : Record} {text : String} (known : context record = text) :
    Ensures (grammar.turn registry maxDepth record)
      (Turn.Keeps (fun record => context record = text)
        (fun record => context record = text)) := by
  refine Ensures.bind_anything fun boundary => ?_
  rcases boundary with _ | tag | name
  · exact Ensures.pure known
  · refine Ensures.bind_anything fun child => Ensures.pure ?_
    cases child with
    | none => exact known
    | some child => exact (kept.add record child).trans known
  · dsimp only
    split
    · exact Ensures.bind_anything fun _ => Ensures.pure known
    · exact Ensures.refuse _

/-- A record has the context of the start tag that it begins with. -/
theorem KeepsContext.opens_of_read
    {begun after : TokenStream} {record : Record} {tag : StartTag}
    (starts : begun.StartsWith (.startTag tag))
    (read : grammar.read registry maxDepth begun = .ok record after) :
    Opens (context record) begun.items := by
  obtain ⟨behind, begins⟩ := starts
  have found :
      nextStartTag grammar.elementName begun =
        .ok tag { begun with items := behind } := by
    rw [nextStartTag, scan, begins]
    rfl
  rw [BodyGrammar.read, bind_of_ok found, readRest_eq_repeating] at read
  have ensured :
      Ensures
        (repeating (grammar.turn registry maxDepth)
          (grammar.ofContext (contextOf tag)))
        (fun record => context record = contextOf tag) :=
    repeating_ensures _ (fun _ known => kept.turn_ensures known)
      (kept.ofContext (contextOf tag))
  exact ⟨tag, behind, begins, ensured read⟩

theorem KeepsContext.opens_of_readsMembers
    {stream stop : TokenStream} {members : List (Record × List Item)}
    (each : grammar.ReadsMembers registry maxDepth stream members stop) :
    ∀ member ∈ members, Opens (context member.1) member.2 := by
  induction each with
  | nil => simp
  | cons looked read _ inductionHypothesis =>
      have starts := startsWith_of_peekBoundary looked
      exact List.forall_mem_cons.mpr
        ⟨kept.opens_of_read starts read, inductionHypothesis⟩

end BodyGrammar

theorem Request.grammar_keepsContext :
    grammar.KeepsContext fun request => request.context where
  ofContext := context_ofContext
  add := context_add

theorem Response.grammar_keepsContext :
    grammar.KeepsContext fun response => response.context where
  ofContext := context_ofContext
  add := context_add

/-! ## The records of a message -/

namespace Payload

/-- The contexts of the records of a message, in document order. -/
def contexts (payload : Payload) : List String :=
  payload.requests.map (fun request => request.context) ++
    payload.responses.map fun response => response.context

/-- The message is read from the stream, and these items are left where each of
its records begins. -/
inductive RecordsBegin
    (registry : Registry) (maxDepth : Nat) (stream : TokenStream) :
    Payload → List (List Item) → Prop
  | request {root : StartTag} {begun stop : TokenStream} {single : Request}
      (looked : peekStartTag stream = .ok (some root) begun)
      (read : Request.grammar.read registry maxDepth begun =
        .ok single stop) :
      RecordsBegin registry maxDepth stream (.request single) [begun.items]
  | response {root : StartTag} {begun stop : TokenStream} {single : Response}
      (looked : peekStartTag stream = .ok (some root) begun)
      (read : Response.grammar.read registry maxDepth begun =
        .ok single stop) :
      RecordsBegin registry maxDepth stream (.response single) [begun.items]
  | requestCollection {root opened : StartTag}
      {begun inside stop : TokenStream}
      {members : List (Request × List Item)}
      (looked : peekStartTag stream = .ok (some root) begun)
      (entered : enter Kind.requestCollection.rootName begun =
        .ok opened inside)
      (each : Request.grammar.ReadsMembers registry maxDepth inside members
        stop) :
      RecordsBegin registry maxDepth stream
        (.requestCollection (members.map Prod.fst)) (members.map Prod.snd)
  | responseCollection {root opened : StartTag}
      {begun inside stop : TokenStream}
      {members : List (Response × List Item)}
      (looked : peekStartTag stream = .ok (some root) begun)
      (entered : enter Kind.responseCollection.rootName begun =
        .ok opened inside)
      (each : Response.grammar.ReadsMembers registry maxDepth inside members
        stop) :
      RecordsBegin registry maxDepth stream
        (.responseCollection (members.map Prod.fst)) (members.map Prod.snd)

variable {registry : Registry} {maxDepth : Nat} {stream stop : TokenStream}
  {payload : Payload}

theorem exists_recordsBegin
    (succeeded : read registry maxDepth stream = .ok payload stop) :
    ∃ beginnings, RecordsBegin registry maxDepth stream payload beginnings := by
  obtain ⟨root, begun, looked, decided⟩ := bind_eq_ok_iff.mp succeeded
  cases root with
  | none => cases decided
  | some root =>
      cases named : Kind.ofRootName? root.localName with
      | none =>
          simp only [named] at decided
          cases decided
      | some kind =>
          simp only [named] at decided
          cases kind with
          | request =>
              obtain ⟨single, read, rfl⟩ := map_eq_ok_iff.mp decided
              exact ⟨_, .request looked read⟩
          | response =>
              obtain ⟨single, read, rfl⟩ := map_eq_ok_iff.mp decided
              exact ⟨_, .response looked read⟩
          | requestCollection =>
              obtain ⟨records, readAll, rfl⟩ := map_eq_ok_iff.mp decided
              obtain ⟨_, _, _, members, entered, each, rfl⟩ :=
                BodyGrammar.exists_members_of_readCollection readAll
              exact ⟨_, .requestCollection looked entered each⟩
          | responseCollection =>
              obtain ⟨records, readAll, rfl⟩ := map_eq_ok_iff.mp decided
              obtain ⟨_, _, _, members, entered, each, rfl⟩ :=
                BodyGrammar.exists_members_of_readCollection readAll
              exact ⟨_, .responseCollection looked entered each⟩

/-- The records of a message begin with start tags that carry their
contexts. -/
theorem RecordsBegin.opens
    {beginnings : List (List Item)}
    (begin : RecordsBegin registry maxDepth stream payload beginnings) :
    List.Forall₂ Opens payload.contexts beginnings := by
  have single {Record Child : Type} {grammar : BodyGrammar Record Child}
      {context : Record → String} (kept : grammar.KeepsContext context)
      {root : StartTag} {begun stop : TokenStream} {record : Record}
      (looked : peekStartTag stream = .ok (some root) begun)
      (read : grammar.read registry maxDepth begun = .ok record stop) :
      List.Forall₂ Opens [context record] [begun.items] :=
    .cons (kept.opens_of_read (startsWith_of_peekStartTag looked) read) .nil
  have several {Record Child : Type} {grammar : BodyGrammar Record Child}
      {context : Record → String} (kept : grammar.KeepsContext context)
      {inside stop : TokenStream} {members : List (Record × List Item)}
      (each : grammar.ReadsMembers registry maxDepth inside members stop) :
      List.Forall₂ Opens ((members.map Prod.fst).map context)
        (members.map Prod.snd) := by
    rw [List.map_map, List.forall₂_map_left_iff, List.forall₂_map_right_iff]
    exact List.forall₂_same.mpr (kept.opens_of_readsMembers each)
  cases begin with
  | request looked read =>
      exact single Request.grammar_keepsContext looked read
  | response looked read =>
      exact single Response.grammar_keepsContext looked read
  | requestCollection _ _ each =>
      rw [contexts, requests, responses, List.map_nil, List.append_nil]
      exact several Request.grammar_keepsContext each
  | responseCollection _ _ each =>
      exact several Response.grammar_keepsContext each

/-- The records of a message begin on what is left of the stream. -/
theorem RecordsBegin.suffixes
    {beginnings : List (List Item)}
    (begin : RecordsBegin registry maxDepth stream payload beginnings)
    (consuming : registry.ConsumesOn stream) :
    ∀ items ∈ beginnings, items <:+ stream.items := by
  have composes := Moves.compositional registry stream
  have peeks : Moves registry stream (fun _ => 0) peekStartTag :=
    Moves.peekStartTag
  have single {root : StartTag} {begun : TokenStream}
      (looked : peekStartTag stream = .ok (some root) begun) :
      ∀ items ∈ [begun.items], items <:+ stream.items := by
    have left := peeks.of_ok looked (.refl stream)
    simpa using left.suffix_of_startsWith (startsWith_of_peekStartTag looked)
  have several {Record Child : Type} {grammar : BodyGrammar Record Child}
      (children : ∀ row ∈ grammar.children,
        Moves registry stream (fun _ => 1) (row.2 maxDepth))
      {elementName : String} {root opened : StartTag}
      {begun inside stop : TokenStream} {members : List (Record × List Item)}
      (looked : peekStartTag stream = .ok (some root) begun)
      (entered : enter elementName begun = .ok opened inside)
      (each : grammar.ReadsMembers registry maxDepth inside members stop) :
      ∀ items ∈ members.map Prod.snd, items <:+ stream.items := by
    have begunLeft := peeks.of_ok looked (.refl stream)
    have insideLeft :=
      ((composes.enter elementName).of_ok entered begunLeft).trans begunLeft
    intro items member
    obtain ⟨one, inMembers, rfl⟩ := List.mem_map.mp member
    exact each.suffixes consuming children insideLeft one inMembers
  cases begin with
  | request looked read => exact single looked
  | response looked read => exact single looked
  | requestCollection looked entered each =>
      exact several (composes.requestChildren maxDepth) looked entered each
  | responseCollection looked entered each =>
      exact several (composes.responseChildren maxDepth) looked entered each

end Payload

end WsTrust
