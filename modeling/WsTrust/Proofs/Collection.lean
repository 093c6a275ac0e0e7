import WsTrust.Payload
import WsTrust.Proofs.Body
import WsTrust.Proofs.ChildEnds

/-!
# Collections

A collection that is read successfully has one record for each of its members,
read from the children of that member, exactly if all of these children fit
their content model.
-/

namespace WsTrust

open Cursor

/-- Every child of every member of the collection fits its content model. -/
def Element.MembersFit (collection : Element) : Prop :=
  ∀ member ∈ collection.childElements,
    ∀ child ∈ member.childElements, child.FitsContentModel

/-- The registry is one of the two that are ready-made. -/
def Registry.IsPlain (registry : Registry) : Prop :=
  registry = .empty ∨ registry = .standard

namespace BodyGrammar

variable {Record Child : Type} {grammar : BodyGrammar Record Child}
  {registry : Registry} {maxDepth : Nat}

/-! ## Members -/

theorem turn_elementWise :
    ElementWise (grammar.turn registry maxDepth)
      (fun child => grammar.readChild registry maxDepth child.name)
      grammar.addOptional where
  ignores := turn_ignores
  becomes record child :=
    turn_becomes record child.startTag child.contentTokens

/-- The record is the one of an element with a context, to which each child has
added what is read from its own tokens. -/
def IsRecordOf
    (grammar : BodyGrammar Record Child)
    (registry : Registry) (maxDepth : Nat)
    (member : Element) (record : Record) : Prop :=
  ∃ children,
    ReadsEach (fun child => grammar.readChild registry maxDepth child.name)
      member.childElements children ∧
    record = grammar.addAll
      (grammar.ofContext (contextOf member.startTag)) children

theorem read_becomes (member : Element) :
    Becomes (grammar.read registry maxDepth) member.tokens
      (grammar.readRest registry maxDepth
        (grammar.ofContext (contextOf member.startTag)))
      member.contentTokens :=
  (nextStartTag_reads grammar.elementName member.startTag).becomes _ _

theorem read_reads_children
    {member : Element} {children : List (Option Child)}
    (named : member.localName = grammar.elementName)
    (read :
      ReadsEach
        (fun child => grammar.readChild registry maxDepth child.name)
        member.childElements children) :
    Reads (grammar.read registry maxDepth) member.tokens
      (grammar.addAll (grammar.ofContext (contextOf member.startTag))
        children) :=
  (read_becomes member).reads
    (turn_elementWise.reads read (turn_closes named _))

/-- If the readers settle on all children of a member, it is read to its record
or not at all. -/
theorem read_reads_or_fails
    {member : Element}
    (named : member.localName = grammar.elementName)
    (settled : ∀ child ∈ member.childElements,
      Settles (grammar.readChild registry maxDepth child.name)
        child.tokens) :
    (∃ record, grammar.IsRecordOf registry maxDepth member record ∧
      Reads (grammar.read registry maxDepth) member.tokens record) ∨
    Fails (grammar.read registry maxDepth) member.tokens := by
  rcases turn_elementWise.reads_or_fails settled (turn_closes named)
      (grammar.ofContext (contextOf member.startTag)) with
    ⟨children, readAll, _⟩ | failed
  · exact Or.inl ⟨_, ⟨children, readAll, rfl⟩,
      read_reads_children named readAll⟩
  · exact Or.inr ((read_becomes member).fails failed)

/-! ## The content of a collection -/

def collectionTurn
    (grammar : BodyGrammar Record Child)
    (registry : Registry) (maxDepth : Nat) (elementName : String)
    (earlier : List Record) :
    Cursor (Turn (List Record) (List Record)) := do
  match ← Cursor.peekBoundary with
  | some (.opening tag) =>
      if tag.localName = grammar.elementName then
        let record ← grammar.read registry maxDepth
        return .again (record :: earlier)
      else
        Cursor.refuse (.unexpectedTag grammar.elementName tag.localName)
  | some (.closing name) =>
      if name.localPart = elementName then
        let _ ← Cursor.next
        return .done earlier.reverse
      else
        Cursor.refuse (.unexpectedClose name.localPart)
  | none => Cursor.refuse (.streamExhausted elementName)

theorem collectionTurn_becomes
    {elementName : String} {tag : StartTag}
    (named : tag.localName = grammar.elementName)
    (earlier : List Record) (tokens : List Token) :
    Becomes
      (grammar.collectionTurn registry maxDepth elementName earlier)
      (.startTag tag :: tokens)
      (grammar.read registry maxDepth >>= fun record =>
        pure (.again (record :: earlier)))
      (.startTag tag :: tokens) := by
  refine (peekBoundary_of_startTag tokens _ tag).trans ?_
  simp only [if_pos named]
  exact Becomes.refl _ _

theorem collectionTurn_closes
    {elementName : String} {name : QName}
    (named : name.localPart = elementName) (earlier : List Record) :
    Reads (grammar.collectionTurn registry maxDepth elementName earlier)
      [.endTag name] (.done earlier.reverse) := by
  refine (peekBoundary_of_endTag [] _ name).reads ?_
  simp only [if_pos named]
  exact (next_reads (.endTag name)).bind_last (Reads.pure _)

/-- The reader of the elements in a collection, which all have to be
messages. -/
def readMember
    (grammar : BodyGrammar Record Child)
    (registry : Registry) (maxDepth : Nat)
    (member : Element) : Cursor Record :=
  if member.startTag.localName = grammar.elementName then
    grammar.read registry maxDepth
  else
    Cursor.refuse (.unexpectedTag grammar.elementName
      member.startTag.localName)

theorem readMember_reads
    {member : Element} {children : List (Option Child)}
    (named : member.localName = grammar.elementName)
    (read :
      ReadsEach
        (fun child => grammar.readChild registry maxDepth child.name)
        member.childElements children) :
    Reads (grammar.readMember registry maxDepth member) member.tokens
      (grammar.addAll (grammar.ofContext (contextOf member.startTag))
        children) := by
  have tagNamed : member.startTag.localName = grammar.elementName := named
  rw [readMember, if_pos tagNamed]
  exact read_reads_children named read

theorem collectionTurn_elementWise (elementName : String) :
    ElementWise (grammar.collectionTurn registry maxDepth elementName)
      (grammar.readMember registry maxDepth)
      (fun earlier record => record :: earlier) where
  ignores content := fun _ left =>
    (peekBoundary_of_text left content).bind _
  becomes earlier member := by
    rw [readMember]
    by_cases named : member.startTag.localName = grammar.elementName
    · rw [if_pos named]
      exact collectionTurn_becomes named earlier member.contentTokens
    · rw [if_neg named]
      refine (peekBoundary_of_startTag member.contentTokens _
        member.startTag).trans ?_
      simp only [if_neg named]
      exact fun stream _ => ⟨stream, rfl⟩

theorem readCollection_becomes
    {collection : Element} {elementName : String}
    (named : collection.localName = elementName) :
    Becomes (grammar.readCollection registry maxDepth elementName)
      collection.tokens
      (repeating (grammar.collectionTurn registry maxDepth elementName) [])
      collection.contentTokens :=
  enter_becomes_content named _

theorem readCollection_reads
    {collection : Element} {elementName : String} {records : List Record}
    (named : collection.localName = elementName)
    (read :
      ReadsEach (grammar.readMember registry maxDepth)
        collection.childElements records) :
    Reads (grammar.readCollection registry maxDepth elementName)
      collection.tokens records := by
  refine (readCollection_becomes named).reads
    ((collectionTurn_elementWise elementName).reads read ?_)
  have closed :
      Reads
        (grammar.collectionTurn registry maxDepth elementName
          (records.foldl (fun earlier record => record :: earlier) []))
        [.endTag collection.name] (.done _) :=
    collectionTurn_closes named _
  rwa [reverse_foldl_cons] at closed

/-- If all members are named like messages and the readers settle on all their
children, the collection is read to the records of its members or not at
all. -/
theorem readCollection_reads_or_fails
    {collection : Element} {elementName : String}
    (named : collection.localName = elementName)
    (membersNamed : ∀ member ∈ collection.childElements,
      member.localName = grammar.elementName)
    (settled : ∀ member ∈ collection.childElements,
      ∀ child ∈ member.childElements,
        Settles (grammar.readChild registry maxDepth child.name)
          child.tokens) :
    (∃ records,
      List.Forall₂ (grammar.IsRecordOf registry maxDepth)
        collection.childElements records ∧
      Reads (grammar.readCollection registry maxDepth elementName)
        collection.tokens records) ∨
    Fails (grammar.readCollection registry maxDepth elementName)
      collection.tokens := by
  have membersRead : ∀ member ∈ collection.childElements,
      (∃ record, grammar.IsRecordOf registry maxDepth member record ∧
        Reads (grammar.readMember registry maxDepth member)
          member.tokens record) ∨
      Fails (grammar.readMember registry maxDepth member)
        member.tokens := by
    intro member inCollection
    have memberNamed : member.startTag.localName = grammar.elementName :=
      membersNamed member inCollection
    rw [readMember, if_pos memberNamed]
    exact read_reads_or_fails memberNamed (settled member inCollection)
  have membersSettled : ∀ member ∈ collection.childElements,
      Settles (grammar.readMember registry maxDepth member)
        member.tokens := by
    intro member inCollection
    rcases membersRead member inCollection with
      ⟨record, _, read⟩ | failed
    · exact Settles.of_reads read
    · exact Settles.of_fails failed
  rcases (collectionTurn_elementWise elementName).reads_or_fails
      membersSettled (collectionTurn_closes named) [] with
    ⟨records, readAll, _⟩ | failed
  · refine Or.inl ⟨records, ?_, readCollection_reads named readAll⟩
    have paired := (List.forall₂_and_left _ _).mpr ⟨membersRead, readAll⟩
    refine paired.imp fun member record each => ?_
    rcases each with ⟨⟨other, isRecord, readOther⟩ | failed, readRecord⟩
    · rwa [readRecord.unique readOther]
    · exact absurd failed readRecord.not_fails
  · exact Or.inr ((readCollection_becomes named).fails failed)

/-! ## Children under the ready-made registries -/

theorem readChild_fails_of_unknown
    {name : QName} (plain : registry.IsPlain)
    (unknown : ¬ grammar.Knows registry name) (tokens : List Token) :
    Fails (grammar.readChild registry maxDepth name) tokens := by
  have absent : grammar.children.lookup name.localPart = none :=
    Option.not_isSome_iff_eq_none.mp fun tabled => unknown (Or.inl tabled)
  have unclaimed : registry.lookup? name = none := by
    rcases plain with rfl | rfl
    · rfl
    · have notParty :
          ¬ name.isNamed Vocabulary.policy "AppliesTo" := fun party =>
        unknown (Or.inr ⟨rfl, party⟩)
      simp [Registry.lookup?, Registry.standard, Registry.register,
        Registry.empty, Registry.policyExtension, notParty]
  simp only [readChild, absent, readExtension, unclaimed]
  exact Fails.refuse _ tokens

theorem readChild_settles
    (kept : ∀ row ∈ grammar.children, KeepsTo row.1 row.2)
    (plain : registry.IsPlain) {child : Element}
    (fits : child.FitsContentModel) :
    Settles (grammar.readChild registry maxDepth child.name)
      child.tokens := by
  by_cases known : grammar.Knows registry child.name
  · exact (readChild_settlesIf kept known maxDepth).1 fits
  · exact Settles.of_fails (readChild_fails_of_unknown plain known _)

/-- A child that is read by its own tokens fits its content model. -/
theorem fitsContentModel_of_reads
    (kept : ∀ row ∈ grammar.children, KeepsTo row.1 row.2)
    (plain : registry.IsPlain) {child : Element} {value : Option Child}
    (read : Reads (grammar.readChild registry maxDepth child.name)
      child.tokens value) :
    child.FitsContentModel := by
  by_cases known : grammar.Knows registry child.name
  · have held := TokenStream.holds_ofTokens (child.tokens ++ [])
    obtain ⟨after, succeeded, stopped⟩ := read.holds held
    have settled := readChild_settlesIf kept known maxDepth
    exact (settled.of_ok held succeeded).1.mp stopped
  · exact absurd (readChild_fails_of_unknown plain known _) read.not_fails

/-- A collection that is read successfully stops behind itself with the records
of its members exactly if all their children fit. -/
theorem readCollection_of_ok
    (kept : ∀ row ∈ grammar.children, KeepsTo row.1 row.2)
    (plain : registry.IsPlain)
    {collection : Element} {elementName : String}
    (named : collection.localName = elementName)
    (membersNamed : ∀ member ∈ collection.childElements,
      member.localName = grammar.elementName)
    {stream after : TokenStream} {rest : List Token} {records : List Record}
    (held : stream.Holds (collection.tokens ++ rest))
    (succeeded :
      grammar.readCollection registry maxDepth elementName stream =
        .ok records after) :
    collection.MembersFit ↔
      List.Forall₂ (grammar.IsRecordOf registry maxDepth)
        collection.childElements records ∧
      after.Holds rest := by
  constructor
  · intro fit
    have settled : ∀ member ∈ collection.childElements,
        ∀ child ∈ member.childElements,
          Settles (grammar.readChild registry maxDepth child.name)
            child.tokens := fun member inCollection child inMember =>
      readChild_settles kept plain (fit member inCollection child inMember)
    rcases readCollection_reads_or_fails named membersNamed settled with
      ⟨others, each, read⟩ | failed
    · obtain ⟨rfl, stopped⟩ := read.of_ok held succeeded
      exact ⟨each, stopped⟩
    · exact absurd succeeded (failed.not_ok held)
  · rintro ⟨each, _⟩ member inCollection child inMember
    obtain ⟨record, children, readAll, _⟩ :=
      exists_of_forall₂ each inCollection
    obtain ⟨value, read⟩ := exists_of_forall₂ readAll inMember
    exact fitsContentModel_of_reads kept plain read

end BodyGrammar

/-! ## Contexts -/

theorem Response.context_of_isRecordOf
    {registry : Registry} {maxDepth : Nat} {member : Element}
    {response : Response}
    (isRecord : grammar.IsRecordOf registry maxDepth member response) :
    response.context = BodyGrammar.contextOf member.startTag := by
  obtain ⟨children, _, rfl⟩ := isRecord
  have kept := grammar.addAll_keeps (fun each => each.context) context_add
  exact (kept _ children).trans (context_ofContext _)

theorem Request.context_of_isRecordOf
    {registry : Registry} {maxDepth : Nat} {member : Element}
    {request : Request}
    (isRecord : grammar.IsRecordOf registry maxDepth member request) :
    request.context = BodyGrammar.contextOf member.startTag := by
  obtain ⟨children, _, rfl⟩ := isRecord
  have kept := grammar.addAll_keeps (fun each => each.context) context_add
  exact (kept _ children).trans (context_ofContext _)

/-! ## Payloads that are collections -/

namespace Payload

variable {registry : Registry} {maxDepth : Nat}

@[simp]
theorem Kind.ofRootName?_rootName (kind : Kind) :
    Kind.ofRootName? kind.rootName = some kind := by
  cases kind <;> decide

/-- The first start tag decides how a message is read. -/
theorem read_becomes_at_root
    {leading : List Token}
    (noTag : ∀ token ∈ leading, token.isStartTag = false)
    (root : StartTag) (tokens : List Token) :
    Becomes (read registry maxDepth) (leading ++ .startTag root :: tokens)
      (match Kind.ofRootName? root.localName with
        | some kind => readKind registry maxDepth kind
        | none => Cursor.refuse (.unsupportedPayload root.localName))
      (.startTag root :: tokens) := by
  intro stream rest
  refine ⟨stream, ?_⟩
  have dropped :
      (leading ++ .startTag root :: (tokens ++ rest)).dropWhile
          (fun token => !token.isStartTag) =
        .startTag root :: (tokens ++ rest) := by
    rw [List.dropWhile_append_of_pos fun token member => by
      rw [noTag token member]
      rfl]
    rfl
  have looked :
      peekStartTag
          (stream.withTokens (leading ++ .startTag root :: (tokens ++ rest))) =
        .ok (some root)
          (stream.withTokens (.startTag root :: (tokens ++ rest))) := by
    rw [peekStartTag, bind_of_ok (dropUntil_withTokens ..), dropped]
    rfl
  rw [List.append_assoc, List.cons_append]
  exact bind_of_ok looked

/-- A message is read by the kind that its root element is named for. -/
theorem read_becomes
    (kind : Kind) {tag : StartTag}
    (named : tag.localName = kind.rootName) (tokens : List Token) :
    Becomes (read registry maxDepth) (.startTag tag :: tokens)
      (readKind registry maxDepth kind) (.startTag tag :: tokens) := by
  have becomes := @read_becomes_at_root registry maxDepth [] nofun tag tokens
  rwa [named, Kind.ofRootName?_rootName] at becomes

/-- What reading a collection gives is given under its root name. -/
theorem readKind_of_ok
    (kind : Kind) {collection : Element}
    (named : collection.localName = kind.rootName)
    {stream after : TokenStream} {rest : List Token} {payload : Payload}
    (held : stream.Holds (collection.tokens ++ rest))
    (succeeded : read registry maxDepth stream = .ok payload after) :
    ∃ entered : TokenStream,
      entered.Holds (collection.tokens ++ rest) ∧
      readKind registry maxDepth kind entered = .ok payload after := by
  have rootNamed : collection.startTag.localName = kind.rootName := named
  obtain ⟨entered, equality⟩ :=
    read_becomes kind rootNamed collection.contentTokens stream rest
  refine ⟨entered.withTokens (collection.tokens ++ rest),
    entered.holds_withTokens _, ?_⟩
  rw [held.eq_withTokens] at succeeded
  exact equality.symm.trans succeeded

end Payload

/-- The message is a collection with one record for each member, in document
order: the record has the context of the member and, over it, what is read from
each child of the member. -/
def Payload.HoldsMembers
    {Record Child : Type} (payload : Payload)
    (collect : List Record → Payload) (contextIn : Record → String)
    (grammar : BodyGrammar Record Child)
    (registry : Registry) (maxDepth : Nat) (members : List Element) : Prop :=
  ∃ records,
    payload = collect records ∧
    List.Forall₂
      (fun member record =>
        contextIn record = BodyGrammar.contextOf member.startTag ∧
          grammar.IsRecordOf registry maxDepth member record)
      members records

theorem Payload.holdsMembers_collect_iff
    {Record Child : Type} {collect : List Record → Payload}
    {contextIn : Record → String} {grammar : BodyGrammar Record Child}
    {registry : Registry} {maxDepth : Nat}
    (injective : ∀ left right, collect left = collect right → left = right)
    (hasContext : ∀ member record,
      grammar.IsRecordOf registry maxDepth member record →
        contextIn record = BodyGrammar.contextOf member.startTag)
    (records : List Record) (members : List Element) :
    (collect records).HoldsMembers collect contextIn grammar registry
        maxDepth members ↔
      List.Forall₂ (grammar.IsRecordOf registry maxDepth)
        members records := by
  constructor
  · rintro ⟨others, equality, each⟩
    rw [injective records others equality]
    exact each.imp fun _ _ both => both.2
  · intro each
    exact ⟨records, rfl, each.imp fun member record isRecord =>
      ⟨hasContext member record isRecord, isRecord⟩⟩

/-- A collection that is read successfully is delivered with one record for each
of its members, and nothing behind it is consumed, exactly if all children of
its members fit their content model. -/
theorem collection_holds_one_record_per_member
    {registry : Registry} (plain : registry.IsPlain) {maxDepth : Nat}
    {collection : Element} {rest : List Token}
    {stream after : TokenStream} {payload : Payload}
    (held : stream.Holds (collection.tokens ++ rest))
    (succeeded : Payload.read registry maxDepth stream = .ok payload after) :
    (collection.localName = "RequestSecurityTokenResponseCollection" →
      (∀ member ∈ collection.childElements,
        member.localName = "RequestSecurityTokenResponse") →
      (collection.MembersFit ↔
        payload.HoldsMembers .responseCollection (fun record => record.context)
          Response.grammar registry maxDepth collection.childElements ∧
        after.Holds rest)) ∧
    (collection.localName = "RequestSecurityTokenCollection" →
      (∀ member ∈ collection.childElements,
        member.localName = "RequestSecurityToken") →
      (collection.MembersFit ↔
        payload.HoldsMembers .requestCollection (fun record => record.context)
          Request.grammar registry maxDepth collection.childElements ∧
        after.Holds rest)) := by
  constructor
  · intro named membersNamed
    obtain ⟨entered, heldAgain, readKind⟩ :=
      Payload.readKind_of_ok .responseCollection named held succeeded
    obtain ⟨responses, readCollection, rfl⟩ := map_eq_ok_iff.mp readKind
    rw [Payload.holdsMembers_collect_iff
      (fun _ _ => Payload.responseCollection.inj)
      (fun _ _ => Response.context_of_isRecordOf)]
    exact BodyGrammar.readCollection_of_ok Response.children_keep
      plain named membersNamed heldAgain readCollection
  · intro named membersNamed
    obtain ⟨entered, heldAgain, readKind⟩ :=
      Payload.readKind_of_ok .requestCollection named held succeeded
    obtain ⟨requests, readCollection, rfl⟩ := map_eq_ok_iff.mp readKind
    rw [Payload.holdsMembers_collect_iff
      (fun _ _ => Payload.requestCollection.inj)
      (fun _ _ => Request.context_of_isRecordOf)]
    exact BodyGrammar.readCollection_of_ok Request.children_keep
      plain named membersNamed heldAgain readCollection

def trustElement
    (localPart : String) (attributes : List Attribute)
    (children : List Node) : Element :=
  ⟨QName.ofParts Vocabulary.trust localPart, attributes, children⟩

def responseOf (context : String) (children : List Node) : Element :=
  trustElement "RequestSecurityTokenResponse"
    [⟨QName.ofLocal "Context", context⟩] children

def responsesOf (members : List Element) : Element :=
  trustElement "RequestSecurityTokenResponseCollection" []
    (members.map Element.toNode)

def keyValue : Element :=
  trustElement "KeyValue" [] []

def useKeyOf (behind : List Node) : Element :=
  trustElement "UseKey" [] (keyValue.toNode :: behind)

theorem two_responses_are_held :
    let collection := responsesOf
      [responseOf "a" [(useKeyOf []).toNode], responseOf "b" []]
    ∃ (payload : Payload) (after : TokenStream),
      Payload.read .standard 8 (TokenStream.ofTokens collection.tokens) =
        .ok payload after ∧
      payload.HoldsMembers .responseCollection
        (fun record => record.context) Response.grammar .standard 8
        collection.childElements ∧
      after.Holds [] := by
  intro collection
  have readKey :
      Reads (Response.grammar.readChild .standard 8 (useKeyOf []).name)
        (useKeyOf []).tokens (some (.term (.useKey ⟨keyValue⟩))) :=
    fun stream _ => ⟨stream.withVerbatim false, rfl⟩
  have readFirst :
      ReadsEach
        (fun child => Response.grammar.readChild .standard 8 child.name)
        (responseOf "a" [(useKeyOf []).toNode]).childElements
        [some (.term (.useKey ⟨keyValue⟩))] := .cons readKey .nil
  have readSecond :
      ReadsEach
        (fun child => Response.grammar.readChild .standard 8 child.name)
        (responseOf "b" []).childElements [] := .nil
  have readMembers :
      ReadsEach (Response.grammar.readMember .standard 8)
        collection.childElements _ :=
    .cons (BodyGrammar.readMember_reads rfl readFirst)
      (.cons (BodyGrammar.readMember_reads rfl readSecond) .nil)
  have rootNamed :
      collection.startTag.localName =
        Payload.Kind.responseCollection.rootName := rfl
  have entered :
      Becomes (Payload.read .standard 8) collection.tokens
        (Payload.readKind .standard 8 .responseCollection)
        collection.tokens :=
    Payload.read_becomes .responseCollection rootNamed _
  have read :=
    entered.reads ((BodyGrammar.readCollection_reads rfl readMembers).map _)
  have held : (TokenStream.ofTokens collection.tokens).Holds
      (collection.tokens ++ []) := rfl
  obtain ⟨after, succeeded, _⟩ := read.holds held
  have fit : collection.MembersFit := by
    have keyFits : (useKeyOf []).FitsContentModel := Nat.le_refl 1
    exact List.forall_mem_cons.mpr
      ⟨List.forall_mem_cons.mpr ⟨keyFits, nofun⟩,
        List.forall_mem_cons.mpr ⟨nofun, nofun⟩⟩
  have holds := collection_holds_one_record_per_member (Or.inr rfl) held
    succeeded
  obtain ⟨members, stopped⟩ := (holds.1 rfl (by decide)).mp fit
  exact ⟨_, after, succeeded, members, stopped⟩

/-- Two responses, the first of which has a key with a whole collection behind
it. -/
def nestedResponses : Element :=
  let innermost := trustElement "UseKey" [] []
  let inner := responsesOf [responseOf "" [innermost.toNode]]
  responsesOf
    [responseOf "a" [(useKeyOf [inner.toNode]).toNode], responseOf "b" []]

namespace NestedResponses

/-- The key of the first response, as far as it is read: it is closed by the end
tag of the innermost element. -/
def closedKey : BodyGrammar.Block Response.grammar .standard 8 where
  opening := (useKeyOf []).startTag
  content := keyValue.tokens ++
    [.startTag (responsesOf []).startTag,
      .startTag (responseOf "" []).startTag,
      .startTag (useKeyOf []).startTag, .endTag (useKeyOf []).name]
  child := some (.term (.useKey ⟨keyValue⟩))
  reads stream _ := ⟨stream.withVerbatim false, rfl⟩

/-- The first response, closed by the end tag of the one inside its key. -/
def closedResponse : List Token :=
  .startTag (responseOf "a" []).startTag ::
    ([BodyGrammar.BodyPart.block closedKey].flatMap
        BodyGrammar.BodyPart.tokens ++
      [.endTag (responseOf "" []).name])

/-- The collection, closed by the end tag of the one inside the key. -/
def closedCollection : List Token :=
  .startTag nestedResponses.startTag ::
    (closedResponse ++ [.endTag (responsesOf []).name])

def onlyResponse : Response :=
  { context := "a", useKey := some ⟨keyValue⟩ }

theorem read_closedResponse :
    Reads (Response.grammar.read .standard 8) closedResponse onlyResponse :=
  BodyGrammar.read_reads (responseOf "a" []).startTag
    [.block closedKey] rfl

theorem readCollection_closedCollection :
    Reads
      (Response.grammar.readCollection .standard 8
        "RequestSecurityTokenResponseCollection")
      closedCollection [onlyResponse] := by
  have turned :
      Reads
        (Response.grammar.collectionTurn .standard 8
          "RequestSecurityTokenResponseCollection" [])
        closedResponse (.again [onlyResponse]) :=
    (BodyGrammar.collectionTurn_becomes rfl [] _).reads
      (read_closedResponse.bind_last (Reads.pure _))
  have closed :
      Reads
        (Response.grammar.collectionTurn .standard 8
          "RequestSecurityTokenResponseCollection" [onlyResponse])
        [.endTag (responsesOf []).name] (.done [onlyResponse]) :=
    BodyGrammar.collectionTurn_closes rfl _
  have rootNamed :
      nestedResponses.startTag.localName =
        "RequestSecurityTokenResponseCollection" := rfl
  have entered :
      Becomes
        (Response.grammar.readCollection .standard 8
          "RequestSecurityTokenResponseCollection")
        closedCollection
        (repeating
          (Response.grammar.collectionTurn .standard 8
            "RequestSecurityTokenResponseCollection") [])
        (closedResponse ++ [.endTag (responsesOf []).name]) :=
    enter_becomes rootNamed _ _
  exact entered.reads
    ((repeating_becomes turned (by simp [closedResponse]) _).reads
      (repeating_reads closed))

/-- What is left of the outer elements and the whole second response. -/
def unread : List Token :=
  [.endTag (useKeyOf []).name, .endTag (responseOf "a" []).name,
    .startTag (responseOf "b" []).startTag, .endTag (responseOf "b" []).name,
    .endTag nestedResponses.name]

theorem tokens_eq : nestedResponses.tokens = closedCollection ++ unread := rfl

theorem read_closedCollection :
    Reads (Payload.read .standard 8) closedCollection
      (.responseCollection [onlyResponse]) :=
  (Payload.read_becomes .responseCollection rfl _).reads
    (readCollection_closedCollection.map _)

end NestedResponses

/-- The key of the first response is closed by the end of the innermost element,
so the end tags after it close the response and the collection; the second
response is never reached. -/
theorem not_all_members_are_held :
    ¬ ∀ (registry : Registry) (maxDepth : Nat) (collection : Element)
      (rest : List Token) (stream after : TokenStream) (payload : Payload),
      registry.IsPlain →
      collection.localName = "RequestSecurityTokenResponseCollection" →
      (∀ member ∈ collection.childElements,
        member.localName = "RequestSecurityTokenResponse") →
      stream.Holds (collection.tokens ++ rest) →
      Payload.read registry maxDepth stream = .ok payload after →
      ∃ responses,
        payload = .responseCollection responses ∧
        responses.map (fun response => response.context) =
          collection.childElements.map (fun member =>
            BodyGrammar.contextOf member.startTag) ∧
        after.Holds rest := by
  intro allHeld
  have held :
      (TokenStream.ofTokens nestedResponses.tokens).Holds
        (NestedResponses.closedCollection ++ NestedResponses.unread) := by
    rw [NestedResponses.tokens_eq]
    rfl
  obtain ⟨after, succeeded, _⟩ :=
    NestedResponses.read_closedCollection.holds held
  obtain ⟨responses, same, contexts, _⟩ :=
    allHeld .standard 8 nestedResponses []
      (TokenStream.ofTokens nestedResponses.tokens) after _ (Or.inr rfl) rfl
      (by decide) rfl succeeded
  cases same
  cases contexts

end WsTrust
