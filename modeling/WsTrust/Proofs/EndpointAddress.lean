import WsTrust.Proofs.Delivery
import WsTrust.Proofs.FragmentLists

/-!
# The address of an endpoint

The address is what the first `Address` among the children of an endpoint holds.
As long as none was found the other children are skipped, and once it is found
all of them are, so nothing else in the endpoint makes a difference.
-/

namespace WsTrust

open Cursor

/-! ## Text that is not there -/

/-- An element without a required text is refused for a reason of its own,
whatever follows it. -/
theorem Cursor.requiredText_refuses
    (within what : String) {element : Element}
    (missing : ¬ element.HoldsText) :
    ∃ (error : ParseError) (left : List Token),
      Refuses (requiredText within what) element.contentTokens
        (.parse error) left := by
  rw [Element.contentTokens]
  cases elements : element.childElements with
  | nil =>
      have blank : element.trimmedText = "" :=
        Decidable.byContradiction fun present =>
          missing ⟨elements, present⟩
      obtain ⟨left, refused⟩ :=
        requiredText_refuses_blank within what blank element.name
      rw [← Node.tokensOfAll_of_no_element elements] at refused
      exact ⟨_, left, refused⟩
  | cons inner others =>
      obtain ⟨texts, after, children⟩ :=
        Node.exists_texts_before_element elements
      have tokens :
          Node.tokensOfAll element.children ++ [.endTag element.name] =
            texts.map Token.text ++ [.startTag inner.startTag] ++
              (inner.contentTokens ++
                (Node.tokensOfAll after ++ [.endTag element.name])) := by
        rw [children, Node.tokensOfAll_append, Node.tokensOfAll_map_text,
          Node.tokensOfAll_cons]
        simp [Node.tokens, Element.toNode, Element.contentTokens,
          Element.startTag]
      rw [tokens]
      cases texts with
      | nil =>
          have isTag : (Token.startTag inner.startTag).isText = false := rfl
          have refused := requiredText_refuses_tag within what isTag
          exact ⟨_, _, refused.append _⟩
      | cons head tail =>
          have refused := requiredText_refuses_element within what head tail
            inner.startTag
          exact ⟨_, _, refused.append _⟩

namespace AppliesTo

/-! ## Single children -/

/-- An address in the place of the first one is read for its text. -/
theorem turn_becomes_of_address
    {part : Element} (named : part.localName = "Address") :
    Becomes (turn none) part.tokens
      (requiredText "Address" "endpoint address" >>= fun found =>
        pure (.again (some found)))
      part.contentTokens := by
  have wanted : part.startTag.localName = "Address" := named
  refine (peekChild_of_startTag part.contentTokens _ _
    part.startTag).trans ?_
  simp only [wanted, and_self, if_true]
  exact enter_becomes_content named _

/-- Any other child, and a later address, is skipped. -/
theorem turn_skips
    {part : Element} {address : Option String}
    (unwanted : ¬ (part.localName = "Address" ∧ address = none)) :
    Reads (turn address) part.tokens (.again address) := by
  have notWanted :
      ¬ (part.startTag.localName = "Address" ∧ address = none) := unwanted
  apply (peekChild_of_startTag part.contentTokens _ _ part.startTag).reads
  simp only [if_neg notWanted]
  exact (skipElement_reads part).bind_last (Reads.pure _)

/-! ## The content of an endpoint -/

/-- Content without a child that is wanted is passed over in the state that it
is met in. -/
theorem passes_unwanted
    {nodes : List Node} {address : Option String}
    (unwanted : ∀ part ∈ nodes.filterMap Node.element?,
      ¬ (part.localName = "Address" ∧ address = none))
    {leading : List Token} (leadingIgnored : Ignores turn leading) :
    ∃ trailing : List Token,
      Ignores turn trailing ∧
        ∀ more, Becomes (repeating turn address)
          (leading ++ (Node.tokensOfAll nodes ++ more))
          (repeating turn address) (trailing ++ more) := by
  induction nodes generalizing leading with
  | nil => exact ⟨leading, leadingIgnored, fun _ => Becomes.refl _ _⟩
  | cons head tail inductionHypothesis =>
      cases head with
      | text content =>
          have continued := inductionHypothesis unwanted
            (leadingIgnored.append (turn_ignores content))
          simpa [Node.tokensOfAll_cons, Node.tokens] using continued
      | element name attributes children =>
          let first : Element := ⟨name, attributes, children⟩
          have elements :
              (Node.element name attributes children :: tail).filterMap
                  Node.element? =
                first :: tail.filterMap Node.element? := rfl
          have tokens :
              Node.tokensOfAll (.element name attributes children :: tail) =
                first.tokens ++ Node.tokensOfAll tail := rfl
          rw [elements, List.forall_mem_cons] at unwanted
          obtain ⟨trailing, ignored, passed⟩ :=
            inductionHypothesis unwanted.2 Ignores.nil
          refine ⟨trailing, ignored, fun more => ?_⟩
          have step := repeating_becomes
            (leadingIgnored.reads (turn_skips unwanted.1))
            (by simp [first.tokens_ne_nil])
            (Node.tokensOfAll tail ++ more)
          rw [tokens]
          simp only [List.append_assoc] at step ⊢
          exact step.trans (passed more)

/-- Behind content without a child that is wanted the reading of the children
ends at the end tag. -/
theorem repeating_ends_behind
    {nodes : List Node} {address : Option String}
    (unwanted : ∀ part ∈ nodes.filterMap Node.element?,
      ¬ (part.localName = "Address" ∧ address = none))
    (name : QName) :
    Becomes (repeating turn address)
      (Node.tokensOfAll nodes ++ [.endTag name]) (pure address)
      [.endTag name] := by
  obtain ⟨trailing, ignored, passed⟩ :=
    passes_unwanted unwanted Ignores.nil
  have ended := (ignored address [.endTag name]).trans
    (turn_ends name address)
  exact (passed [.endTag name]).trans (repeating_ends ended)

def closeEndpoint (address : Option String) : Cursor String := do
  Cursor.expectEndTag "EndpointReference"
  match address with
  | some address => return address
  | none => Cursor.raise (.missingText "endpoint address")

variable {endpoint first : Element}

/-- An endpoint without an address is refused behind its end tag. -/
theorem readEndpoint_refuses_without_address
    (named : endpoint.localName = "EndpointReference")
    (absent : endpoint.child? "Address" = none) :
    Refuses readEndpoint endpoint.tokens
      (.parse (.missingText "endpoint address")) [] := by
  have unwanted : ∀ part ∈ endpoint.childElements,
      ¬ (part.localName = "Address" ∧ (none : Option String) = none) := by
    rintro part member ⟨isAddress, _⟩
    have rejected := List.find?_eq_none.mp absent part member
    exact rejected (by simpa using isAddress)
  have entered :
      Becomes readEndpoint endpoint.tokens
        (repeating turn none >>= closeEndpoint) endpoint.contentTokens :=
    enter_becomes_content named _
  have ended := (repeating_ends_behind unwanted endpoint.name).bind
    closeEndpoint
  have closed : Becomes (closeEndpoint none) [.endTag endpoint.name]
      (raise (.missingText "endpoint address")) [] :=
    (expectEndTag_reads named).becomes _ []
  exact (entered.trans ended).refuses (closed.refuses (Refuses.raise _ _))

/-- Up to the first address an endpoint is passed over; then this address is
read for its text, and with a text in it all that follows is skipped. -/
theorem readEndpoint_becomes_at_address
    (named : endpoint.localName = "EndpointReference")
    (found : endpoint.child? "Address" = some first) :
    ∃ (leading behind : List Token),
      Ignores turn leading ∧
      Becomes readEndpoint endpoint.tokens
        (repeating turn none >>= closeEndpoint)
        (leading ++ (first.tokens ++ behind)) ∧
      ∀ address : String,
        Reads (repeating turn (some address) >>= closeEndpoint) behind
          address := by
  obtain ⟨before, after, children, others⟩ :=
    Node.exists_split_at_first found
  have noneBefore : ∀ part ∈ before.filterMap Node.element?,
      ¬ (part.localName = "Address" ∧ (none : Option String) = none) := by
    rintro part member ⟨isAddress, _⟩
    simpa [isAddress] using others part member
  obtain ⟨leading, ignored, passed⟩ :=
    passes_unwanted noneBefore Ignores.nil
  refine ⟨leading, Node.tokensOfAll after ++ [.endTag endpoint.name],
    ignored, ?_, ?_⟩
  · have content :
        endpoint.contentTokens =
          Node.tokensOfAll before ++ (first.tokens ++
            (Node.tokensOfAll after ++ [.endTag endpoint.name])) := by
      rw [Element.contentTokens, children, Node.tokensOfAll_around,
        List.append_assoc, List.append_assoc]
    have entered :
        Becomes readEndpoint endpoint.tokens
          (repeating turn none >>= closeEndpoint) endpoint.contentTokens :=
      enter_becomes_content named _
    rw [content] at entered
    exact entered.trans ((passed _).bind closeEndpoint)
  · intro address
    have unwanted : ∀ part ∈ after.filterMap Node.element?,
        ¬ (part.localName = "Address" ∧ some address = none) := by
      rintro part _ ⟨_, impossible⟩
      cases impossible
    have ended := (repeating_ends_behind unwanted endpoint.name).bind
      closeEndpoint
    have closed : Reads (closeEndpoint (some address))
        [.endTag endpoint.name] address :=
      (expectEndTag_reads named).bind_last (Reads.pure address)
    exact ended.reads closed

/-- The text of the first address is the result. -/
theorem readEndpoint_reads_first_address
    (named : endpoint.localName = "EndpointReference")
    (found : endpoint.child? "Address" = some first)
    (held : first.HoldsText) :
    Reads readEndpoint endpoint.tokens first.trimmedText := by
  obtain ⟨leading, behind, ignored, reached, skipped⟩ :=
    readEndpoint_becomes_at_address named found
  have isAddress : first.localName = "Address" := by
    simpa using List.find?_some found
  have text := requiredText_reads "Address" "endpoint address" held
  have turned :
      Reads (turn none) first.tokens (.again (some first.trimmedText)) :=
    (turn_becomes_of_address isAddress).reads
      (text.bind_last (Reads.pure _))
  have step := (repeating_becomes (ignored.reads turned)
    (by simp [first.tokens_ne_nil]) behind).bind closeEndpoint
  rw [List.append_assoc] at step
  exact reached.reads (step.reads (skipped first.trimmedText))

/-- Without a text in it the first address alone says how reading fails. -/
theorem exists_refusal_of_address (missing : ¬ first.HoldsText) :
    ∃ error : ParseError, ∀ endpoint : Element,
      endpoint.localName = "EndpointReference" →
      endpoint.child? "Address" = some first →
      ∃ left, Refuses readEndpoint endpoint.tokens (.parse error) left := by
  obtain ⟨error, left, refused⟩ :=
    requiredText_refuses "Address" "endpoint address" missing
  refine ⟨error, fun endpoint named found => ?_⟩
  obtain ⟨leading, behind, ignored, reached, _⟩ :=
    readEndpoint_becomes_at_address named found
  have isAddress : first.localName = "Address" := by
    simpa using List.find?_some found
  have turned : Refuses (turn none) first.tokens (.parse error) left :=
    (turn_becomes_of_address isAddress).refuses (refused.bind _)
  have step := (repeating_refuses (ignored.refuses turned)).append behind
  rw [List.append_assoc] at step
  exact ⟨_, reached.refuses (step.bind closeEndpoint)⟩

/-! ## What decides the result -/

/-- Endpoints with the same first address are all read to the same result, or
all fail for the same reason. -/
theorem readEndpoint_decided_by_address (address : Option Element) :
    ∃ result : Except Failure String, ∀ endpoint : Element,
      endpoint.localName = "EndpointReference" →
      endpoint.child? "Address" = address →
      ∀ (stream : TokenStream) (rest : List Token),
        (outcome readEndpoint
          (stream.withTokens (endpoint.tokens ++ rest))).1 = result := by
  have succeeded {tokens : List Token} {result : String}
      (read : Reads readEndpoint tokens result)
      (stream : TokenStream) (rest : List Token) :
      (outcome readEndpoint (stream.withTokens (tokens ++ rest))).1 =
        .ok result := by
    obtain ⟨after, equality⟩ := read stream rest
    rw [outcome, equality]
  have failed {tokens left : List Token} {failure : Failure}
      (refused : Refuses readEndpoint tokens failure left)
      (stream : TokenStream) (rest : List Token) :
      (outcome readEndpoint (stream.withTokens (tokens ++ rest))).1 =
        .error failure := by
    obtain ⟨after, equality⟩ := refused stream rest
    rw [outcome, equality]
  cases address with
  | none =>
      refine ⟨.error (.parse (.missingText "endpoint address")), ?_⟩
      intro endpoint named absent
      exact failed (readEndpoint_refuses_without_address named absent)
  | some first =>
      by_cases held : first.HoldsText
      · refine ⟨.ok first.trimmedText, ?_⟩
        intro endpoint named found
        exact succeeded (readEndpoint_reads_first_address named found held)
      · obtain ⟨error, refusal⟩ := exists_refusal_of_address held
        refine ⟨.error (.parse error), ?_⟩
        intro endpoint named found
        obtain ⟨left, refused⟩ := refusal endpoint named found
        exact failed refused

theorem readEndpoint_succeeds_iff
    (named : endpoint.localName = "EndpointReference")
    (stream : TokenStream) (rest : List Token) :
    (∃ address stop,
      readEndpoint (stream.withTokens (endpoint.tokens ++ rest)) =
        .ok address stop) ↔
      ∃ first, endpoint.child? "Address" = some first ∧ first.HoldsText := by
  have unsuccessful {failure : Failure} {left : List Token}
      (refused : Refuses readEndpoint endpoint.tokens failure left) :
      ¬ ∃ address stop,
        readEndpoint (stream.withTokens (endpoint.tokens ++ rest)) =
          .ok address stop := by
    rintro ⟨address, stop, succeeded⟩
    exact refused.fails.not_ok (stream.holds_withTokens _) succeeded
  cases child : endpoint.child? "Address" with
  | none =>
      have refused := readEndpoint_refuses_without_address named child
      simpa using unsuccessful refused
  | some first =>
      by_cases held : first.HoldsText
      · have read := readEndpoint_reads_first_address named child held
        obtain ⟨after, succeeded⟩ := read stream rest
        exact iff_of_true ⟨_, _, succeeded⟩ ⟨first, rfl, held⟩
      · obtain ⟨error, refusal⟩ := exists_refusal_of_address held
        obtain ⟨left, refused⟩ := refusal endpoint named child
        simpa [held] using unsuccessful refused

/-- Reads a relying party from its first child on. -/
def readFrom (child : Option StartTag) : Cursor AppliesTo := do
  let party ←
    match child with
    | none => pure (.value "")
    | some child =>
        if child.localName = "EndpointReference" then
          .endpointReference <$> readEndpoint
        else
          .fragment <$> Cursor.captureElement maxDepth
  Cursor.expectEndTag "AppliesTo"
  return party

theorem readFrom_of_endpoint
    {tag : StartTag} (named : tag.localName = "EndpointReference") :
    readFrom (some tag) =
      (do
        let party ← AppliesTo.endpointReference <$> readEndpoint
        Cursor.expectEndTag "AppliesTo"
        return party) := by
  simp only [readFrom, if_pos named]

/-- A relying party whose first child is an endpoint reads this endpoint, and is
then closed. -/
theorem read_becomes_readEndpoint
    {party : Element} {others : List Element}
    (named : endpoint.localName = "EndpointReference")
    (partyNamed : party.localName = "AppliesTo")
    (children : party.childElements = endpoint :: others) :
    ∃ after : List Node,
      after.filterMap Node.element? = others ∧
      Becomes read party.tokens
        (do
          let party ← AppliesTo.endpointReference <$> readEndpoint
          Cursor.expectEndTag "AppliesTo"
          return party)
        (endpoint.tokens ++
          (Node.tokensOfAll after ++ [.endTag party.name])) := by
  have tagNamed : endpoint.startTag.localName = "EndpointReference" := named
  obtain ⟨after, remaining, looked⟩ :=
    exists_peekChild_of_children "AppliesTo" readFrom children
  rw [readFrom_of_endpoint tagNamed] at looked
  exact ⟨after, remaining, (enter_becomes_content partyNamed _).trans looked⟩

/-- An endpoint is read exactly if its first `Address` holds text and nothing
else; the result is this text, trimmed, and the stream stops behind the
endpoint.  Without an `Address` the missing text is reported, also behind the
endpoint.  Nothing else in the endpoint makes a difference, and a relying party
hands its first child to this reading if it is an endpoint. -/
theorem address_is_the_first_address_child
    {endpoint : Element} (named : endpoint.localName = "EndpointReference") :
    (∀ (stream : TokenStream) (rest : List Token),
      (∃ address stop,
        readEndpoint (stream.withTokens (endpoint.tokens ++ rest)) =
          .ok address stop) ↔
        ∃ first, endpoint.child? "Address" = some first ∧
          first.HoldsText) ∧
    (∀ first, endpoint.child? "Address" = some first → first.HoldsText →
      Reads readEndpoint endpoint.tokens first.trimmedText) ∧
    (endpoint.child? "Address" = none →
      Refuses readEndpoint endpoint.tokens
        (.parse (.missingText "endpoint address")) []) ∧
    (∀ other : Element, other.localName = "EndpointReference" →
      other.child? "Address" = endpoint.child? "Address" →
      ∀ (stream otherStream : TokenStream) (rest otherRest : List Token),
        (outcome readEndpoint
          (stream.withTokens (endpoint.tokens ++ rest))).1 =
        (outcome readEndpoint
          (otherStream.withTokens (other.tokens ++ otherRest))).1) ∧
    (∀ (party : Element) (others : List Element),
      party.localName = "AppliesTo" →
      party.childElements = endpoint :: others →
      ∃ after : List Node,
        after.filterMap Node.element? = others ∧
        Becomes read party.tokens
          (do
            let party ← AppliesTo.endpointReference <$> readEndpoint
            Cursor.expectEndTag "AppliesTo"
            return party)
          (endpoint.tokens ++
            (Node.tokensOfAll after ++ [.endTag party.name]))) := by
  refine ⟨readEndpoint_succeeds_iff named, ?_, ?_, ?_, ?_⟩
  · intro first found held
    exact readEndpoint_reads_first_address named found held
  · exact readEndpoint_refuses_without_address named
  · intro other otherNamed same stream otherStream rest otherRest
    obtain ⟨result, decided⟩ :=
      readEndpoint_decided_by_address (endpoint.child? "Address")
    rw [decided endpoint named rfl, decided other otherNamed same]
  · intro party others partyNamed children
    exact read_becomes_readEndpoint named partyNamed children

def dividedAddress : Element :=
  ⟨QName.ofLocal "Address", [], [.text " urn:", .text "party\n"]⟩

/-- Before the address stands an endpoint inside metadata, and behind it an
address that could not be read. -/
def surroundedEndpoint : Element :=
  ⟨QName.ofLocal "EndpointReference", [],
    [.text "\n ",
      .element (QName.ofLocal "Metadata") []
        [.element (QName.ofLocal "EndpointReference") []
          [.element (QName.ofLocal "Address") [] [.text "urn:nested"]]],
      dividedAddress.toNode,
      .element (QName.ofLocal "Address") []
        [(Element.ofName (QName.ofLocal "EndpointReference")).toNode]]⟩

/-- An endpoint with nothing but the address. -/
def plainEndpoint : Element :=
  ⟨QName.ofLocal "EndpointReference", [], [dividedAddress.toNode]⟩

/-- An endpoint whose only address is not one of its children. -/
def endpointOfMetadata : Element :=
  ⟨QName.ofLocal "EndpointReference", [],
    [.element (QName.ofLocal "Metadata") [] [dividedAddress.toNode]]⟩

def surroundedParty : Element :=
  ⟨QName.ofLocal "AppliesTo", [], [.text " ", surroundedEndpoint.toNode]⟩

theorem surroundedEndpoint_has_the_first_address :
    Reads readEndpoint surroundedEndpoint.tokens "urn:party" ∧
    Refuses readEndpoint endpointOfMetadata.tokens
      (.parse (.missingText "endpoint address")) [] ∧
    (∀ (stream otherStream : TokenStream) (rest otherRest : List Token),
      (outcome readEndpoint
        (stream.withTokens (surroundedEndpoint.tokens ++ rest))).1 =
      (outcome readEndpoint
        (otherStream.withTokens (plainEndpoint.tokens ++ otherRest))).1) ∧
    ∃ after : List Node,
      after.filterMap Node.element? = [] ∧
      Becomes read surroundedParty.tokens
        (do
          let party ← AppliesTo.endpointReference <$> readEndpoint
          Cursor.expectEndTag "AppliesTo"
          return party)
        (surroundedEndpoint.tokens ++
          (Node.tokensOfAll after ++ [.endTag surroundedParty.name])) := by
  have trimmed : dividedAddress.trimmedText = "urn:party" := by decide
  have held : dividedAddress.HoldsText := by decide
  have found :
      surroundedEndpoint.child? "Address" = some dividedAddress := by decide
  have plainFound :
      plainEndpoint.child? "Address" = some dividedAddress := by decide
  have named : surroundedEndpoint.localName = "EndpointReference" := by decide
  have metadataNamed :
      endpointOfMetadata.localName = "EndpointReference" := by decide
  obtain ⟨_, first, _, independent, party⟩ :=
    address_is_the_first_address_child named
  obtain ⟨_, _, absent, _, _⟩ :=
    address_is_the_first_address_child metadataNamed
  have read := first dividedAddress found held
  rw [trimmed] at read
  exact ⟨read, absent (by decide),
    independent plainEndpoint (by decide) (plainFound.trans found.symm),
    party surroundedParty [] (by decide) (by decide)⟩

end AppliesTo

end WsTrust
