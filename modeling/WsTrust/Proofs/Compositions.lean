import WsTrust.Payload
import WsTrust.Proofs.Collection
import WsTrust.Proofs.RecordFields
import WsTrust.Proofs.Wrappers

/-!
# Properties of all readers

The readers of messages are put together from a few steps.  A property that
these steps have, and that passes from readers to whatever is put together from
them, is a property of all readers of messages if the extensions have it.
-/

namespace WsTrust

namespace Cursor

/-! ## Compositional properties -/

/-- Consumes the end tag that was looked at, which has to have the local name,
with this result. -/
def closeWith {Result : Type}
    (localPart : String) (result : Result) (name : QName) : Cursor Result :=
  if name.localPart = localPart then do
    let _ ← next
    return result
  else
    refuse (.unexpectedClose name.localPart)

theorem eq_of_closeWith
    {Result : Type} {localPart : String} {result value : Result}
    {name : QName} {stream after : TokenStream}
    (succeeded :
      closeWith localPart result name stream = .ok value after) :
    value = result := by
  rw [closeWith] at succeeded
  by_cases named : name.localPart = localPart
  · rw [if_pos named] at succeeded
    obtain ⟨token, middle, _, concluded⟩ := bind_eq_ok_iff.mp succeeded
    cases concluded
    rfl
  · rw [if_neg named] at succeeded
    cases succeeded

/-- What passes to sequences holds of a turn that looks for something, if it
holds of what follows where something is found and the turn is done where
nothing is. -/
theorem turn_of_look
    {Has : {Result : Type} → Cursor Result → Prop}
    (done : ∀ {Result : Type} (result : Result), Has (Pure.pure result))
    (sequence : ∀ {Result Other : Type} {reader : Cursor Result}
      {next : Result → Cursor Other},
      Has reader → (∀ result, Has (next result)) → Has (reader >>= next))
    {Seen State Result : Type} {look : Cursor (Option Seen)}
    {next : Option Seen → Cursor (Turn State Result)}
    (looks : Has look) (found : ∀ seen, Has (next (some seen)))
    (ended : ∃ result, next none = Pure.pure (.done result)) :
    Has (look >>= next) := by
  refine sequence looks fun seen => ?_
  cases seen with
  | some seen => exact found seen
  | none =>
      obtain ⟨result, equality⟩ := ended
      rw [equality]
      exact done (Turn.done result)

/-- The steps that readers inside a message are put together from have the
property, and it passes to compositions.  A stronger property may hold of those
readers that end by consuming a token. -/
structure Compositional
    (Has Ends : {Result : Type} → Cursor Result → Prop) : Prop where
  has_of_ends {Result : Type} {reader : Cursor Result} (ends : Ends reader) :
    Has reader
  pure {Result : Type} (result : Result) :
    Has (Pure.pure result : Cursor Result)
  /-- Want of progress is for repetitions to report. -/
  refuse {Result : Type} (fault : Fault) (possible : fault ≠ .noProgress) :
    Ends (Cursor.refuse fault : Cursor Result)
  raise {Result : Type} (error : ParseError) :
    Ends (Cursor.raise error : Cursor Result)
  bind {Result Other : Type}
    {reader : Cursor Result} {next : Result → Cursor Other}
    (first : Has reader) (second : ∀ result, Has (next result)) :
    Has (reader >>= next)
  bindEnds {Result Other : Type}
    {reader : Cursor Result} {next : Result → Cursor Other}
    (first : Has reader) (second : ∀ result, Ends (next result)) :
    Ends (reader >>= next)
  /-- After a reader that ends so, nothing may be read any more. -/
  endsBind {Result Other : Type}
    {reader : Cursor Result} {next : Result → Cursor Other}
    (first : Ends reader)
    (second : ∀ result,
      Ends (next result) ∨ ∃ other, next result = Pure.pure other) :
    Ends (reader >>= next)
  nextStartTag (expected : String) : Ends (Cursor.nextStartTag expected)
  nextEndTag (expected : String) : Ends (Cursor.nextEndTag expected)
  peekChild (within : String) : Has (Cursor.peekChild within)
  elementText (within : String) : Ends (Cursor.elementText within)
  skipElement : Ends Cursor.skipElement
  captureElement (maxDepth : Nat) : Ends (Cursor.captureElement maxDepth)
  /-- Text is required right behind a start tag. -/
  requiredTextOf {Result : Type} {next : StartTag → Cursor Result}
    (expected : String)
    (text : ∀ tag,
      (∃ fault, next tag = Cursor.refuse fault ∧ fault ≠ .noProgress) ∨
        ∃ within what later,
          next tag = Cursor.requiredText within what >>= later ∧
            ∀ text, Ends (later text) ∨
              ∃ result, later text = Pure.pure result) :
    Ends (Cursor.nextStartTag expected >>= next)
  /-- Of the tags that are looked at, end tags are consumed. -/
  atBoundary {Result : Type} {next : Option Boundary → Cursor Result}
    (opening : ∀ tag, Ends (next (some (.opening tag))))
    (closing : ∃ localPart result, ∀ name,
      next (some (.closing name)) = closeWith localPart result name)
    (ended : ∃ expected,
      next none = Cursor.refuse (.streamExhausted expected)) :
    Ends (peekBoundary >>= next)
  /-- Of the tokens that are looked at, texts are refused. -/
  atTag {Result : Type} {next : Option Token → Cursor Result}
    (opening : ∀ tag, Ends (next (some (.startTag tag))))
    (closing : ∃ localPart result, ∀ name,
      next (some (.endTag name)) = closeWith localPart result name)
    (texts : ∃ fault,
      (∀ content, next (some (.text content)) = Cursor.refuse fault) ∧
        fault ≠ .noProgress)
    (ended : ∃ expected,
      next none = Cursor.refuse (.streamExhausted expected)) :
    Ends (peek >>= next)
  /-- A turn that finds nothing more to read is the last one. -/
  searching {Seen State Result : Type}
    {look : Cursor (Option Seen)}
    {next : State → Option Seen → Cursor (Turn State Result)}
    (looks : Has look)
    (found : ∀ state seen, Ends (next state (some seen)))
    (ended : ∀ state, ∃ result, next state none = Pure.pure (.done result))
    (state : State) :
    Has (Cursor.repeating (fun state => look >>= next state) state)
  repeatingEnds {State Result : Type}
    {turn : State → Cursor (Turn State Result)}
    (turns : ∀ state, Ends (turn state)) (state : State) :
    Ends (Cursor.repeating turn state)

/-- The property also passes to messages, which may end with their stream. -/
structure CompositionalToEnd
    (Has : {Result : Type} → Cursor Result → Prop) : Prop
    extends Compositional Has Has where
  peekStartTag : Has Cursor.peekStartTag
  untilEnd {Result : Type} {next : Option Boundary → Cursor Result}
    (opening : ∀ tag, Has (next (some (.opening tag))))
    (closing : ∃ localPart result, ∀ name,
      next (some (.closing name)) = closeWith localPart result name)
    (ended : Has (next none)) :
    Has (peekBoundary >>= next)

/-- Entering an element refuses start tags with another name. -/
theorem enter_bind_eq
    {Result : Type} (localPart : String) (next : StartTag → Cursor Result) :
    Cursor.enter localPart >>= next =
      Cursor.nextStartTag localPart >>= fun tag =>
        if tag.name.localPart = localPart then next tag
        else Cursor.refuse (.unexpectedTag localPart tag.name.localPart) := by
  funext stream
  cases read : Cursor.nextStartTag localPart stream with
  | error failure rest =>
      have failed : Cursor.enter localPart stream = .error failure rest :=
        bind_of_error read
      rw [bind_of_error failed, bind_of_error read]
  | ok tag rest =>
      rw [bind_of_ok read]
      by_cases named : tag.name.localPart = localPart
      · have entered : Cursor.enter localPart stream = .ok tag rest := by
          rw [Cursor.enter, bind_of_ok read, Cursor.expectName, if_pos named]
          rfl
        rw [bind_of_ok entered, if_pos named]
      · have failed :
            Cursor.enter localPart stream =
              .error
                (.fault (.unexpectedTag localPart tag.name.localPart))
                rest := by
          rw [Cursor.enter, bind_of_ok read, Cursor.expectName, if_neg named]
          rfl
        rw [bind_of_error failed, if_neg named]
        rfl

namespace Compositional

variable {Has Ends : {Result : Type} → Cursor Result → Prop}
  (composes : Compositional Has Ends) {Result Other : Type}

include composes

theorem map
    {reader : Cursor Result} (ends : Ends reader) (change : Result → Other) :
    Ends (change <$> reader) := by
  rw [map_eq_bind]
  exact composes.endsBind ends fun result => Or.inr ⟨change result, rfl⟩

/-- The result of the last reader may be changed. -/
theorem finish
    {reader : Cursor Result} {next : Result → Cursor Other}
    (ends : Ends reader)
    (finished : ∀ result, ∃ other, next result = Pure.pure other) :
    Ends (reader >>= next) :=
  composes.endsBind ends fun result => Or.inr (finished result)

theorem expectEndTag (localPart : String) :
    Ends (Cursor.expectEndTag localPart) := by
  refine composes.endsBind (composes.nextEndTag localPart) fun name => ?_
  rw [Cursor.expectName]
  split
  · exact Or.inr ⟨(), rfl⟩
  · exact Or.inl (composes.refuse _ (by simp))

theorem enter (localPart : String) : Has (Cursor.enter localPart) := by
  have named (tag : StartTag) : Has (Cursor.expectName tag.name localPart) := by
    rw [Cursor.expectName]
    split
    · exact composes.pure ()
    · exact composes.has_of_ends (composes.refuse _ (by simp))
  have first := composes.has_of_ends (composes.nextStartTag localPart)
  exact composes.bind first fun tag =>
    composes.bind (named tag) fun _ => composes.pure tag

/-- Reading an end tag is the last step of many readers. -/
theorem closing (localPart : String) (result : Result) :
    Ends
      (do
        Cursor.expectEndTag localPart
        return result) :=
  composes.finish (composes.expectEndTag localPart) fun _ => ⟨result, rfl⟩

/-- An element is entered and its required text is read. -/
theorem enterRequiredText
    (localPart within what : String) {later : String → Cursor Result}
    (finished : ∀ text, ∃ result, later text = Pure.pure result) :
    Ends
      (do
        let _ ← Cursor.enter localPart
        let text ← Cursor.requiredText within what
        later text) := by
  rw [enter_bind_eq]
  refine composes.requiredTextOf localPart fun tag => ?_
  split
  · exact Or.inr ⟨within, what, later, rfl, fun text =>
      Or.inr (finished text)⟩
  · exact Or.inl ⟨_, rfl, nofun⟩

end Compositional

end Cursor

open Cursor

section Readers

variable {Has Ends : {Result : Type} → Cursor Result → Prop}
  (composes : Compositional Has Ends)

namespace Cursor.Compositional

include composes

/-! ## Values -/

theorem readUri (localPart what : String) :
    Ends (Scalar.readUri localPart what) := by
  refine composes.requiredTextOf localPart fun _ =>
    Or.inr ⟨_, _, _, rfl, fun text => ?_⟩
  split
  · exact Or.inr ⟨_, rfl⟩
  · exact Or.inl (composes.raise _)

theorem readInteger (localPart what : String) :
    Ends (Scalar.readInteger localPart what) := by
  refine composes.requiredTextOf localPart fun _ =>
    Or.inr ⟨_, _, _, rfl, fun text => ?_⟩
  split
  · exact Or.inr ⟨_, rfl⟩
  · exact Or.inl (composes.raise _)

theorem lifetime : Ends Lifetime.read := by
  have ending (created : Option Timestamp) :
      Ends (Lifetime.readEnd created) := by
    refine composes.requiredTextOf "Expires" fun tag => ?_
    split
    · exact Or.inr ⟨_, _, _, rfl, fun _ => Or.inl (composes.closing _ _)⟩
    · exact Or.inl ⟨_, rfl, nofun⟩
  refine composes.bindEnds (composes.enter _) fun _ => ?_
  have first := composes.has_of_ends (composes.nextStartTag "Created")
  refine composes.bindEnds first fun first => ?_
  dsimp only
  split
  · have text := composes.map (composes.elementText "Created") Timestamp.mk
    have created := composes.has_of_ends (composes.map text some)
    exact composes.bindEnds created ending
  · exact composes.bindEnds (composes.pure none) ending

theorem binarySecret (typeRequired : Bool) :
    Ends (BinarySecret.read typeRequired) := by
  rw [BinarySecret.read, enter_bind_eq]
  refine composes.requiredTextOf "BinarySecret" fun tag => ?_
  dsimp only
  split
  · split
    · exact Or.inl ⟨_, rfl, nofun⟩
    · exact Or.inr ⟨_, _, _, rfl, fun _ => Or.inr ⟨_, rfl⟩⟩
  · exact Or.inl ⟨_, rfl, nofun⟩

theorem entropy : Ends Entropy.read := by
  refine composes.bindEnds (composes.enter _) fun _ => ?_
  refine composes.bindEnds (composes.peekChild _) fun child => ?_
  dsimp only
  split
  · split
    · have secret := composes.map (composes.binarySecret false) some
      exact composes.bindEnds (composes.has_of_ends secret) fun _ =>
        composes.closing _ _
    · exact composes.bindEnds (composes.has_of_ends composes.skipElement)
        fun _ => composes.closing _ _
  · exact composes.closing _ _

theorem useKey (maxDepth : Nat) : Ends (UseKey.read maxDepth) := by
  refine composes.bindEnds (composes.enter _) fun _ => ?_
  refine composes.bindEnds (composes.peekChild _) fun child => ?_
  split
  · split
    · have captured := composes.has_of_ends (composes.captureElement maxDepth)
      exact composes.bindEnds captured fun _ => composes.closing _ _
    · exact composes.refuse _ nofun
  · exact composes.refuse _ nofun

theorem proofToken : Ends ProofToken.read := by
  refine composes.bindEnds (composes.enter _) fun _ => ?_
  refine composes.bindEnds (composes.peekChild _) fun child => ?_
  dsimp only
  split
  · exact composes.closing _ _
  · split
    · have secret :=
        composes.map (composes.binarySecret true) ProofToken.binarySecret
      exact composes.bindEnds (composes.has_of_ends secret) fun _ =>
        composes.closing _ _
    · split
      · exact composes.requiredTextOf "ComputedKey" fun _ =>
          Or.inr ⟨_, _, _, bind_map_left _ _ _, fun _ =>
            Or.inl (composes.closing _ _)⟩
      · exact composes.bindEnds
          (composes.has_of_ends (composes.refuse _ nofun)) fun _ =>
            composes.closing _ _

theorem renewing : Ends Renewing.read :=
  composes.bindEnds (composes.enter _) fun _ => composes.closing _ _

theorem statusTurn (status : Status) : Ends (Status.turn status) := by
  refine composes.atTag (fun tag => ?_) ⟨"Status", .done status, fun _ => rfl⟩
    ⟨_, fun _ => rfl, nofun⟩ ⟨_, rfl⟩
  dsimp only
  split
  · exact composes.enterRequiredText _ _ _ fun _ => ⟨_, rfl⟩
  · split
    · exact composes.enterRequiredText _ _ _ fun _ => ⟨_, rfl⟩
    · exact composes.refuse _ nofun

theorem status : Ends Status.read :=
  composes.bindEnds (composes.enter _) fun _ =>
    composes.repeatingEnds composes.statusTurn _

/-! ## Fragments -/

theorem readOne (localPart : String) (maxDepth : Nat) :
    Ends (Fragment.readOne localPart maxDepth) := by
  refine composes.bindEnds (composes.enter _) fun _ => ?_
  refine composes.bindEnds (composes.peekChild _) fun child => ?_
  split
  · have captured := composes.has_of_ends (composes.captureElement maxDepth)
    exact composes.bindEnds captured fun _ => composes.closing _ _
  · exact composes.refuse _ nofun

theorem fragmentTurn
    (localPart : String) (maxDepth : Nat) (earlier : List Element) :
    Ends (Fragment.turn localPart maxDepth earlier) := by
  refine composes.atBoundary (fun tag => ?_)
    ⟨localPart, .done earlier.reverse, fun _ => rfl⟩ ⟨_, rfl⟩
  exact composes.finish (composes.captureElement maxDepth) fun _ => ⟨_, rfl⟩

theorem readRest (localPart : String) (maxDepth : Nat) :
    Ends (Fragment.readRest localPart maxDepth) :=
  composes.repeatingEnds (composes.fragmentTurn localPart maxDepth) _

theorem onBehalfOf (maxDepth : Nat) : Ends (OnBehalfOf.read maxDepth) :=
  composes.finish (composes.readOne _ maxDepth) fun _ => ⟨_, rfl⟩

theorem requestedToken (maxDepth : Nat) :
    Ends (RequestedToken.read maxDepth) := by
  refine composes.bindEnds (composes.enter _) fun _ => ?_
  exact composes.finish (composes.readRest _ maxDepth) fun _ => ⟨_, rfl⟩

theorem readWrapped (localPart : String) (maxDepth : Nat) :
    Ends (TokenReference.readWrapped localPart maxDepth) := by
  have reference : Ends (TokenReference.read maxDepth) := by
    refine composes.bindEnds (composes.enter _) fun tag => ?_
    exact composes.finish (composes.readRest _ maxDepth) fun _ => ⟨_, rfl⟩
  refine composes.bindEnds (composes.enter _) fun _ => ?_
  exact composes.bindEnds (composes.has_of_ends reference) fun _ =>
    composes.closing _ _

/-! ## Relying parties -/

/-- A child of an endpoint is its address or is skipped. -/
theorem endpointChild (address : Option String) (child : StartTag) :
    Ends
      (if child.localName = "Address" ∧ address = none then do
        let _ ← Cursor.enter "Address"
        let found ← Cursor.requiredText "Address" "endpoint address"
        return .again (some found)
      else do
        Cursor.skipElement
        return .again address :
        Cursor (Turn (Option String) (Option String))) := by
  split
  · exact composes.enterRequiredText _ _ _ fun _ => ⟨_, rfl⟩
  · exact composes.finish composes.skipElement fun _ => ⟨_, rfl⟩

theorem readEndpoint : Ends AppliesTo.readEndpoint := by
  have searched : Has (Cursor.repeating AppliesTo.turn none) :=
    composes.searching (composes.peekChild _) composes.endpointChild
      (fun address => ⟨address, rfl⟩) none
  refine composes.bindEnds (composes.enter _) fun _ => ?_
  refine composes.bindEnds searched fun address => ?_
  refine composes.endsBind (composes.expectEndTag _) fun _ => ?_
  split
  · exact Or.inr ⟨_, rfl⟩
  · exact Or.inl (composes.raise _)

theorem appliesTo : Ends AppliesTo.read := by
  refine composes.bindEnds (composes.enter _) fun _ => ?_
  refine composes.bindEnds (composes.peekChild _) fun child => ?_
  dsimp only
  split
  · exact composes.closing _ _
  · split
    · have reference :=
        composes.map composes.readEndpoint AppliesTo.endpointReference
      exact composes.bindEnds (composes.has_of_ends reference) fun _ =>
        composes.closing _ _
    · have fragment :=
        composes.map (composes.captureElement AppliesTo.maxDepth)
          AppliesTo.fragment
      exact composes.bindEnds (composes.has_of_ends fragment) fun _ =>
        composes.closing _ _

/-! ## Children -/

theorem terms
    {Child : Type} (ofTerm : Term → Child) (maxDepth : Nat) :
    ∀ row ∈ Term.readersAs ofTerm, Ends (row.2 maxDepth) := by
  have rows : ∀ row ∈ Term.readers, Ends (row.2 maxDepth) := by
    simp only [Term.readers, List.forall_mem_cons]
    refine ⟨?requestType, ?tokenType, ?keyType, ?lifetime, ?onBehalfOf,
      ?keySize, ?entropy, ?useKey, ?renewing, by simp⟩
    case requestType | tokenType | keyType =>
      exact composes.map (composes.readUri _ _) _
    case lifetime => exact composes.map composes.lifetime _
    case onBehalfOf => exact composes.map (composes.onBehalfOf maxDepth) _
    case keySize => exact composes.map (composes.readInteger _ _) _
    case entropy => exact composes.map composes.entropy _
    case useKey => exact composes.map (composes.useKey maxDepth) _
    case renewing => exact composes.map composes.renewing _
  intro row member
  obtain ⟨⟨localPart, read⟩, inReaders, rfl⟩ := List.mem_map.mp member
  exact composes.map (rows (localPart, read) inReaders) ofTerm

theorem responseChildren (maxDepth : Nat) :
    ∀ row ∈ Response.grammar.children, Ends (row.2 maxDepth) := by
  simp only [Response.grammar, List.forall_mem_append, List.forall_mem_cons]
  refine ⟨composes.terms _ maxDepth, ?cancelled, ?proofToken,
    ?requestedToken, ?attached, ?unattached, ?status, by simp⟩
  case cancelled =>
    exact composes.finish composes.skipElement fun _ => ⟨_, rfl⟩
  case proofToken => exact composes.map composes.proofToken _
  case requestedToken => exact composes.map (composes.requestedToken maxDepth) _
  case attached | unattached =>
    exact composes.map (composes.readWrapped _ maxDepth) _
  case status => exact composes.map composes.status _

theorem requestChildren (maxDepth : Nat) :
    ∀ row ∈ Request.grammar.children, Ends (row.2 maxDepth) := by
  simp only [Request.grammar, List.forall_mem_append, List.forall_mem_cons]
  refine ⟨composes.terms _ maxDepth, ?computedKey, ?signature,
    ?encryption, ?canonicalization, ?validate, ?renew, ?cancel, by simp⟩
  case computedKey | signature | encryption | canonicalization =>
    exact composes.map (composes.readUri _ _) _
  case validate | renew | cancel =>
    exact composes.map (composes.readOne _ maxDepth) _

section Bodies

variable {registry : Registry}
  (extensions : ∀ extension ∈ registry.extensions, Ends extension.read)
  {Record Child : Type} {grammar : BodyGrammar Record Child}

include extensions

theorem readExtension (name : QName) :
    Ends (grammar.readExtension registry name) := by
  rw [BodyGrammar.readExtension]
  cases claimed : registry.lookup? name with
  | none => exact composes.refuse _ (by simp)
  | some extension =>
      have registered : extension ∈ registry.extensions :=
        List.mem_of_find?_eq_some claimed
      refine composes.finish (extensions extension registered) fun value => ?_
      cases value with
      | appliesTo party => exact ⟨_, rfl⟩
      | fragment content => exact ⟨_, rfl⟩
      | empty => exact ⟨_, rfl⟩

theorem readChild
    {maxDepth : Nat}
    (children : ∀ row ∈ grammar.children, Ends (row.2 maxDepth))
    (name : QName) :
    Ends (grammar.readChild registry maxDepth name) := by
  rw [BodyGrammar.readChild]
  cases found : grammar.children.lookup name.localPart with
  | none => exact composes.readExtension extensions name
  | some read =>
      exact composes.map (children _ (mem_of_lookup_eq_some found)) some

end Bodies

end Cursor.Compositional

end Readers

/-! ## Messages -/

namespace Cursor.CompositionalToEnd

variable {Has : {Result : Type} → Cursor Result → Prop}
  (composes : CompositionalToEnd Has)
  {registry : Registry}
  (extensions : ∀ extension ∈ registry.extensions, Has extension.read)
  (maxDepth : Nat)

section Bodies

variable {Record Child : Type} {grammar : BodyGrammar Record Child}
  (children : ∀ row ∈ grammar.children, Has (row.2 maxDepth))

include composes extensions children

theorem readBody : Has (grammar.read registry maxDepth) := by
  refine composes.bind (composes.nextStartTag _) fun _ => ?_
  refine composes.repeatingEnds (fun record => ?_) _
  refine composes.untilEnd (fun tag => ?_)
    ⟨grammar.elementName, .done record, fun _ => rfl⟩ (composes.pure _)
  have child :=
    composes.toCompositional.readChild extensions children tag.name
  exact composes.bind child fun _ => composes.pure _

theorem readCollection (elementName : String) :
    Has (grammar.readCollection registry maxDepth elementName) := by
  refine composes.bind (composes.toCompositional.enter _) fun _ => ?_
  refine composes.repeatingEnds (fun earlier => ?_) _
  refine composes.atBoundary (fun tag => ?_)
    ⟨elementName, .done earlier.reverse, fun _ => rfl⟩ ⟨_, rfl⟩
  dsimp only
  split
  · exact composes.bind (composes.readBody extensions maxDepth children)
      fun _ => composes.pure _
  · exact composes.refuse _ nofun

end Bodies

include composes extensions

/-- A compositional property of the extensions is one of all messages. -/
theorem readPayload : Has (Payload.read registry maxDepth) := by
  have responses := composes.toCompositional.responseChildren maxDepth
  have requests := composes.toCompositional.requestChildren maxDepth
  have kinds (kind : Payload.Kind) :
      Has (Payload.readKind registry maxDepth kind) := by
    cases kind with
    | request =>
        exact composes.map
          (composes.readBody extensions maxDepth requests) _
    | response =>
        exact composes.map
          (composes.readBody extensions maxDepth responses) _
    | requestCollection =>
        exact composes.map
          (composes.readCollection extensions maxDepth requests _) _
    | responseCollection =>
        exact composes.map
          (composes.readCollection extensions maxDepth responses _) _
  refine composes.bind composes.peekStartTag fun root => ?_
  split
  · exact composes.refuse _ nofun
  · split
    · exact kinds _
    · exact composes.refuse _ nofun

end Cursor.CompositionalToEnd

end WsTrust
