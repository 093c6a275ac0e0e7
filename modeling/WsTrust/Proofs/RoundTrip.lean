import Mathlib.Data.List.Perm.Basic
import WsTrust.Proofs.Collection
import WsTrust.Proofs.ReadBack
import WsTrust.Proofs.Statements

/-!
# Messages that are read back

A request or a response whose values can be written is read back from any
message that states all that it says, in whatever order.
-/

namespace WsTrust

open Cursor

variable (style : Style) {maxDepth : Nat}

/-! ## Children through their grammar -/

section Grammar

variable {Record Child : Type} {grammar : BodyGrammar Record Child}

/-- Under the ready-made registry for WS-Policy a relying party is read if the
grammar has no child of its name. -/
theorem BodyGrammar.readChild_reads_party
    (absent : grammar.children.lookup "AppliesTo" = none)
    {party : AppliesTo} (writable : party.IsWritable) :
    Reads
      (grammar.readChild .standard maxDepth (party.toElement style).name)
      (party.toElement style).tokens (some (grammar.appliesTo party)) := by
  have claimed :
      Registry.standard.lookup? (party.toElement style).name =
        some Registry.policyExtension := rfl
  rw [readChild,
    show (party.toElement style).name.localPart = "AppliesTo" from rfl,
    absent, readExtension, claimed]
  have read := (writable.reads_back style).map ExtensionValue.appliesTo
  exact read.bind_last (Reads.pure _)

/-- The reader of a term that is no relying party. -/
theorem Term.IsWritable.exists_reader
    {stated : Term} (writable : stated.IsWritable maxDepth)
    (notParty : ∀ party, stated ≠ .appliesTo party) :
    ∃ localPart reader,
      (stated.toElement style).localName = localPart ∧
      Term.readers.lookup localPart = some reader ∧
      Reads (reader maxDepth) (stated.toElement style).tokens stated := by
  cases stated with
  | requestType uri =>
      exact ⟨_, _, style.localName_holding _ _ _, rfl,
        (Uri.IsWritable.reads_back style writable _ _ _).map _⟩
  | tokenType uri =>
      exact ⟨_, _, style.localName_holding _ _ _, rfl,
        (Uri.IsWritable.reads_back style writable _ _ _).map _⟩
  | keyType uri =>
      exact ⟨_, _, style.localName_holding _ _ _, rfl,
        (Uri.IsWritable.reads_back style writable _ _ _).map _⟩
  | lifetime span =>
      exact ⟨_, _, style.localName_enclosing _ _ _, rfl,
        (Lifetime.IsWritable.reads_back style writable).map _⟩
  | onBehalfOf delegation =>
      have named : (style.enclosing "OnBehalfOf" [] [delegation.any]).localName =
          "OnBehalfOf" := style.localName_enclosing _ _ _
      have read := Fragment.readOne_reads named
        (style.childElements_enclosing _ _ _) writable
      exact ⟨_, _, named, rfl, (read.map OnBehalfOf.mk).map _⟩
  | keySize bits =>
      exact ⟨_, _, style.localName_holding _ _ _, rfl,
        (Scalar.readInteger_reads_back style writable _ _ _).map _⟩
  | entropy contributed =>
      exact ⟨_, _, style.localName_enclosing _ _ _, rfl,
        (Entropy.IsWritable.reads_back style writable).map _⟩
  | useKey key =>
      have named : (style.enclosing "UseKey" [] [key.any]).localName =
          "UseKey" := style.localName_enclosing _ _ _
      have read := UseKey.read_reads named
        (style.childElements_enclosing _ _ _) writable.1 writable.2
      exact ⟨_, _, named, rfl, read.map _⟩
  | renewing renewal =>
      exact ⟨_, _, style.localName_enclosing _ _ _, rfl,
        (Renewing.reads_back style renewal).map _⟩
  | appliesTo party => exact absurd rfl (notParty party)

/-- A grammar that begins with the readers of terms reads terms back. -/
theorem BodyGrammar.readChild_reads_term
    {ofTerm : Term → Child} {others : List (String × (Nat → Cursor Child))}
    (table : grammar.children = Term.readersAs ofTerm ++ others)
    (absent : grammar.children.lookup "AppliesTo" = none)
    (parties : ∀ party, grammar.appliesTo party = ofTerm (.appliesTo party))
    {stated : Term} (writable : stated.IsWritable maxDepth) :
    Reads
      (grammar.readChild .standard maxDepth (stated.toElement style).name)
      (stated.toElement style).tokens (some (ofTerm stated)) := by
  by_cases isParty : ∃ party, stated = .appliesTo party
  · obtain ⟨party, rfl⟩ := isParty
    rw [← parties]
    exact readChild_reads_party style absent writable
  · obtain ⟨localPart, reader, named, found, read⟩ :=
      writable.exists_reader style fun party equality =>
        isParty ⟨party, equality⟩
    have inTerms : (Term.readersAs ofTerm).lookup localPart =
        some fun maxDepth => ofTerm <$> reader maxDepth := by
      have mapped := lookup_map_value
        (fun read maxDepth => ofTerm <$> read maxDepth) Term.readers localPart
      rw [found] at mapped
      exact mapped
    have tabled : grammar.children.lookup localPart =
        some fun maxDepth => ofTerm <$> reader maxDepth := by
      rw [table, List.lookup_append, inTerms]
      rfl
    exact readChild_reads_of_lookup named tabled (read.map ofTerm)

end Grammar

/-! ## Children of responses and requests -/

theorem ResponseChild.IsWritable.reads_back
    {child : ResponseChild} (writable : child.IsWritable maxDepth) :
    Reads
      (Response.grammar.readChild .standard maxDepth
        (child.toElement style).name)
      (child.toElement style).tokens (some child) := by
  cases child with
  | term stated =>
      exact BodyGrammar.readChild_reads_term style rfl rfl
        (fun _ => rfl) writable
  | cancelled =>
      refine BodyGrammar.readChild_reads_of_lookup
        (style.localName_enclosing "RequestedTokenCancelled" _ _) rfl ?_
      exact (skipElement_reads _).bind_last (Reads.pure _)
  | proofToken proof =>
      exact BodyGrammar.readChild_reads_of_lookup
        (style.localName_enclosing "RequestedProofToken" _ _) rfl
        ((ProofToken.IsWritable.reads_back style writable).map _)
  | requestedToken token =>
      have content := style.childElements_enclosing "RequestedSecurityToken"
        [] token.any
      have read := RequestedToken.read_reads
        (style.localName_enclosing "RequestedSecurityToken" [] token.any)
        fun fragment member => writable fragment (content ▸ member)
      rw [content] at read
      exact BodyGrammar.readChild_reads_of_lookup
        (style.localName_enclosing "RequestedSecurityToken" _ _) rfl
        (read.map _)
  | attachedReference reference =>
      exact BodyGrammar.readChild_reads_of_lookup
        (style.localName_enclosing "RequestedAttachedReference" _ _) rfl
        ((TokenReference.IsWritable.reads_back style writable _).map _)
  | unattachedReference reference =>
      exact BodyGrammar.readChild_reads_of_lookup
        (style.localName_enclosing "RequestedUnattachedReference" _ _) rfl
        ((TokenReference.IsWritable.reads_back style writable _).map _)
  | status outcome =>
      exact BodyGrammar.readChild_reads_of_lookup
        (style.localName_enclosing "Status" _ _) rfl
        ((Status.IsWritable.reads_back style writable).map _)

/-- A child of a request that holds a URI reference. -/
theorem Request.readChild_reads_uri
    {localPart what : String} {uri : Uri} (writable : uri.IsWritable)
    (state : Uri → RequestChild)
    (found : grammar.children.lookup localPart =
      some fun _ => state <$> Scalar.readUri localPart what) :
    Reads
      (grammar.readChild .standard maxDepth
        (style.holding localPart [] uri.text).name)
      (style.holding localPart [] uri.text).tokens (some (state uri)) :=
  BodyGrammar.readChild_reads_of_lookup
    (style.localName_holding localPart [] uri.text) found
    ((Uri.IsWritable.reads_back style writable _ _ _).map state)

/-- A child of a request that holds a token. -/
theorem Request.readChild_reads_fragment
    {localPart : String} {token : Element} (fits : token.FitsDepth maxDepth)
    (state : Element → RequestChild)
    (found : grammar.children.lookup localPart =
      some fun maxDepth => state <$> Fragment.readOne localPart maxDepth) :
    Reads
      (grammar.readChild .standard maxDepth
        (style.enclosing localPart [] [token]).name)
      (style.enclosing localPart [] [token]).tokens (some (state token)) := by
  have named := style.localName_enclosing localPart [] [token]
  have read := Fragment.readOne_reads named
    (style.childElements_enclosing _ _ _) fits
  exact BodyGrammar.readChild_reads_of_lookup named found (read.map state)

theorem RequestChild.IsWritable.reads_back
    {child : RequestChild} (writable : child.IsWritable maxDepth) :
    Reads
      (Request.grammar.readChild .standard maxDepth
        (child.toElement style).name)
      (child.toElement style).tokens (some child) := by
  cases child with
  | term stated =>
      exact BodyGrammar.readChild_reads_term style rfl rfl
        (fun _ => rfl) writable
  | computedKeyAlgorithm uri =>
      exact Request.readChild_reads_uri style writable _ rfl
  | signatureAlgorithm uri =>
      exact Request.readChild_reads_uri style writable _ rfl
  | encryptionAlgorithm uri =>
      exact Request.readChild_reads_uri style writable _ rfl
  | canonicalizationAlgorithm uri =>
      exact Request.readChild_reads_uri style writable _ rfl
  | validateTarget token =>
      exact Request.readChild_reads_fragment style writable _ rfl
  | renewTarget token =>
      exact Request.readChild_reads_fragment style writable _ rfl
  | cancelTarget token =>
      exact Request.readChild_reads_fragment style writable _ rfl

/-! ## Messages -/

/-- All that a response states can be written. -/
def Response.IsWritable (maxDepth : Nat) (response : Response) : Prop :=
  ∀ child ∈ response.children, child.IsWritable maxDepth

def Request.IsWritable (maxDepth : Nat) (request : Request) : Prop :=
  ∀ child ∈ request.children, child.IsWritable maxDepth

/-- The element is a message of the kind, with a context and with these children
in any order; texts may stand between them. -/
structure Element.IsMessage
    (message : Element) (kind : Payload.Kind) (context : String)
    (children : List Element) : Prop where
  named : message.localName = kind.rootName
  context_eq : BodyGrammar.contextOf message.startTag = context
  perm : message.childElements.Perm children

/-- A message whose children are read back one by one is read back, if they
build up its record in any order. -/
theorem BodyGrammar.read_reads_of_perm
    {Record Child : Type} {grammar : BodyGrammar Record Child}
    {registry : Registry} {record : Record} {context : String}
    {written : Child → Element} {stated : List Child} {message : Element}
    (named : message.localName = grammar.elementName)
    (context_eq : contextOf message.startTag = context)
    (permuted : message.childElements.Perm (stated.map written))
    (readsBack : ∀ child ∈ stated,
      Reads (grammar.readChild registry maxDepth (written child).name)
        (written child).tokens (some child))
    (rebuilds : ∀ children : List Child, children.Perm stated →
      grammar.addAll (grammar.ofContext context) (children.map some) =
        record) :
    Reads (grammar.read registry maxDepth) message.tokens record := by
  have inOrder :
      List.Forall₂ (fun element child =>
        Reads (grammar.readChild registry maxDepth element.name)
          element.tokens (some child))
        (stated.map written) stated :=
    List.forall₂_map_left_iff.mpr (List.forall₂_same.mpr readsBack)
  obtain ⟨children, each, listed⟩ :=
    List.perm_comp_forall₂ permuted inOrder
  have read := read_reads_children named
    (List.forall₂_map_right_iff.mpr each)
  rwa [context_eq, rebuilds children listed] at read

theorem Response.reads_back
    {response : Response} (writable : response.IsWritable maxDepth)
    {message : Element}
    (written : message.IsMessage .response response.context
      (response.children.map (ResponseChild.toElement style))) :
    Reads (Payload.read .standard maxDepth) message.tokens
      (.response response) := by
  have read := BodyGrammar.read_reads_of_perm written.named
    written.context_eq written.perm
    (fun child member => (writable child member).reads_back style)
    (fun _ listed => addAll_children listed)
  have rootNamed :
      message.startTag.localName = Payload.Kind.response.rootName :=
    written.named
  exact (Payload.read_becomes .response rootNamed _).reads
    (read.map Payload.response)

theorem Request.reads_back
    {request : Request} (writable : request.IsWritable maxDepth)
    {message : Element}
    (written : message.IsMessage .request request.context
      (request.children.map (RequestChild.toElement style))) :
    Reads (Payload.read .standard maxDepth) message.tokens
      (.request request) := by
  have read := BodyGrammar.read_reads_of_perm written.named
    written.context_eq written.perm
    (fun child member => (writable child member).reads_back style)
    (fun _ listed => addAll_children listed)
  have rootNamed :
      message.startTag.localName = Payload.Kind.request.rootName :=
    written.named
  exact (Payload.read_becomes .request rootNamed _).reads
    (read.map Payload.request)

/-- Requests and responses are read back from the tokens of any message that
says what they say, and what follows the message is left. -/
theorem records_are_read_back (style : Style) (maxDepth : Nat) :
    (∀ (response : Response) (message : Element) (rest : List Token)
        (stream : TokenStream),
      response.IsWritable maxDepth →
      message.IsMessage .response response.context
        (response.children.map (ResponseChild.toElement style)) →
      stream.Holds (message.tokens ++ rest) →
      ∃ after : TokenStream,
        Payload.read .standard maxDepth stream =
          .ok (.response response) after ∧
        after.Holds rest) ∧
    (∀ (request : Request) (message : Element) (rest : List Token)
        (stream : TokenStream),
      request.IsWritable maxDepth →
      message.IsMessage .request request.context
        (request.children.map (RequestChild.toElement style)) →
      stream.Holds (message.tokens ++ rest) →
      ∃ after : TokenStream,
        Payload.read .standard maxDepth stream =
          .ok (.request request) after ∧
        after.Holds rest) := by
  constructor
  · intro response message rest stream writable written held
    exact (Response.reads_back style writable written).holds held
  · intro request message rest stream writable written held
    exact (Request.reads_back style writable written).holds held

/-! ## A message of each kind -/

def Style.message
    (style : Style) (kind : Payload.Kind) (context : String)
    (children : List Element) : Element :=
  style.enclosing kind.rootName [⟨QName.ofLocal "Context", context⟩] children

theorem Style.isMessage_message
    (style : Style) (kind : Payload.Kind) (context : String)
    {written children : List Element} (permuted : written.Perm children) :
    (style.message kind context written).IsMessage kind context children where
  named := style.localName_enclosing _ _ _
  context_eq := rfl
  perm := by
    rw [message, style.childElements_enclosing]
    exact permuted

/-- Names without a namespace, and an empty element in place of a start. -/
def Style.plain : Style where
  name := QName.ofLocal
  localPart_name _ := rfl
  policyPrefix := "wsp"
  placeholder := Element.ofName (QName.ofLocal "Starts")
  placeholder_name := by decide
  placeholder_childless := rfl

def cancelledToken : Response where
  context := "validation"
  tokenType := some ⟨"urn:token"⟩
  lifetime := some ⟨none, ⟨"2030-01-01T00:00:00Z"⟩⟩
  cancelled := true
  status := some ⟨Status.validCode, ""⟩

def keyedRequest : Request where
  context := ""
  keySize := some 256
  entropy := some ⟨some ⟨none, Text.bytesOf "c2VjcmV0"⟩⟩
  appliesTo := some (.endpointReference "https://party.example/")
  renewTarget := some (Element.ofName (QName.ofLocal "Token"))

theorem cancelledToken_isWritable : cancelledToken.IsWritable 8 := by
  have stated : cancelledToken.children =
      [.term (.tokenType ⟨"urn:token"⟩),
        .term (.lifetime ⟨none, ⟨"2030-01-01T00:00:00Z"⟩⟩),
        .cancelled, .status ⟨Status.validCode, ""⟩] := rfl
  rw [Response.IsWritable, stated]
  simp only [List.forall_mem_cons]
  refine ⟨?tokenType, ?lifetime, trivial, ?status, by simp⟩
  case tokenType => exact ⟨by decide, by decide⟩
  case lifetime => exact ⟨by simp, by decide⟩
  case status => exact ⟨by decide, by decide⟩

theorem keyedRequest_isWritable : keyedRequest.IsWritable 8 := by
  have stated : keyedRequest.children =
      [.term (.keySize 256),
        .term (.entropy ⟨some ⟨none, Text.bytesOf "c2VjcmV0"⟩⟩),
        .term (.appliesTo (.endpointReference "https://party.example/")),
        .renewTarget (Element.ofName (QName.ofLocal "Token"))] := rfl
  rw [Request.IsWritable, stated]
  simp only [List.forall_mem_cons]
  refine ⟨?keySize, ?entropy, ?appliesTo, ?renewTarget, by simp⟩
  case keySize => exact (by decide : 256 < Text.wordBound)
  case entropy =>
    rintro secret ⟨⟩
    exact ⟨"c2VjcmV0", rfl, by decide⟩
  case appliesTo =>
    exact (by decide : Text.IsValue "https://party.example/")
  case renewTarget =>
    exact (by decide :
      (Element.ofName (QName.ofLocal "Token")).FitsDepth 8)

theorem both_kinds_are_read_back :
    let responseTokens := (Style.plain.message .response "validation"
      (cancelledToken.children.map
        (ResponseChild.toElement .plain)).reverse).tokens
    let requestTokens := (Style.plain.message .request ""
      (keyedRequest.children.map
        (RequestChild.toElement .plain)).reverse).tokens
    (∃ after : TokenStream,
      Payload.read .standard 8
          (TokenStream.ofTokens (responseTokens ++ requestTokens)) =
        .ok (.response cancelledToken) after ∧
      after.Holds requestTokens) ∧
    (∃ after : TokenStream,
      Payload.read .standard 8 (TokenStream.ofTokens requestTokens) =
        .ok (.request keyedRequest) after ∧
      after.Holds []) := by
  intro responseTokens requestTokens
  have readBack := records_are_read_back .plain 8
  constructor
  · exact readBack.1 cancelledToken _ requestTokens _
      cancelledToken_isWritable
      (Style.plain.isMessage_message .response "validation"
        (List.reverse_perm _))
      (TokenStream.holds_ofTokens _)
  · have held := TokenStream.holds_ofTokens requestTokens
    rw [← List.append_nil requestTokens] at held
    have ended := readBack.2 keyedRequest _ [] _ keyedRequest_isWritable
      (Style.plain.isMessage_message .request "" (List.reverse_perm _)) held
    rwa [List.append_nil] at ended

end WsTrust
