import WsTrust.Proofs.Wrappers

/-!
# The values that readers give

An element of the form that its reader looks for is read to the value that it
stands for, whatever texts stand between its children.
-/

namespace WsTrust

open Cursor

variable {element first last : Element} {localPart : String} {maxDepth : Nat}

/-! ## Captured contents -/

theorem Fragment.readOne_reads
    (named : element.localName = localPart)
    (children : element.childElements = [first])
    (fits : first.FitsDepth maxDepth) :
    Reads (Fragment.readOne localPart maxDepth) element.tokens first := by
  obtain ⟨after, noElement, reached⟩ :=
    exists_peekChild_of_children localPart _ children
  refine (enter_becomes_content named _).reads (reached.reads ?_)
  exact child_closing_reads (captureElement_reads fits) named noElement id

theorem Fragment.readRest_reads
    (named : element.localName = localPart)
    (fit : ∀ child ∈ element.childElements, child.FitsDepth maxDepth) :
    Reads (Fragment.readRest localPart maxDepth)
      element.contentTokens element.childElements := by
  have each : ReadsEach (fun _ => captureElement maxDepth)
      element.childElements element.childElements :=
    List.forall₂_same.mpr fun child member =>
      captureElement_reads (fit child member)
  have closed := Fragment.turn_closes named maxDepth
    (element.childElements.foldl
      (fun earlier fragment => fragment :: earlier) [])
  rw [reverse_foldl_cons] at closed
  exact (Fragment.turn_elementWise localPart maxDepth).reads each closed

theorem RequestedToken.read_reads
    (named : element.localName = "RequestedSecurityToken")
    (fit : ∀ child ∈ element.childElements, child.FitsDepth maxDepth) :
    Reads (RequestedToken.read maxDepth) element.tokens
      ⟨element.childElements⟩ := by
  refine (enter_becomes_content named _).reads ?_
  exact (Fragment.readRest_reads named fit).bind_last (Reads.pure _)

/-! ## References -/

theorem TokenReference.read_reads
    (named : element.localName = "SecurityTokenReference")
    (fit : ∀ child ∈ element.childElements, child.FitsDepth maxDepth) :
    Reads (TokenReference.read maxDepth) element.tokens
      { ofAttributes element.attributes with
        any := element.childElements } := by
  refine (enter_becomes_content named _).reads ?_
  exact (Fragment.readRest_reads named fit).bind_last (Reads.pure _)

theorem TokenReference.readWrapped_reads
    (named : element.localName = localPart)
    (children : element.childElements = [first])
    (childNamed : first.localName = "SecurityTokenReference")
    (fit : ∀ child ∈ first.childElements, child.FitsDepth maxDepth) :
    Reads (TokenReference.readWrapped localPart maxDepth) element.tokens
      { ofAttributes first.attributes with any := first.childElements } := by
  obtain ⟨texts, after, split, noElement⟩ :=
    Node.exists_split_at_element children
  refine (enter_becomes_content named _).reads ?_
  rw [Element.contentTokens, split, List.append_assoc, List.append_assoc]
  have reached := enter_of_texts "SecurityTokenReference" texts
    (first.tokens ++ (Node.tokensOfAll after ++ [.endTag element.name]))
  refine ((reached.bind _).bind _).reads ?_
  exact child_closing_reads (TokenReference.read_reads childNamed fit) named
    noElement fun reference => reference

/-! ## Keys and secrets -/

theorem UseKey.read_reads
    (named : element.localName = "UseKey")
    (children : element.childElements = [first])
    (known : first.localName = "X509Certificate" ∨
      first.localName = "KeyValue")
    (fits : first.FitsDepth maxDepth) :
    Reads (UseKey.read maxDepth) element.tokens ⟨first⟩ := by
  obtain ⟨after, noElement, reached⟩ :=
    exists_peekChild_of_children "UseKey" _ children
  refine (enter_becomes_content named _).reads (reached.reads ?_)
  have tagKnown : first.startTag.localName = "X509Certificate" ∨
      first.startTag.localName = "KeyValue" := known
  simp only [if_pos tagKnown]
  exact child_closing_reads (captureElement_reads fits) named noElement
    UseKey.mk

theorem BinarySecret.read_reads
    {typeRequired : Bool}
    (named : element.localName = "BinarySecret")
    (held : element.HoldsText)
    (typed : typeRequired = true →
      (element.startTag.attribute? "Type").isSome) :
    Reads (BinarySecret.read typeRequired) element.tokens
      { type := element.startTag.attribute? "Type"
        value := Text.bytesOf element.trimmedText } := by
  refine (enter_becomes_content named _).reads ?_
  have present :
      ¬ (typeRequired &&
        (element.startTag.attribute? "Type").isNone) = true := by
    cases typeRequired with
    | false => simp
    | true => simpa [Option.isSome_iff_ne_none] using typed rfl
  simp only [if_neg present]
  exact (requiredText_reads _ _ held).bind_last (Reads.pure _)

theorem Entropy.read_reads_nothing
    (named : element.localName = "Entropy")
    (childless : element.childElements = []) :
    Reads Entropy.read element.tokens ⟨none⟩ := by
  refine (enter_becomes_content named _).reads ?_
  refine (peekChild_of_childless "Entropy" _ childless).reads ?_
  exact closing_reads named (List.filterMap_nil) _

theorem Entropy.read_reads_secret
    (named : element.localName = "Entropy")
    (children : element.childElements = [first])
    (secret : first.localName = "BinarySecret")
    (held : first.HoldsText) :
    Reads Entropy.read element.tokens
      ⟨some
        { type := first.startTag.attribute? "Type"
          value := Text.bytesOf first.trimmedText }⟩ := by
  obtain ⟨after, noElement, reached⟩ :=
    exists_peekChild_of_children "Entropy" _ children
  refine (enter_becomes_content named _).reads (reached.reads ?_)
  have tagNamed : first.startTag.localName = "BinarySecret" := secret
  simp only [if_pos tagNamed]
  have read : Reads (BinarySecret.read false) first.tokens _ :=
    BinarySecret.read_reads secret held (by simp)
  exact child_closing_reads (read.map some) named noElement Entropy.mk

theorem ProofToken.read_reads_nothing
    (named : element.localName = "RequestedProofToken")
    (childless : element.childElements = []) :
    Reads ProofToken.read element.tokens .none := by
  refine (enter_becomes_content named _).reads ?_
  refine (peekChild_of_childless "RequestedProofToken" _ childless).reads ?_
  exact closing_reads named (List.filterMap_nil) _

theorem ProofToken.read_reads_secret
    (named : element.localName = "RequestedProofToken")
    (children : element.childElements = [first])
    (secret : first.localName = "BinarySecret")
    (held : first.HoldsText)
    (typed : (first.startTag.attribute? "Type").isSome) :
    Reads ProofToken.read element.tokens
      (.binarySecret
        { type := first.startTag.attribute? "Type"
          value := Text.bytesOf first.trimmedText }) := by
  obtain ⟨after, noElement, reached⟩ :=
    exists_peekChild_of_children "RequestedProofToken" _ children
  refine (enter_becomes_content named _).reads (reached.reads ?_)
  have tagNamed : first.startTag.localName = "BinarySecret" := secret
  simp only [if_pos tagNamed]
  have read : Reads (BinarySecret.read true) first.tokens _ :=
    BinarySecret.read_reads secret held fun _ => typed
  exact child_closing_reads (read.map ProofToken.binarySecret) named
    noElement id

theorem ProofToken.read_reads_computedKey
    (named : element.localName = "RequestedProofToken")
    (children : element.childElements = [first])
    (computed : first.localName = "ComputedKey")
    (held : first.HoldsText) :
    Reads ProofToken.read element.tokens
      (.computedKey first.trimmedText) := by
  obtain ⟨after, noElement, reached⟩ :=
    exists_peekChild_of_children "RequestedProofToken" _ children
  refine (enter_becomes_content named _).reads (reached.reads ?_)
  have tagNamed : first.startTag.localName = "ComputedKey" := computed
  have notSecret : ¬ first.startTag.localName = "BinarySecret" := by
    rw [tagNamed]
    decide
  simp only [if_neg notSecret, if_pos tagNamed]
  have read :
      Reads
        (nextStartTag "ComputedKey" >>= fun _ =>
          ProofToken.computedKey <$>
            requiredText "ComputedKey" "computed key algorithm")
        first.tokens (.computedKey first.trimmedText) :=
    (nextStartTag_reads "ComputedKey" first.startTag).bind
      ((requiredText_reads _ _ held).map _)
  exact child_closing_reads read named noElement id

/-! ## Outcomes and renewals -/

def Status.withPart (status : Status) (part : Element) : Status :=
  if part.localName = "Code" then
    { status with code := part.trimmedText }
  else
    { status with reason := part.trimmedText }

theorem Status.turn_takes
    {part : Element}
    (named : part.localName = "Code" ∨ part.localName = "Reason")
    (held : part.HoldsText) :
    Takes Element.tokens Status.turn Status.withPart part := by
  refine Or.inr ⟨part.tokens_ne_nil, fun status => ?_⟩
  refine (peek_becomes _ part.contentTokens (.startTag part.startTag)).reads
    ?_
  rw [Status.withPart]
  by_cases code : part.localName = "Code"
  · have tagNamed : part.startTag.localName = "Code" := code
    simp only [if_pos tagNamed, if_pos code]
    refine (enter_becomes_content code _).reads ?_
    exact (requiredText_reads _ _ held).bind_last (Reads.pure _)
  · have reason : part.localName = "Reason" := named.resolve_left code
    have tagNamed : part.startTag.localName = "Reason" := reason
    have notCode : ¬ part.startTag.localName = "Code" := code
    simp only [if_neg notCode, if_pos tagNamed, if_neg code]
    refine (enter_becomes_content reason _).reads ?_
    exact (requiredText_reads _ _ held).bind_last (Reads.pure _)

theorem Status.read_reads
    {parts : List Element}
    (named : element.localName = "Status")
    (children : element.children = parts.map Element.toNode)
    (partsNamed : ∀ part ∈ parts,
      part.localName = "Code" ∨ part.localName = "Reason")
    (held : ∀ part ∈ parts, part.HoldsText) :
    Reads Status.read element.tokens
      (parts.foldl Status.withPart ⟨"", ""⟩) := by
  refine (enter_becomes_content named _).reads ?_
  rw [Element.contentTokens, children, Node.tokensOfAll_map_toNode]
  have taken : ∀ part ∈ parts,
      Takes Element.tokens Status.turn Status.withPart part :=
    fun part member => Status.turn_takes (partsNamed part member)
      (held part member)
  exact repeating_reads_parts taken (Status.turn_closes named _)

theorem Renewing.read_reads
    (named : element.localName = "Renewing")
    (childless : element.childElements = []) :
    Reads Renewing.read element.tokens
      { allow := (flag? element.startTag "Allow").getD true
        ok := (flag? element.startTag "OK").getD false } := by
  refine (enter_becomes_content named _).reads ?_
  exact closing_reads named childless _

/-! ## Relying parties -/

/-- The address that is known of an endpoint after one more of its children. -/
def AppliesTo.addressAfter (address : Option String) (node : Node) :
    Option String :=
  match node.element? with
  | none => address
  | some child =>
      if child.localName = "Address" ∧ address = none then
        some child.trimmedText
      else
        address

theorem AppliesTo.turn_takes_element
    {child : Element}
    (held : child.localName = "Address" → child.HoldsText) :
    Takes Node.tokens AppliesTo.turn AppliesTo.addressAfter
      child.toNode := by
  refine Or.inr ⟨child.tokens_ne_nil, fun address => ?_⟩
  refine (peekChild_of_startTag child.contentTokens _ _
    child.startTag).reads ?_
  simp only [AppliesTo.addressAfter, Element.element?_toNode]
  by_cases wanted : child.localName = "Address" ∧ address = none
  · have tagWanted :
        child.startTag.localName = "Address" ∧ address = none := wanted
    simp only [if_pos wanted, if_pos tagWanted]
    refine (enter_becomes_content wanted.1 _).reads ?_
    exact (requiredText_reads _ _ (held wanted.1)).bind_last (Reads.pure _)
  · have tagUnwanted :
        ¬ (child.startTag.localName = "Address" ∧ address = none) := wanted
    simp only [if_neg wanted, if_neg tagUnwanted]
    exact (skipElement_reads child).bind_last (Reads.pure _)

theorem AppliesTo.turn_takes
    {node : Node}
    (held : ∀ child, node.element? = some child →
      child.localName = "Address" → child.HoldsText) :
    Takes Node.tokens AppliesTo.turn AppliesTo.addressAfter node := by
  cases node with
  | text content =>
      exact Or.inl ⟨AppliesTo.turn_ignores content, fun _ => rfl⟩
  | element name attributes children =>
      let child : Element := ⟨name, attributes, children⟩
      exact AppliesTo.turn_takes_element (held child rfl)

/-- The first address among the children of an endpoint is the one that is
read. -/
theorem AppliesTo.readEndpoint_reads
    {address : String}
    (named : element.localName = "EndpointReference")
    (held : ∀ child ∈ element.childElements,
      child.localName = "Address" → child.HoldsText)
    (found : element.children.foldl AppliesTo.addressAfter none =
      some address) :
    Reads AppliesTo.readEndpoint element.tokens address := by
  refine (enter_becomes_content named _).reads ?_
  rw [Element.contentTokens, Node.tokensOfAll_eq_flatMap]
  have taken : ∀ node ∈ element.children,
      Takes Node.tokens AppliesTo.turn AppliesTo.addressAfter node := by
    intro node member
    apply AppliesTo.turn_takes
    intro child isChild
    exact held child (List.mem_filterMap.mpr ⟨node, member, isChild⟩)
  obtain ⟨trailing, ignored, reached⟩ := repeating_becomes_after_parts taken
    none Ignores.nil [.endTag element.name]
  rw [found] at reached
  have ended := (ignored (some address) [.endTag element.name]).trans
    (AppliesTo.turn_ends element.name (some address))
  refine ((reached.trans (repeating_ends ended)).bind _).reads ?_
  refine ((Reads.pure (some address)).becomes _ _).reads ?_
  exact (expectEndTag_reads named).bind_last (Reads.pure address)

theorem AppliesTo.read_reads_nothing
    (named : element.localName = "AppliesTo")
    (childless : element.childElements = []) :
    Reads AppliesTo.read element.tokens (.value "") := by
  refine (enter_becomes_content named _).reads ?_
  refine (peekChild_of_childless "AppliesTo" _ childless).reads ?_
  exact closing_reads named (List.filterMap_nil) _

theorem AppliesTo.read_reads_endpoint
    {address : String}
    (named : element.localName = "AppliesTo")
    (children : element.childElements = [first])
    (endpoint : first.localName = "EndpointReference")
    (read : Reads AppliesTo.readEndpoint first.tokens address) :
    Reads AppliesTo.read element.tokens (.endpointReference address) := by
  obtain ⟨after, noElement, reached⟩ :=
    exists_peekChild_of_children "AppliesTo" _ children
  refine (enter_becomes_content named _).reads (reached.reads ?_)
  have tagNamed : first.startTag.localName = "EndpointReference" := endpoint
  simp only [if_pos tagNamed]
  exact child_closing_reads (read.map AppliesTo.endpointReference) named
    noElement id

theorem AppliesTo.read_reads_fragment
    (named : element.localName = "AppliesTo")
    (children : element.childElements = [first])
    (notEndpoint : first.localName ≠ "EndpointReference")
    (fits : first.FitsDepth AppliesTo.maxDepth) :
    Reads AppliesTo.read element.tokens (.fragment first) := by
  obtain ⟨after, noElement, reached⟩ :=
    exists_peekChild_of_children "AppliesTo" _ children
  refine (enter_becomes_content named _).reads (reached.reads ?_)
  have tagNamed : ¬ first.startTag.localName = "EndpointReference" :=
    notEndpoint
  simp only [if_neg tagNamed]
  exact child_closing_reads
    ((captureElement_reads fits).map AppliesTo.fragment) named noElement id

/-! ## Spans of time -/

theorem Lifetime.readEnd_reads
    {name : QName} {nodes : List Node}
    (named : name.localPart = "Lifetime")
    (elements : nodes.filterMap Node.element? = [last])
    (expiry : last.localName = "Expires") (held : last.HoldsText)
    (created : Option Timestamp) :
    Reads (Lifetime.readEnd created)
      (Node.tokensOfAll nodes ++ [.endTag name])
      { created, expires := ⟨last.trimmedText⟩ } := by
  obtain ⟨texts, after, split, noElement⟩ :=
    Node.exists_split_at_element elements
  rw [split, List.append_assoc, List.append_assoc]
  have reached := nextStartTag_of_texts "Expires" texts
    (last.tokens ++ (Node.tokensOfAll after ++ [.endTag name]))
  refine (reached.bind _).reads ?_
  refine ((nextStartTag_reads "Expires" last.startTag).becomes _ _).reads ?_
  have tagNamed : last.startTag.localName = "Expires" := expiry
  simp only [if_pos tagNamed]
  exact child_closing_reads (requiredText_reads _ _ held) named noElement
    fun expires => Lifetime.mk created ⟨expires⟩

/-- The first child of a lifetime is its start if it is named so, and is passed
over otherwise. -/
theorem Lifetime.read_reads
    (named : element.localName = "Lifetime")
    (children : element.childElements = [first, last])
    (childless : first.childElements = [])
    (expiry : last.localName = "Expires") (held : last.HoldsText) :
    Reads Lifetime.read element.tokens
      { created :=
          if first.localName = "Created" then
            some ⟨first.trimmedText⟩
          else
            none
        expires := ⟨last.trimmedText⟩ } := by
  obtain ⟨texts, after, split, remaining⟩ :=
    Node.exists_split_at_element children
  refine (enter_becomes_content named _).reads ?_
  rw [Element.contentTokens, split, List.append_assoc, List.append_assoc]
  have reached := nextStartTag_of_texts "Created" texts
    (first.tokens ++ (Node.tokensOfAll after ++ [.endTag element.name]))
  refine (reached.bind _).reads ?_
  refine ((nextStartTag_reads "Created" first.startTag).becomes _ _).reads ?_
  have ended := Lifetime.readEnd_reads named remaining expiry held
  by_cases start : first.localName = "Created"
  · have tagNamed : first.startTag.localName = "Created" := start
    simp only [if_pos tagNamed, if_pos start]
    have read := (elementText_settles "Created" first).1 childless
    exact ((read.map Timestamp.mk).map some).bind (ended _)
  · have tagNamed : ¬ first.startTag.localName = "Created" := start
    simp only [if_neg tagNamed, if_neg start]
    have passed := nextStartTag_passes "Expires"
      (startTag_notMem_of_childless childless)
      (Node.tokensOfAll after ++ [.endTag element.name])
    refine ((Reads.pure none).becomes _ _).reads ?_
    exact (passed.bind _).reads (ended none)

end WsTrust
