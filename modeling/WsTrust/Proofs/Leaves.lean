import WsTrust.Proofs.Confinement
import WsTrust.Proofs.ElementWise
import WsTrust.SecurityToken
import WsTrust.KeyMaterial
import WsTrust.Status
import WsTrust.TokenReference
import WsTrust.AppliesTo

/-!
# Readers that stay inside their element

Secrets, outcomes, captured contents and endpoints are read to the end of their
element or not at all, whatever it contains.
-/

namespace WsTrust

open Cursor

variable {element : Element} {localPart : String}

/-! ## Secrets -/

theorem BinarySecret.read_settles
    (named : element.localName = "BinarySecret") (typeRequired : Bool) :
    Settles (BinarySecret.read typeRequired) element.tokens := by
  refine (enter_becomes_content named _).settles ?_
  by_cases missing :
      (typeRequired && (element.startTag.attribute? "Type").isNone) = true
  · simp only [if_pos missing]
    exact Settles.of_fails (Fails.refuse _ _)
  · simp only [if_neg missing]
    refine Settles.bind_last (requiredText_settles _ _ element) ?_
    intro value _
    exact Settles.pure _

/-! ## Outcomes -/

def Status.turn (status : Status) : Cursor (Turn Status Status) := do
  match ← Cursor.peek with
  | some (.endTag name) =>
      if name.localPart = "Status" then
        let _ ← Cursor.next
        return .done status
      else
        Cursor.refuse (.unexpectedClose name.localPart)
  | some (.startTag tag) =>
      if tag.localName = "Code" then
        let _ ← Cursor.enter "Code"
        let code ← Cursor.requiredText "Code" "validation code"
        return .again { status with code }
      else if tag.localName = "Reason" then
        let _ ← Cursor.enter "Reason"
        let reason ← Cursor.requiredText "Reason" "validation reason"
        return .again { status with reason }
      else
        Cursor.refuse (.unknownTag tag.localName)
  | some (.text _) => Cursor.refuse (.unexpectedText "Status")
  | none => Cursor.refuse (.streamExhausted "Status")

theorem Status.turn_handles (part : Element) :
    Handles Status.turn part.tokens := by
  refine Or.inr ⟨part.tokens_ne_nil, fun status => ?_⟩
  refine CarriesOn.becomes ?_
    (peek_becomes _ part.contentTokens (.startTag part.startTag))
  by_cases code : part.startTag.localName = "Code"
  · simp only [if_pos code]
    refine CarriesOn.becomes ?_ (enter_becomes_content code _)
    exact CarriesOn.of_settles (requiredText_settles _ _ part) _
  · by_cases reason : part.startTag.localName = "Reason"
    · simp only [if_neg code, if_pos reason]
      refine CarriesOn.becomes ?_ (enter_becomes_content reason _)
      exact CarriesOn.of_settles (requiredText_settles _ _ part) _
    · simp only [if_neg code, if_neg reason]
      exact CarriesOn.of_fails (Fails.refuse _ _)

theorem Status.turn_closes
    {name : QName} (named : name.localPart = "Status") (status : Status) :
    Reads (Status.turn status) [.endTag name] (.done status) := by
  refine (peek_becomes _ [] (.endTag name)).reads ?_
  simp only [if_pos named]
  exact (next_reads (.endTag name)).bind_last (Reads.pure _)

theorem Status.read_settles
    (named : element.localName = "Status") :
    Settles Status.read element.tokens := by
  refine (enter_becomes_content named _).settles ?_
  rw [Element.contentTokens, Node.tokensOfAll_eq_flatMap]
  refine repeating_settles_parts
    (fun node _ => handles_node ?_ Status.turn_handles node)
    (fun status => Or.inl ⟨status, Status.turn_closes named status⟩) _
  intro content
  refine Or.inr ⟨List.cons_ne_nil _ _, fun status => ?_⟩
  refine CarriesOn.becomes ?_ (peek_becomes _ [] (.text content))
  exact CarriesOn.of_fails (Fails.refuse _ _)

/-! ## Captured contents -/

def Fragment.turn
    (localPart : String) (maxDepth : Nat) (earlier : List Element) :
    Cursor (Turn (List Element) (List Element)) := do
  match ← Cursor.peekBoundary with
  | some (.opening _) =>
      let fragment ← Cursor.captureElement maxDepth
      return .again (fragment :: earlier)
  | some (.closing name) =>
      if name.localPart = localPart then
        let _ ← Cursor.next
        return .done earlier.reverse
      else
        Cursor.refuse (.unexpectedClose name.localPart)
  | none => Cursor.refuse (.streamExhausted localPart)

theorem Fragment.turn_elementWise (localPart : String) (maxDepth : Nat) :
    ElementWise (Fragment.turn localPart maxDepth)
      (fun _ => captureElement maxDepth)
      (fun earlier fragment => fragment :: earlier) where
  ignores content := fun _ left =>
    (peekBoundary_of_text left content).bind _
  becomes _ element :=
    peekBoundary_of_startTag element.contentTokens _ element.startTag

theorem Fragment.turn_closes
    {name : QName} (named : name.localPart = localPart)
    (maxDepth : Nat) (earlier : List Element) :
    Reads (Fragment.turn localPart maxDepth earlier) [.endTag name]
      (.done earlier.reverse) := by
  refine (peekBoundary_of_endTag [] _ name).reads ?_
  simp only [if_pos named]
  exact (next_reads (.endTag name)).bind_last (Reads.pure _)

theorem Fragment.readRest_settles
    (named : element.localName = localPart) (maxDepth : Nat) :
    Settles (Fragment.readRest localPart maxDepth)
      element.contentTokens := by
  rcases (Fragment.turn_elementWise localPart maxDepth).reads_or_fails
      (fun part _ => captureElement_settles maxDepth part)
      (Fragment.turn_closes named maxDepth) [] with
    ⟨values, _, read⟩ | failed
  · exact Settles.of_reads read
  · exact Settles.of_fails failed

theorem RequestedToken.read_settles
    (named : element.localName = "RequestedSecurityToken")
    (maxDepth : Nat) :
    Settles (RequestedToken.read maxDepth) element.tokens := by
  refine (enter_becomes_content named _).settles ?_
  exact (Fragment.readRest_settles named maxDepth).bind_last
    fun _ _ => Settles.pure _

theorem TokenReference.read_settles
    (maxDepth : Nat) (element : Element) :
    Settles (TokenReference.read maxDepth) element.tokens := by
  by_cases named : element.localName = "SecurityTokenReference"
  · refine (enter_becomes_content named _).settles ?_
    exact (Fragment.readRest_settles named maxDepth).bind_last
      fun _ _ => Settles.pure _
  · have misnamed :
        element.startTag.localName ≠ "SecurityTokenReference" := named
    have failed := (enter_fails misnamed).append element.contentTokens
    exact Settles.of_fails (failed.bind _)

/-! ## Endpoints -/

/-- One turn of reading an endpoint, with the address that was found before. -/
def AppliesTo.turn (address : Option String) :
    Cursor (Turn (Option String) (Option String)) := do
  match ← Cursor.peekChild "EndpointReference" with
  | some child =>
      if child.localName = "Address" ∧ address = none then
        let _ ← Cursor.enter "Address"
        let found ← Cursor.requiredText "Address" "endpoint address"
        return .again (some found)
      else
        Cursor.skipElement
        return .again address
  | none => return .done address

theorem AppliesTo.turn_ignores (content : String) :
    Ignores AppliesTo.turn [.text content] :=
  fun _ left => (peekChild_of_text left _ content).bind _

theorem AppliesTo.turn_handles (part : Element) :
    Handles AppliesTo.turn part.tokens := by
  refine Or.inr ⟨part.tokens_ne_nil, fun address => ?_⟩
  refine CarriesOn.becomes ?_
    (peekChild_of_startTag part.contentTokens _ _ part.startTag)
  by_cases wanted : part.startTag.localName = "Address" ∧ address = none
  · simp only [if_pos wanted]
    refine CarriesOn.becomes ?_ (enter_becomes_content wanted.1 _)
    exact CarriesOn.of_settles (requiredText_settles _ _ part) _
  · simp only [if_neg wanted]
    exact CarriesOn.of_settles
      (Settles.of_reads (skipElement_reads part)) _

theorem AppliesTo.turn_ends (name : QName) (address : Option String) :
    Becomes (AppliesTo.turn address) [.endTag name]
      (pure (.done address)) [.endTag name] :=
  peekChild_of_endTag [] _ _ name

theorem AppliesTo.readEndpoint_settles
    (named : element.localName = "EndpointReference") :
    Settles AppliesTo.readEndpoint element.tokens := by
  refine (enter_becomes_content named _).settles ?_
  rw [Element.contentTokens, Node.tokensOfAll_eq_flatMap]
  have handled : ∀ node ∈ element.children,
      Handles AppliesTo.turn node.tokens := fun node _ =>
    handles_node (fun content => Or.inl (AppliesTo.turn_ignores content))
      AppliesTo.turn_handles node
  rcases repeating_passes_or_fails handled none Ignores.nil with
    ⟨address, trailing, ignored, passed⟩ | failed
  · have ended := (ignored address [.endTag element.name]).trans
      (AppliesTo.turn_ends element.name address)
    have reached := (passed _).trans (repeating_ends ended)
    refine (reached.bind _).settles ?_
    refine ((Reads.pure address).becomes _ _).settles ?_
    have closed : Reads (expectEndTag "EndpointReference")
        [.endTag element.name] () := expectEndTag_reads named
    refine Settles.bind_last (Settles.of_reads closed) fun _ _ => ?_
    cases address with
    | none => exact Settles.of_fails (Fails.raise _ _)
    | some found => exact Settles.pure found
  · exact Settles.of_fails ((failed.append _).bind _)

end WsTrust
