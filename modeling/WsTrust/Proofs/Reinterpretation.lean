import WsTrust.Proofs.NestingLimit
import WsTrust.Proofs.Recapture

/-!
# Fragments taken out of a message

A message keeps fragments of its document, which may use prefixes that are
declared outside of them.  Written out on their own they lose these
declarations, so a fragment can be read back exactly if it is self-contained
and shows all of its texts.
-/

namespace WsTrust

open Cursor

/-! ## Reading a fragment back -/

namespace Element

variable {element : Element}

/-- The element is read back from what it is written as: the capture succeeds,
and its result means the same, once adjacent texts are joined. -/
def IsReadBack (element : Element) (maxDepth : Nat) (trimText : Bool) :
    Prop :=
  ∃ again after,
    captureElement maxDepth (TokenStream.ofXml trimText element.toXml) =
        .ok again after ∧
      again.same element.joinTexts = true

/-- The element is read back exactly if it is self-contained and has no empty
text that is not part of a longer one. -/
theorem isReadBack_iff
    {maxDepth : Nat} (named : element.HasXmlNames)
    (fits : element.FitsDepth maxDepth) (trimText : Bool) :
    element.IsReadBack maxDepth trimText ↔
      element.IsSelfContained ∧
        element.joinTexts.dropEmptyTexts = element.joinTexts := by
  rcases captureElement_toXml named fits trimText with
    ⟨declarable, rest, succeeds, _⟩ | ⟨undeclarable, failure, rest, fails⟩
  · constructor
    · rintro ⟨again, after, captured, same⟩
      rw [succeeds] at captured
      cases captured
      obtain ⟨bound, unchanged⟩ := isBound_of_same same
      have boundBefore :=
        (Node.everyTag_joinTexts_iff _ _ element.toNode).mp bound
      exact ⟨declarable.and boundBefore, unchanged⟩
    · rintro ⟨contained, unchanged⟩
      have joined := element.isSelfContained_joinTexts_iff.mpr contained
      rw [joined.rebound_eq, unchanged] at succeeds
      exact ⟨_, _, succeeds, beq_iff_eq.mpr rfl⟩
  · constructor
    · rintro ⟨again, after, captured, _⟩
      rw [fails] at captured
      cases captured
    · rintro ⟨contained, _⟩
      have declarable := Node.EveryTag.mono
        (fun _ _ both => And.left both) contained
      exact absurd declarable undeclarable

end Element

/-- A fragment of a message whose names are names of XML is read back from what
it is written as exactly if it declares inside itself what its prefixes are
bound to, and has no empty text. -/
theorem fragment_is_read_back_iff_selfContained
    {text : String} {payload : Payload}
    (accepted : Payload.readXml .standard .standard text = .ok payload)
    {fragment : Element} (member : fragment ∈ payload.fragments)
    (named : fragment.HasXmlNames) (trimText : Bool) :
    fragment.IsReadBack Settings.standard.maxDepth trimText ↔
      fragment.IsSelfContained ∧
        fragment.joinTexts.dropEmptyTexts = fragment.joinTexts := by
  rw [Payload.readXml] at accepted
  split at accepted
  · rename_i read
    cases accepted
    have fits := Payload.fragments_fit read fragment member
    exact Element.isReadBack_iff named fits trimText
  · cases accepted

def requestFor (fragment : Element) : Payload :=
  .request { context := "", onBehalfOf := some ⟨fragment⟩ }

theorem requestFor_keeps (fragment : Element) :
    fragment ∈ (requestFor fragment).fragments :=
  List.mem_singleton_self fragment

def declaredIdentity : Element :=
  ⟨.ofParts "urn:t" "Id",
    [⟨.ofParts Vocabulary.declarations "xmlns", "urn:t"⟩], [.text "x"]⟩

def declaringMessage : String :=
  "<RequestSecurityToken><OnBehalfOf><Id xmlns='urn:t'>x</Id>" ++
    "</OnBehalfOf></RequestSecurityToken>"

theorem declaringMessage_accepted :
    Payload.readXml .standard .standard declaringMessage =
      .ok (requestFor declaredIdentity) := by
  decide +kernel

theorem declaredIdentity_is_read_back :
    Payload.readXml .standard .standard declaringMessage =
        .ok (requestFor declaredIdentity) ∧
      declaredIdentity ∈ (requestFor declaredIdentity).fragments ∧
      declaredIdentity.HasXmlNames ∧
      declaredIdentity.IsReadBack Settings.standard.maxDepth true := by
  have accepted := declaringMessage_accepted
  have member := requestFor_keeps declaredIdentity
  have named : declaredIdentity.HasXmlNames := by decide +kernel
  have contained : declaredIdentity.IsSelfContained := by decide +kernel
  have unchanged :
      declaredIdentity.joinTexts.dropEmptyTexts =
        declaredIdentity.joinTexts := by
    decide +kernel
  exact ⟨accepted, member, named,
    (fragment_is_read_back_iff_selfContained accepted member named true).mpr
      ⟨contained, unchanged⟩⟩

def inheritingIdentity : Element :=
  Element.ofName (.ofParts "urn:t" "Id")

/-- A message that declares the namespace of the identity it keeps. -/
def inheritedMessage : String :=
  "<RequestSecurityToken xmlns='urn:t'><OnBehalfOf><Id/>" ++
    "</OnBehalfOf></RequestSecurityToken>"

theorem inheritedMessage_accepted :
    Payload.readXml .standard .standard inheritedMessage =
      .ok (requestFor inheritingIdentity) := by
  decide +kernel

/-- A fragment that inherits its namespace from the message is read back in
none. -/
theorem not_all_fragments_are_read_back :
    ¬ ∀ (text : String) (payload : Payload),
      Payload.readXml .standard .standard text = .ok payload →
        ∀ fragment ∈ payload.fragments,
          fragment.IsReadBack Settings.standard.maxDepth true := by
  intro allReadBack
  have readBack :=
    allReadBack inheritedMessage (requestFor inheritingIdentity)
      inheritedMessage_accepted inheritingIdentity
      (requestFor_keeps inheritingIdentity)
  have named : inheritingIdentity.HasXmlNames := by decide +kernel
  have fits :
      inheritingIdentity.FitsDepth Settings.standard.maxDepth := by
    decide +kernel
  have contained :=
    ((Element.isReadBack_iff named fits true).mp readBack).1
  have inherited : ¬ inheritingIdentity.IsSelfContained := by decide +kernel
  exact inherited contained

end WsTrust
