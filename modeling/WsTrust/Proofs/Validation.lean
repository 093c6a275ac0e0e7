import Mathlib.Data.List.DropRight
import WsTrust.Proofs.Captured
import WsTrust.Proofs.Statements
import WsTrust.Proofs.Wrappers
import WsTrust.Proofs.Writing

/-!
# What is read can be written

Every value that a reader yields is one that the canonical form of messages can
say, whatever the stream is and wherever it ends.
-/

namespace WsTrust

open Cursor

/-! ## Trimming and numerals -/

namespace Text

theorem trimStart_trimEnd_trimStart (characters : List Char) :
    trimStart (trimEnd (trimStart characters)) =
      trimEnd (trimStart characters) := by
  have kept : trimEnd (trimStart characters) <+: trimStart characters :=
    List.rdropWhile_prefix isBlank _
  cases trimmed : trimEnd (trimStart characters) with
  | nil => rfl
  | cons first rest =>
      have head := List.head?_dropWhile_not isBlank characters
      obtain ⟨dropped, equality⟩ := kept
      rw [trimmed, trimStart] at equality
      have started : isBlank first = false := by
        simpa [← equality] using head
      simp [trimStart, started]

/-- What trimming leaves is trimmed. -/
theorem isTrimmed_trim (text : String) : IsTrimmed (trim text) := by
  have again := List.rdropWhile_idempotent isBlank (trimStart text.toList)
  rw [IsTrimmed, trim, trim, String.toList_ofList,
    trimStart_trimEnd_trimStart]
  exact congrArg String.ofList again

theorem lt_of_readDigits
    {radix bound value number : Nat} {digits : List Char}
    (small : value < bound)
    (read : readDigits radix bound value digits = .ok number) :
    number < bound := by
  induction digits generalizing value with
  | nil =>
      cases read
      exact small
  | cons head tail inductionHypothesis =>
      simp only [readDigits] at read
      split at read
      · cases read
      · split at read
        · rename_i extended
          exact inductionHypothesis extended read
        · cases read

theorem lt_of_readNatural
    {bound number : Nat} {characters : List Char}
    (positive : 0 < bound)
    (read : readNatural bound characters = .ok number) :
    number < bound := by
  unfold readNatural at read
  split at read
  · cases read
  · cases read
  · exact lt_of_readDigits positive read
  · exact lt_of_readDigits positive read

end Text

/-! ## Values -/

section Values

theorem Cursor.elementText_ensures (within : String) :
    Ensures (elementText within) Text.IsTrimmed := by
  refine scan_ensures (fun _ => True) ?_ trivial
  intro text _ token turn stepped
  cases token with
  | startTag tag => cases stepped
  | endTag name =>
      cases stepped
      exact Text.isTrimmed_trim text
  | text content =>
      cases stepped
      exact trivial

theorem Cursor.requiredText_ensures (within what : String) :
    Ensures (requiredText within what) Text.IsValue := by
  refine Ensures.bind_anything fun ahead => ?_
  split
  · refine (elementText_ensures within).bind fun text trimmed => ?_
    split
    · exact Ensures.raise _
    · rename_i present
      exact Ensures.pure ⟨trimmed, by simpa using present⟩
  · exact Ensures.raise _

theorem Scalar.readUri_ensures (localPart what : String) :
    Ensures (readUri localPart what) Uri.IsWritable := by
  refine Ensures.bind_anything fun _ => ?_
  refine (requiredText_ensures localPart what).bind fun text value => ?_
  split
  · rename_i uri read
    obtain ⟨reference, rfl⟩ := (Uri.read_eq_ok_iff text uri).mp read
    exact Ensures.pure ⟨reference, value.2⟩
  · exact Ensures.raise _

theorem Scalar.readInteger_ensures (localPart what : String) :
    Ensures (readInteger localPart what) (· < Text.wordBound) := by
  refine Ensures.bind_anything fun _ => Ensures.bind_anything fun text => ?_
  split
  · rename_i number read
    exact Ensures.pure (Text.lt_of_readNatural (by decide) read)
  · exact Ensures.raise _

theorem BinarySecret.read_ensures (typeRequired : Bool) :
    Ensures (read typeRequired) fun secret =>
      secret.IsWritable ∧ (typeRequired → secret.type.isSome) := by
  refine Ensures.bind_anything fun tag => ?_
  simp only
  split
  · exact Ensures.refuse _
  · rename_i allowed
    refine (requiredText_ensures _ _).bind fun text value => ?_
    refine Ensures.pure ⟨⟨text, rfl, value⟩, fun required => ?_⟩
    simpa [required, Option.isSome_iff_ne_none] using allowed

theorem Entropy.read_ensures : Ensures read Entropy.IsWritable := by
  have closing {found : Option BinarySecret}
      (writable : ∀ secret, found = some secret → secret.IsWritable) :
      Ensures
        (do
          expectEndTag "Entropy"
          return ({ binarySecret := found } : Entropy))
        Entropy.IsWritable :=
    Ensures.bind_anything fun _ => Ensures.pure writable
  refine Ensures.bind_anything fun tag => ?_
  refine Ensures.bind_anything fun child => ?_
  dsimp only
  split
  · split
    · have read : Ensures (some <$> BinarySecret.read false) fun found =>
          ∀ secret, found = some secret → secret.IsWritable := by
        refine ((BinarySecret.read_ensures false).mono ?_).map
        rintro _ ⟨writable, _⟩ secret ⟨⟩
        exact writable
      exact read.bind fun _ => closing
    · exact Ensures.bind_anything fun _ => closing nofun
  · exact closing nofun

theorem UseKey.read_ensures (maxDepth : Nat) :
    Ensures (read maxDepth) (UseKey.IsWritable maxDepth) := by
  refine Ensures.bind_anything fun tag => ?_
  intro stream rest key succeeded
  obtain ⟨child, middle, looked, succeeded⟩ := bind_eq_ok_iff.mp succeeded
  cases child with
  | none => cases succeeded
  | some child =>
      simp only at succeeded
      split at succeeded
      · rename_i known
        obtain ⟨fragment, behind, captured, succeeded⟩ :=
          bind_eq_ok_iff.mp succeeded
        obtain ⟨_, _, _, concluded⟩ := bind_eq_ok_iff.mp succeeded
        cases concluded
        have begins :=
          startTag_of_captureElement (startsWith_of_peekChild looked) captured
        have fits := captureElement_ensures maxDepth captured
        have named : fragment.localName = child.localName :=
          congrArg StartTag.localName begins
        exact ⟨named ▸ known, fits⟩
      · cases succeeded

theorem ProofToken.read_ensures : Ensures read ProofToken.IsWritable := by
  have closing {proof : ProofToken} (writable : proof.IsWritable) :
      Ensures
        (do
          expectEndTag "RequestedProofToken"
          return proof)
        ProofToken.IsWritable :=
    Ensures.bind_anything fun _ => Ensures.pure writable
  refine Ensures.bind_anything fun tag => ?_
  refine Ensures.bind_anything fun child => ?_
  dsimp only
  split
  · exact closing trivial
  · split
    · have read : Ensures (ProofToken.binarySecret <$> BinarySecret.read true)
          ProofToken.IsWritable :=
        ((BinarySecret.read_ensures true).mono fun _ both =>
          ⟨both.1, both.2 rfl⟩).map
      exact read.bind fun _ => closing
    · split
      · refine Ensures.bind_anything fun _ => ?_
        have read :
            Ensures
              (ProofToken.computedKey <$>
                requiredText "ComputedKey" "computed key algorithm")
              ProofToken.IsWritable :=
          Ensures.map (requiredText_ensures _ _)
        exact read.bind fun _ => closing
      · exact (Ensures.refuse _).bind fun _ => closing

theorem Lifetime.read_ensures : Ensures read Lifetime.IsWritable := by
  have ending {created : Option Timestamp}
      (trimmed : ∀ start, created = some start →
        Text.IsTrimmed start.text) :
      Ensures (readEnd created) Lifetime.IsWritable := by
    refine Ensures.bind_anything fun tag => ?_
    split
    · refine (requiredText_ensures _ _).bind fun text value => ?_
      exact Ensures.bind_anything fun _ => Ensures.pure ⟨trimmed, value⟩
    · exact Ensures.refuse _
  refine Ensures.bind_anything fun tag => ?_
  refine Ensures.bind_anything fun first => ?_
  dsimp only
  split
  · have read :
        Ensures (some <$> Timestamp.mk <$> elementText "Created")
          fun created => ∀ start, created = some start →
            Text.IsTrimmed start.text := by
      refine Ensures.map (Ensures.map ?_)
      refine (elementText_ensures "Created").mono ?_
      rintro text trimmed _ ⟨⟩
      exact trimmed
    exact read.bind fun _ => ending
  · exact (Ensures.pure nofun).bind fun _ => ending

theorem Status.read_ensures : Ensures read Status.IsWritable := by
  have turn_keeps (status : Status) (writable : status.IsWritable) :
      Ensures (Status.turn status)
        (Turn.Keeps Status.IsWritable Status.IsWritable) := by
    refine Ensures.bind_anything fun token => ?_
    split
    · split
      · exact Ensures.bind_anything fun _ => Ensures.pure writable
      · exact Ensures.refuse _
    · split
      · refine Ensures.bind_anything fun _ => ?_
        refine (requiredText_ensures _ _).bind fun code value => ?_
        exact Ensures.pure ⟨value.1, writable.2⟩
      · split
        · refine Ensures.bind_anything fun _ => ?_
          refine (requiredText_ensures _ _).bind fun reason value => ?_
          exact Ensures.pure ⟨writable.1, value.1⟩
        · exact Ensures.refuse _
    · exact Ensures.refuse _
    · exact Ensures.refuse _
  refine Ensures.bind_anything fun tag => ?_
  exact repeating_ensures Status.IsWritable turn_keeps
    ⟨by decide, by decide⟩

theorem Fragment.readOne_ensures (localPart : String) (maxDepth : Nat) :
    Ensures (readOne localPart maxDepth) (·.FitsDepth maxDepth) := by
  refine Ensures.bind_anything fun _ => Ensures.bind_anything fun child => ?_
  split
  · refine (captureElement_ensures maxDepth).bind fun fragment fits => ?_
    exact Ensures.bind_anything fun _ => Ensures.pure fits
  · exact Ensures.refuse _

theorem Fragment.readRest_ensures (localPart : String) (maxDepth : Nat) :
    Ensures (readRest localPart maxDepth) fun fragments =>
      ∀ fragment ∈ fragments, fragment.FitsDepth maxDepth := by
  let AllFit (fragments : List Element) : Prop :=
    ∀ fragment ∈ fragments, fragment.FitsDepth maxDepth
  have turn_keeps (earlier : List Element) (fit : AllFit earlier) :
      Ensures (Fragment.turn localPart maxDepth earlier)
        (Turn.Keeps AllFit AllFit) := by
    refine Ensures.bind_anything fun boundary => ?_
    split
    · refine (captureElement_ensures maxDepth).bind fun fragment fits => ?_
      exact Ensures.pure (List.forall_mem_cons.mpr ⟨fits, fit⟩)
    · split
      · refine Ensures.bind_anything fun _ => Ensures.pure ?_
        exact fun fragment member => fit fragment (List.mem_reverse.mp member)
      · exact Ensures.refuse _
    · exact Ensures.refuse _
  exact repeating_ensures AllFit turn_keeps nofun

theorem RequestedToken.read_ensures (maxDepth : Nat) :
    Ensures (read maxDepth) fun token =>
      ∀ fragment ∈ token.any, fragment.FitsDepth maxDepth := by
  refine Ensures.bind_anything fun _ => ?_
  exact (Fragment.readRest_ensures _ maxDepth).bind fun _ fit =>
    Ensures.pure fit

theorem TokenReference.readWrapped_ensures
    (localPart : String) (maxDepth : Nat) :
    Ensures (readWrapped localPart maxDepth)
      (TokenReference.IsWritable maxDepth) := by
  have read : Ensures (read maxDepth) (TokenReference.IsWritable maxDepth) := by
    refine Ensures.bind_anything fun tag => ?_
    refine (Fragment.readRest_ensures _ maxDepth).bind fun any fit => ?_
    exact Ensures.pure ⟨keepsOthers_ofAttributes tag.attributes, fit⟩
  refine Ensures.bind_anything fun _ => read.bind fun reference writable => ?_
  exact Ensures.bind_anything fun _ => Ensures.pure writable

theorem AppliesTo.readEndpoint_ensures :
    Ensures readEndpoint Text.IsValue := by
  let Found (address : Option String) : Prop :=
    ∀ text, address = some text → Text.IsValue text
  have turn_keeps (address : Option String) (found : Found address) :
      Ensures (AppliesTo.turn address) (Turn.Keeps Found Found) := by
    refine Ensures.bind_anything fun child => ?_
    split
    · split
      · refine Ensures.bind_anything fun _ => ?_
        refine (requiredText_ensures _ _).bind fun text value => ?_
        refine Ensures.pure fun other same => ?_
        rwa [← Option.some.inj same]
      · exact Ensures.bind_anything fun _ => Ensures.pure found
    · exact Ensures.pure found
  have unknown : Found none := fun text absurd => nomatch absurd
  refine Ensures.bind_anything fun _ => ?_
  refine (repeating_ensures Found turn_keeps unknown).bind
    fun address found => ?_
  refine Ensures.bind_anything fun _ => ?_
  split
  · rename_i text
    exact Ensures.pure (found text rfl)
  · exact Ensures.raise _

theorem AppliesTo.read_ensures : Ensures read AppliesTo.IsWritable := by
  have closing {party : AppliesTo} (writable : party.IsWritable) :
      Ensures
        (do
          expectEndTag "AppliesTo"
          return party)
        AppliesTo.IsWritable :=
    Ensures.bind_anything fun _ => Ensures.pure writable
  refine Ensures.bind_anything fun tag => ?_
  intro stream rest party succeeded
  obtain ⟨child, middle, looked, succeeded⟩ := bind_eq_ok_iff.mp succeeded
  cases child with
  | none =>
      have nothing : (AppliesTo.value "").IsWritable := rfl
      exact closing nothing succeeded
  | some child =>
      simp only at succeeded
      split at succeeded
      · have read :
            Ensures (AppliesTo.endpointReference <$> readEndpoint)
              AppliesTo.IsWritable := Ensures.map readEndpoint_ensures
        exact (read.bind fun _ => closing) succeeded
      · rename_i other
        obtain ⟨found, behind, read, concluded⟩ :=
          bind_eq_ok_iff.mp succeeded
        obtain ⟨fragment, captured, rfl⟩ := map_eq_ok_iff.mp read
        have begins :=
          startTag_of_captureElement (startsWith_of_peekChild looked) captured
        have fits := captureElement_ensures AppliesTo.maxDepth captured
        have named : fragment.localName = child.localName :=
          congrArg StartTag.localName begins
        have writable : (AppliesTo.fragment fragment).IsWritable :=
          ⟨named ▸ other, fits⟩
        exact closing writable concluded

end Values

/-! ## Children -/

theorem Term.readers_ensure (maxDepth : Nat) :
    ∀ row ∈ Term.readers,
      Ensures (row.2 maxDepth) (Term.IsWritable maxDepth) := by
  simp only [Term.readers, List.forall_mem_cons]
  refine ⟨?requestType, ?tokenType, ?keyType, ?lifetime, ?onBehalfOf,
    ?keySize, ?entropy, ?useKey, ?renewing, by simp⟩
  case requestType | tokenType | keyType =>
    exact Ensures.map (Scalar.readUri_ensures _ _)
  case lifetime => exact Ensures.map Lifetime.read_ensures
  case onBehalfOf =>
    refine Ensures.map ?_
    exact (Fragment.readOne_ensures _ maxDepth).bind fun _ fits =>
      Ensures.pure fits
  case keySize => exact Ensures.map (Scalar.readInteger_ensures _ _)
  case entropy => exact Ensures.map Entropy.read_ensures
  case useKey => exact Ensures.map (UseKey.read_ensures maxDepth)
  case renewing => exact Ensures.map (Ensures.anything _)

theorem Term.readersAs_ensure
    {Child : Type} (ofTerm : Term → Child) {valid : Child → Prop}
    {maxDepth : Nat}
    (validTerm : ∀ term, term.IsWritable maxDepth → valid (ofTerm term)) :
    ∀ row ∈ Term.readersAs ofTerm, Ensures (row.2 maxDepth) valid := by
  intro row member
  obtain ⟨⟨localPart, read⟩, inReaders, rfl⟩ := List.mem_map.mp member
  exact ((Term.readers_ensure maxDepth _ inReaders).mono validTerm).map

theorem Response.children_ensure (maxDepth : Nat) :
    ∀ row ∈ Response.grammar.children,
      Ensures (row.2 maxDepth) (ResponseChild.IsWritable maxDepth) := by
  simp only [Response.grammar, List.forall_mem_append, List.forall_mem_cons]
  refine ⟨Term.readersAs_ensure _ fun _ => id, ?cancelled, ?proofToken,
    ?requestedToken, ?attached, ?unattached, ?status, by simp⟩
  case cancelled => exact Ensures.bind_anything fun _ => Ensures.pure trivial
  case proofToken => exact Ensures.map ProofToken.read_ensures
  case requestedToken => exact Ensures.map (RequestedToken.read_ensures _)
  case attached | unattached =>
    exact Ensures.map (TokenReference.readWrapped_ensures _ maxDepth)
  case status => exact Ensures.map Status.read_ensures

theorem Request.children_ensure (maxDepth : Nat) :
    ∀ row ∈ Request.grammar.children,
      Ensures (row.2 maxDepth) (RequestChild.IsWritable maxDepth) := by
  simp only [Request.grammar, List.forall_mem_append, List.forall_mem_cons]
  refine ⟨Term.readersAs_ensure _ fun _ => id, ?computedKey, ?signature,
    ?encryption, ?canonicalization, ?validate, ?renew, ?cancel, by simp⟩
  case computedKey | signature | encryption | canonicalization =>
    exact Ensures.map (Scalar.readUri_ensures _ _)
  case validate | renew | cancel =>
    exact Ensures.map (Fragment.readOne_ensures _ maxDepth)

end WsTrust
