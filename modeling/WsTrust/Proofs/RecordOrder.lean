import WsTrust.Proofs.DocumentContexts

/-!
# Records in document order

The records of a message begin at start tags that follow one another in the
document.  Reading a record consumes its start tag at least, so that fewer items
are left where the next one begins.
-/

namespace WsTrust

/-! ## Places in a document -/

namespace Xml

/-- The pieces behind others end with the same items as all of them. -/
theorem itemsOfPieces_suffix
    (nesting : Nesting) (before later : List Piece) :
    itemsOfPieces (nestingAfter nesting before) later <:+
      itemsOfPieces nesting (before ++ later) := by
  induction before generalizing nesting with
  | nil => exact List.suffix_refl _
  | cons piece rest inductionHypothesis =>
      rw [List.cons_append, itemsOfPieces]
      exact (inductionHypothesis _).trans (List.suffix_append _ _)

namespace Opening

/-- The start tag has fewer pieces of the document before it. -/
def IsBefore (earlier later : Opening) : Prop :=
  earlier.before.length < later.before.length

instance (earlier later : Opening) : Decidable (earlier.IsBefore later) :=
  inferInstanceAs (Decidable (_ < _))

variable {earlier later : Opening} {text : String}

/-- A start tag that is not before another one is followed by its items at the
end of the document at most. -/
theorem items_length_le
    (earlierPlaced : earlier.IsIn text) (laterPlaced : later.IsIn text)
    (notBefore : ¬ earlier.IsBefore later) :
    (earlier.items text).length ≤ (later.items text).length := by
  have whole := laterPlaced.symm.trans earlierPlaced
  obtain ⟨between, split, rest⟩ :
      ∃ between, earlier.before = later.before ++ between ∧
        .startTag later.content later.isEmpty :: later.later =
          between ++
            .startTag earlier.content earlier.isEmpty :: earlier.later := by
    rcases List.append_eq_append_iff.mp whole with
      ⟨between, split, rest⟩ | ⟨between, split, rest⟩
    · exact ⟨between, split, rest⟩
    · have noneBetween : between = [] := by
        have lengths := congrArg List.length split
        rw [List.length_append] at lengths
        rw [← List.length_eq_zero_iff]
        unfold IsBefore at notBefore
        omega
      subst noneBetween
      exact ⟨[], by simpa using split.symm, by simpa using rest.symm⟩
  have nested :
      earlier.nesting = nestingAfter later.nesting between := by
    rw [nesting, nesting, split, nestingAfter, nestingAfter, nestingAfter,
      List.foldl_append]
  have suffix := itemsOfPieces_suffix later.nesting between
    (.startTag earlier.content earlier.isEmpty :: earlier.later)
  rw [items, items, nested, rest, List.length_append, List.length_append]
  exact Nat.add_le_add_right suffix.length_le _

end Opening

end Xml

/-! ## The order of records -/

namespace BodyGrammar

variable {Record Child : Type} {grammar : BodyGrammar Record Child}
  {registry : Registry} {maxDepth : Nat}

/-- Each member leaves fewer items than there were where it began. -/
theorem ReadsMembers.shrinks
    {origin stream stop : TokenStream}
    (consuming : registry.ConsumesOn origin)
    (children : ∀ row ∈ grammar.children,
      Cursor.Moves registry origin (fun _ => 1) (row.2 maxDepth))
    {members : List (Record × List Item)}
    (read : grammar.ReadsMembers registry maxDepth stream members stop)
    (left : stream.IsRestOf origin) :
    (∀ items ∈ members.map Prod.snd, items.length ≤ stream.size) ∧
      (members.map Prod.snd).Pairwise
        fun earlier later => later.length < earlier.length := by
  induction read with
  | nil => exact ⟨nofun, .nil⟩
  | @cons stream begun after _ _ _ _ looked readOne _ inductionHypothesis =>
      have peeks :
          Cursor.Moves registry origin (fun _ => 0) Cursor.peekBoundary :=
        Cursor.Moves.peekBoundary
      have begunLeft := peeks.of_ok looked left
      have begunOfOrigin := begunLeft.trans left
      have reads := read_moves consuming children
      have moved := reads begun begunOfOrigin
      rw [readOne] at moved
      cases moved with
      | ok afterLeft fewer =>
          obtain ⟨smaller, ordered⟩ :=
            inductionHypothesis (afterLeft.trans begunOfOrigin)
          have first : begun.size ≤ stream.size := begunLeft.size_le
          constructor
          · refine List.forall_mem_cons.mpr ⟨first, ?_⟩
            intro items member
            have atMost := smaller items member
            omega
          · refine List.pairwise_cons.mpr ⟨?_, ordered⟩
            intro items member
            exact Nat.lt_of_le_of_lt (smaller items member) fewer

end BodyGrammar

namespace Payload

/-- Fewer items are left where a later record begins. -/
theorem RecordsBegin.shrinks
    {registry : Registry} {maxDepth : Nat} {stream : TokenStream}
    {payload : Payload} {beginnings : List (List Item)}
    (begin : RecordsBegin registry maxDepth stream payload beginnings)
    (consuming : registry.ConsumesOn stream) :
    beginnings.Pairwise fun earlier later => later.length < earlier.length := by
  have composes := Cursor.Moves.compositional registry stream
  have insideLeft {elementName : String} {root opened : StartTag}
      {begun inside : TokenStream}
      (looked : Cursor.peekStartTag stream = .ok (some root) begun)
      (entered : Cursor.enter elementName begun = .ok opened inside) :
      inside.IsRestOf stream := by
    have peeks :
        Cursor.Moves registry stream (fun _ => 0) Cursor.peekStartTag :=
      Cursor.Moves.peekStartTag
    have begunLeft := peeks.of_ok looked (.refl stream)
    exact ((composes.enter elementName).of_ok entered begunLeft).trans begunLeft
  cases begin with
  | request looked read => exact List.pairwise_singleton _ _
  | response looked read => exact List.pairwise_singleton _ _
  | requestCollection looked entered each =>
      exact (each.shrinks consuming (composes.requestChildren maxDepth)
        (insideLeft looked entered)).2
  | responseCollection looked entered each =>
      exact (each.shrinks consuming (composes.responseChildren maxDepth)
        (insideLeft looked entered)).2

/-- The records of a message begin one after another. -/
theorem BeginsAt.ordered
    {payload : Payload} {settings : Settings} {text : String}
    {openings : List Xml.Opening}
    (begins : payload.BeginsAt settings text openings) :
    openings.Pairwise Xml.Opening.IsBefore := by
  have shrinking :=
    begins.begin.shrinks (Registry.standard_consumesOn _)
  rw [List.pairwise_map] at shrinking
  refine shrinking.imp_of_mem ?_
  intro earlier later inEarlier inLater shorter
  by_contra notBefore
  have longer := Xml.Opening.items_length_le (begins.placed earlier inEarlier)
    (begins.placed later inLater) notBefore
  omega

end Payload

end WsTrust
