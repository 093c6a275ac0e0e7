/-!
# Splitting a text at a mark

The first occurrence of a mark divides a text into what stands before it and
what stands after it.
-/

namespace WsTrust.Text

/-- The characters before and after the first occurrence of `mark`. -/
def splitAt? (mark : List Char) :
    List Char → Option (List Char × List Char)
  | [] => if mark.isEmpty then some ([], []) else none
  | c :: rest =>
      if mark.isPrefixOf (c :: rest) then
        some ([], (c :: rest).drop mark.length)
      else
        (splitAt? mark rest).map fun (before, after) => (c :: before, after)

/-- Nothing but the mark is lost by splitting. -/
theorem append_of_splitAt?
    {mark characters before after : List Char}
    (split : splitAt? mark characters = some (before, after)) :
    before ++ mark ++ after = characters := by
  induction characters generalizing before with
  | nil =>
      simp only [splitAt?] at split
      split at split
      · simp_all
      · simp at split
  | cons c rest inductionHypothesis =>
      simp only [splitAt?] at split
      split at split
      · rename_i starts
        rw [List.isPrefixOf_iff_prefix] at starts
        obtain ⟨tail, equality⟩ := starts
        simp only [Option.some.injEq, Prod.mk.injEq] at split
        obtain ⟨rfl, rfl⟩ := split
        simp [← equality]
      · simp only [Option.map_eq_some_iff, Prod.mk.injEq] at split
        obtain ⟨⟨inner, last⟩, found, rfl, rfl⟩ := split
        simp [← inductionHypothesis found]

/-- What stands after the mark is no longer than the whole text. -/
theorem length_le_of_splitAt?
    {mark characters before after : List Char}
    (split : splitAt? mark characters = some (before, after)) :
    after.length ≤ characters.length := by
  rw [← append_of_splitAt? split]
  simp only [List.length_append]
  omega

end WsTrust.Text
