import WsTrust.Proofs.WrittenItems

/-!
# Items of a document

Runs of text stand between pieces of markup and are never empty, so that
untrimmed each item of a document is reported.
-/

namespace WsTrust.Xml

/-! ## Characters are not empty -/

theorem unescapeFrom_ne_nil
    {total offset : Nat} {c : Char} {rest unescaped : List Char}
    (read : unescapeFrom total offset (c :: rest) = .ok unescaped) :
    unescaped ≠ [] := by
  rintro rfl
  rw [unescapeFrom] at read
  dsimp only at read
  split_ifs at read
  · split at read
    · split at read
      · cases read
      · split at read <;> cases read
    · cases read
  · split at read <;> cases read

theorem readPiece_characters_ne_empty
    {nesting : Nesting} {piece : Piece}
    (written : piece ≠ .text []) :
    Item.characters "" ∉ (readPiece nesting piece).1 := by
  cases piece with
  | skipped | namelessDoctype | characterData => simp [readPiece]
  | text raw =>
      obtain ⟨c, rest, rfl⟩ : ∃ c rest, raw = c :: rest := by
        apply List.exists_cons_of_ne_nil
        rintro rfl
        exact written rfl
      rw [readPiece]
      cases unescaped : unescape (c :: rest) with
      | error flaw => simp
      | ok content =>
          have something := unescapeFrom_ne_nil unescaped
          simpa using something.symm
  | startTag content isEmpty =>
      have tag (opening : OpeningTag) :
          opening.toItem ≠ .characters "" := by
        rw [OpeningTag.toItem]
        split <;> simp
      cases isEmpty <;> simp [readPiece, (tag _).symm]
  | endTag content =>
      simp only [readPiece, readEndTag]
      split
      · simp
      · split_ifs <;> simp

/-! ## Texts between markup -/

def Piece.IsText (piece : Piece) : Prop :=
  ∃ raw, piece = .text raw

/-- Each run of text is something, and markup follows it if anything does. -/
def TextsApart : List Piece → Prop
  | [] => True
  | piece :: rest =>
      piece ≠ .text [] ∧
        (piece.IsText → ∀ next ∈ rest.head?, ¬ next.IsText) ∧
          TextsApart rest

theorem TextsApart.ne_text_nil
    {pieces : List Piece} (apart : TextsApart pieces) :
    ∀ piece ∈ pieces, piece ≠ .text [] := by
  induction pieces with
  | nil => simp
  | cons piece rest inductionHypothesis =>
      rw [List.forall_mem_cons]
      exact ⟨apart.1, inductionHypothesis apart.2.2⟩

theorem not_isText_of_readDeclaration
    {characters after : List Char} {piece : Piece}
    (read : readDeclaration characters = .ok (piece, after)) :
    ¬ piece.IsText := by
  rintro ⟨raw, rfl⟩
  unfold readDeclaration at read
  repeat' split at read
  all_goals simp at read

theorem not_isText_of_readMarkup
    {characters after : List Char} {piece : Piece}
    (read : readMarkup characters = .ok (piece, after)) :
    ¬ piece.IsText := by
  intro text
  unfold readMarkup at read
  split at read
  · exact not_isText_of_readDeclaration read text
  all_goals
    obtain ⟨raw, rfl⟩ := text
    repeat' split at read
    all_goals simp at read

theorem pieces_nil : pieces [] = .done := by
  rw [pieces]

/-- What begins with markup does not begin with a text. -/
theorem head_pieces_markup (rest : List Char) :
    ∀ piece ∈ (pieces ('<' :: rest)).items.head?, ¬ piece.IsText := by
  intro piece first
  rw [pieces, if_pos rfl] at first
  split at first
  · cases first
  · rename_i read
    cases first
    exact not_isText_of_readMarkup read

theorem head_pieces_dropWhile (characters : List Char) :
    ∀ piece ∈ (pieces (characters.dropWhile (· != '<'))).items.head?,
      ¬ piece.IsText := by
  cases found : characters.dropWhile (· != '<') with
  | nil => simp [pieces_nil, Interrupted.done]
  | cons c rest =>
      have bracket : c = '<' := by
        have stopped := List.head?_dropWhile_not (· != '<') characters
        simpa [found] using stopped
      subst bracket
      exact head_pieces_markup rest

/-- Text ends where markup begins, so a document has no two texts in a row. -/
theorem textsApart_pieces (characters : List Char) :
    TextsApart (pieces characters).items := by
  fun_induction pieces characters with
  | case1 => trivial
  | case2 => trivial
  | case3 rest piece after read inductionHypothesis =>
      have markup : ¬ piece.IsText := not_isText_of_readMarkup read
      have something : piece ≠ .text [] := fun text => markup ⟨[], text⟩
      exact ⟨something, fun text => absurd text markup, inductionHypothesis⟩
  | case4 c rest bracket inductionHypothesis =>
      have something :
          Piece.text (c :: rest.takeWhile (· != '<')) ≠ .text [] := by
        simp
      exact ⟨something, fun _ => head_pieces_dropWhile rest,
        inductionHypothesis⟩

theorem characters_empty_not_mem_itemsOfPieces
    {pieces : List Piece} (written : ∀ piece ∈ pieces, piece ≠ .text [])
    (nesting : Nesting) :
    Item.characters "" ∉ itemsOfPieces nesting pieces := by
  induction pieces generalizing nesting with
  | nil => simp [itemsOfPieces]
  | cons piece rest inductionHypothesis =>
      obtain ⟨head, others⟩ := List.forall_mem_cons.mp written
      rw [itemsOfPieces, List.mem_append, not_or]
      exact ⟨readPiece_characters_ne_empty head,
        inductionHypothesis others _⟩

theorem characters_empty_not_mem_documentItems (text : String) :
    Item.characters "" ∉ documentItems text := by
  have apart :=
    textsApart_pieces (Text.dropByteOrderMark text.toList)
  rw [documentItems, List.mem_append, not_or]
  refine ⟨characters_empty_not_mem_itemsOfPieces apart.ne_text_nil _, ?_⟩
  simp

end WsTrust.Xml
