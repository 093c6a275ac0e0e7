import WsTrust.Interrupted
import WsTrust.Text.Ascii
import WsTrust.Text.Split

/-!
# Pieces of a document

The lexical level of XML: a document falls into runs of text and pieces of
markup.  A tag ends at the first `>` that is not inside quotes; comments,
instructions and the document type are recognised only to be skipped.
-/

namespace WsTrust.Xml

open WsTrust.Text

/-- Why the characters after a `<` are no piece of markup. -/
inductive MarkupFlaw where
  | unknownMarkup
  | unclosedInstruction
  | unclosedComment
  | unclosedDoctype
  | unclosedCharacterData
  | unclosedTag
  deriving DecidableEq, Repr

def MarkupFlaw.message : MarkupFlaw → String
  | .unknownMarkup =>
      "syntax error: unknown or missed symbol in markup"
  | .unclosedInstruction =>
      "syntax error: processing instruction or xml declaration not closed: \x60?>\x60 not found before end of input"
  | .unclosedComment =>
      "syntax error: comment not closed: \x60-->\x60 not found before end of input"
  | .unclosedDoctype =>
      "syntax error: DOCTYPE not closed: \x60>\x60 not found before end of input"
  | .unclosedCharacterData =>
      "syntax error: CDATA not closed: \x60]]>\x60 not found before end of input"
  | .unclosedTag =>
      "syntax error: tag not closed: \x60>\x60 not found before end of input"

/-- One lexical unit of a document. -/
inductive Piece where
  /-- Text up to the next markup, its references unread. -/
  | text (raw : List Char)
  /-- The content of a `CDATA` section. -/
  | characterData (content : List Char)
  /-- What stands between the brackets of a start tag, without the closing
  slash of an empty element. -/
  | startTag (content : List Char) (isEmpty : Bool)
  /-- What stands between `</` and `>`. -/
  | endTag (content : List Char)
  /-- A comment, an instruction, a declaration or a document type. -/
  | skipped
  /-- A document type that names none. -/
  | namelessDoctype
  deriving DecidableEq, Repr

/-- The blanks of markup: space, tab, carriage return and line feed. -/
def isMarkupBlank (c : Char) : Bool :=
  c == ' ' || c == '\t' || c == '\r' || c == '\n'

/-! ## Where a piece ends -/

/-- The content of a tag and what follows its closing bracket; `quote` is the
quotation mark that the scan is inside of. -/
def splitTag? (quote : Option Char) :
    List Char → Option (List Char × List Char)
  | [] => none
  | c :: rest =>
      let continued (quote : Option Char) :=
        (splitTag? quote rest).map fun (content, after) =>
          (c :: content, after)
      match quote with
      | some mark => continued (if c = mark then none else some mark)
      | none =>
          if c = '>' then some ([], rest)
          else if c = '\x22' ∨ c = '\x27' then continued (some c)
          else continued none

/-- The content of a document type and what follows it, where `depth` opening
brackets wait to be balanced. -/
def splitDoctype? : Nat → List Char → Option (List Char × List Char)
  | _, [] => none
  | depth, c :: rest =>
      let continued (depth : Nat) :=
        (splitDoctype? depth rest).map fun (content, after) =>
          (c :: content, after)
      if c = '<' then
        continued (depth + 1)
      else if c = '>' then
        match depth with
        | 0 => some ([], rest)
        | depth + 1 => continued depth
      else
        continued depth

theorem length_le_of_splitTag?
    {quote : Option Char} {characters content after : List Char}
    (split : splitTag? quote characters = some (content, after)) :
    after.length ≤ characters.length := by
  induction characters generalizing quote content with
  | nil => simp [splitTag?] at split
  | cons c rest inductionHypothesis =>
      have continued
          {quote : Option Char}
          (found : (splitTag? quote rest).map
            (fun (content, after) => (c :: content, after)) =
              some (content, after)) :
          after.length ≤ (c :: rest).length := by
        simp only [Option.map_eq_some_iff, Prod.mk.injEq] at found
        obtain ⟨⟨inner, last⟩, found, _, rfl⟩ := found
        exact Nat.le_succ_of_le (inductionHypothesis found)
      simp only [splitTag?] at split
      split at split
      · exact continued split
      · split at split
        · simp_all
        · split at split
          · exact continued split
          · exact continued split

theorem length_le_of_splitDoctype?
    {depth : Nat} {characters content after : List Char}
    (split : splitDoctype? depth characters = some (content, after)) :
    after.length ≤ characters.length := by
  induction characters generalizing depth content with
  | nil => simp [splitDoctype?] at split
  | cons c rest inductionHypothesis =>
      have continued
          {depth : Nat}
          (found : (splitDoctype? depth rest).map
            (fun (content, after) => (c :: content, after)) =
              some (content, after)) :
          after.length ≤ (c :: rest).length := by
        simp only [Option.map_eq_some_iff, Prod.mk.injEq] at found
        obtain ⟨⟨inner, last⟩, found, _, rfl⟩ := found
        exact Nat.le_succ_of_le (inductionHypothesis found)
      simp only [splitDoctype?] at split
      split at split
      · exact continued split
      · split at split
        · split at split
          · simp_all
          · exact continued split
        · exact continued split

/-! ## Reading a piece -/

/-- The piece of markup after `<!`, with what follows it. -/
def readDeclaration :
    List Char → Except MarkupFlaw (Piece × List Char)
  | '-' :: '-' :: body =>
      match splitAt? "-->".toList body with
      | some (_, after) => .ok (.skipped, after)
      | none => .error .unclosedComment
  | '-' :: _ => .error .unclosedComment
  | '[' :: 'C' :: 'D' :: 'A' :: 'T' :: 'A' :: '[' :: body =>
      match splitAt? "]]>".toList body with
      | some (content, after) => .ok (.characterData content, after)
      | none => .error .unclosedCharacterData
  | '[' :: _ => .error .unclosedCharacterData
  | characters =>
      if (characters.head?.map Char.toLower) = some 'd' then
        match splitDoctype? 0 characters with
        | none => .error .unclosedDoctype
        | some (content, after) =>
            if (content.take 7).map Char.toUpper ≠ "DOCTYPE".toList then
              .error .unclosedDoctype
            else if (content.drop 7).all isMarkupBlank then
              .ok (.namelessDoctype, after)
            else
              .ok (.skipped, after)
      else
        .error .unknownMarkup

/-- The piece of markup after `<`, with what follows it. -/
def readMarkup : List Char → Except MarkupFlaw (Piece × List Char)
  | '!' :: body => readDeclaration body
  | '?' :: '>' :: _ => .error .unclosedInstruction
  | '?' :: body =>
      match splitAt? "?>".toList body with
      | some (_, after) => .ok (.skipped, after)
      | none => .error .unclosedInstruction
  | '/' :: body =>
      match splitTag? none body with
      | some (content, after) => .ok (.endTag content, after)
      | none => .error .unclosedTag
  | body =>
      match splitTag? none body with
      | some (content, after) =>
          if content.getLast? = some '/' then
            .ok (.startTag content.dropLast true, after)
          else
            .ok (.startTag content false, after)
      | none => .error .unclosedTag

theorem length_le_of_readDeclaration
    {characters after : List Char} {piece : Piece}
    (read : readDeclaration characters = .ok (piece, after)) :
    after.length ≤ characters.length := by
  unfold readDeclaration at read
  split at read
  · split at read
    · rename_i found
      have := length_le_of_splitAt? found
      simp_all
      omega
    · simp at read
  · simp at read
  · split at read
    · rename_i found
      have := length_le_of_splitAt? found
      simp_all
      omega
    · simp at read
  · simp at read
  · split at read
    · split at read
      · simp at read
      · rename_i found
        have := length_le_of_splitDoctype? found
        split at read
        · simp at read
        · split at read <;> simp_all
    · simp at read

theorem length_le_of_readMarkup
    {characters after : List Char} {piece : Piece}
    (read : readMarkup characters = .ok (piece, after)) :
    after.length ≤ characters.length := by
  unfold readMarkup at read
  split at read
  · exact Nat.le_succ_of_le (length_le_of_readDeclaration read)
  · simp at read
  · split at read
    · rename_i found
      have := length_le_of_splitAt? found
      simp_all
      omega
    · simp at read
  · split at read
    · rename_i found
      have := length_le_of_splitTag? found
      simp_all
      omega
    · simp at read
  · split at read
    · rename_i found
      have := length_le_of_splitTag? found
      split at read <;> simp_all
    · simp at read

/-- The pieces of a document, up to its end or the first flaw. -/
def pieces (characters : List Char) : Interrupted Piece MarkupFlaw :=
  match characters with
  | [] => .done
  | c :: rest =>
      if c = '<' then
        match _ : readMarkup rest with
        | .error flaw => .failed flaw
        | .ok (piece, after) => (pieces after).cons piece
      else
        (pieces (rest.dropWhile (· != '<'))).cons
          (.text (c :: rest.takeWhile (· != '<')))
termination_by characters.length
decreasing_by
  · rename_i read
    have := length_le_of_readMarkup read
    simp only [List.length_cons]
    omega
  · have := (List.dropWhile_suffix (· != '<') (l := rest)).length_le
    simp only [List.length_cons]
    omega

end WsTrust.Xml
