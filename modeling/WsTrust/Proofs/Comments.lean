import WsTrust.Proofs.DividedTexts
import WsTrust.Proofs.DocumentItems
import WsTrust.Proofs.MarkupEnds

/-!
# Comments in documents

A comment that is put into a document, between two pieces of it or into a run of
text, leaves all other pieces as they are.  Where it stands in a run of text it
divides the run in two, which are read as the two parts of what the whole run is
read as.
-/

namespace WsTrust.Xml

/-! ## References in a divided text -/

/-- What characters stand for, one after another. -/
inductive Unescapes : List Char → List Char → Prop
  | nil : Unescapes [] []
  | reference {body rest unescaped : List Char} {c : Char}
      (inside : ∀ letter ∈ body, endsReference letter = false)
      (stands : ∀ offset, referenceCharacter offset body = .ok c)
      (others : Unescapes rest unescaped) :
      Unescapes ('&' :: (body ++ ';' :: rest)) (c :: unescaped)
  | plain {c : Char} {rest unescaped : List Char} (ordinary : c ≠ '&')
      (others : Unescapes rest unescaped) :
      Unescapes (c :: rest) (c :: unescaped)

theorem referenceCharacter_elsewhere
    {first : Nat} {body : List Char} {c : Char}
    (stands : referenceCharacter first body = .ok c) (offset : Nat) :
    referenceCharacter offset body = .ok c := by
  unfold referenceCharacter at stands ⊢
  split at stands
  · exact stands
  · split at stands
    · exact stands
    · cases stands

theorem unescapeFrom_eq_ok_iff
    {total offset : Nat} {characters unescaped : List Char} :
    unescapeFrom total offset characters = .ok unescaped ↔
      Unescapes characters unescaped := by
  constructor
  · intro read
    fun_induction unescapeFrom total offset characters
      generalizing unescaped with
    | case1 =>
        cases read
        exact .nil
    | case2 | case4 | case5 | case7 => cases read
    | case3 offset rest body afterwards found character stands next
        unescaped others =>
        rename_i inductionHypothesis
        cases read
        have divided : rest = body ++ ';' :: afterwards := by
          rw [← found]
          exact List.takeWhile_append_dropWhile.symm
        rw [divided]
        refine .reference (fun letter member => ?_)
          (referenceCharacter_elsewhere stands) (inductionHypothesis others)
        simpa using List.mem_takeWhile_imp member
    | case6 offset c rest ordinary unescaped others inductionHypothesis =>
        cases read
        exact .plain ordinary (inductionHypothesis others)
  · intro unescapes
    induction unescapes generalizing offset with
    | nil => rw [unescapeFrom]
    | reference inside stands others inductionHypothesis =>
        rw [unescapeFrom_reference inside stands, inductionHypothesis]
    | plain ordinary others inductionHypothesis =>
        rw [unescapeFrom, if_neg ordinary, inductionHypothesis]

theorem unescape_eq_ok_iff {characters unescaped : List Char} :
    unescape characters = .ok unescaped ↔ Unescapes characters unescaped :=
  unescapeFrom_eq_ok_iff

/-- A reference begins in the text before and ends in the text after. -/
def SplitsReference (before after : List Char) : Prop :=
  ∃ earlier body rest later,
    before = earlier ++ '&' :: body ∧ after = rest ++ ';' :: later ∧
      ∀ c ∈ body ++ rest, endsReference c = false

theorem SplitsReference.append
    {before after : List Char} (splits : SplitsReference before after)
    (front : List Char) : SplitsReference (front ++ before) after := by
  obtain ⟨earlier, body, rest, later, rfl, ends, inside⟩ := splits
  exact ⟨front ++ earlier, body, rest, later, by simp, ends, inside⟩

/-- No reference is left open at the end of a text that can be read. -/
theorem Unescapes.not_splitsReference
    {before unescaped : List Char} (read : Unescapes before unescaped)
    (after : List Char) : ¬ SplitsReference before after := by
  rintro ⟨earlier, body, rest, later, divided, _, inside⟩
  have reference : '&' :: body <:+ before := ⟨earlier, divided.symm⟩
  have noSemicolon : ';' ∉ '&' :: body := by
    intro member
    rcases List.mem_cons.mp member with different | inBody
    · cases different
    · have continues := inside ';' (List.mem_append_left rest inBody)
      cases continues
  clear divided
  induction read with
  | nil => cases List.suffix_nil.mp reference
  | @reference name others unescaped c letters stands _
      inductionHypothesis =>
      have closed : ';' :: others <:+ '&' :: (name ++ ';' :: others) :=
        List.suffix_append ('&' :: name) (';' :: others)
      rcases List.suffix_or_suffix_of_suffix reference closed with
        behind | around
      · rcases List.suffix_cons_iff.mp behind with same | later
        · cases same
        · exact inductionHypothesis later
      · exact noSemicolon (around.subset List.mem_cons_self)
  | @plain c others unescaped ordinary _ inductionHypothesis =>
      rcases List.suffix_cons_iff.mp reference with same | later
      · obtain ⟨rfl, _⟩ := List.cons.inj same
        exact ordinary rfl
      · exact inductionHypothesis later

/-- Two texts stand for what they stand for together, unless a reference goes
from one to the other. -/
theorem Unescapes.divide
    {first second unescaped : List Char}
    (read : Unescapes (first ++ second) unescaped)
    (outside : ¬ SplitsReference first second) :
    ∃ left right, Unescapes first left ∧ Unescapes second right ∧
      unescaped = left ++ right := by
  generalize whole : first ++ second = characters at read
  induction read generalizing first with
  | nil =>
      obtain ⟨rfl, rfl⟩ := List.append_eq_nil_iff.mp whole
      exact ⟨[], [], .nil, .nil, rfl⟩
  | @reference body rest unescaped c inside stands others
      inductionHypothesis =>
      cases first with
      | nil =>
          rw [List.nil_append] at whole
          subst whole
          exact ⟨[], _, .nil, .reference inside stands others, rfl⟩
      | cons head first =>
          obtain ⟨rfl, divided⟩ := List.cons.inj whole
          rcases List.append_eq_append_iff.mp divided with
            ⟨behind, equality, rfl⟩ | ⟨behind, rfl, equality⟩
          · exact absurd ⟨[], first, behind, rest, rfl, rfl,
              equality ▸ inside⟩ outside
          · cases behind with
            | nil =>
                rw [List.nil_append] at equality
                refine absurd ⟨[], body, [], rest, ?_, equality.symm, ?_⟩
                  outside
                · simp
                · simpa using inside
            | cons semicolon behind =>
                obtain ⟨rfl, rfl⟩ := List.cons.inj equality
                have notSplit : ¬ SplitsReference behind second := by
                  intro splits
                  have longer := splits.append ('&' :: (body ++ [';']))
                  exact outside (by simpa using longer)
                obtain ⟨left, right, firstRead, secondRead, rfl⟩ :=
                  inductionHypothesis notSplit rfl
                exact ⟨c :: left, right, .reference inside stands firstRead,
                  secondRead, rfl⟩
  | @plain c rest unescaped ordinary others inductionHypothesis =>
      cases first with
      | nil =>
          rw [List.nil_append] at whole
          subst whole
          exact ⟨[], _, .nil, .plain ordinary others, rfl⟩
      | cons head first =>
          obtain ⟨rfl, rfl⟩ := List.cons.inj whole
          have notSplit : ¬ SplitsReference first second :=
            fun splits => outside (splits.append [head])
          obtain ⟨left, right, firstRead, secondRead, rfl⟩ :=
            inductionHypothesis notSplit rfl
          exact ⟨head :: left, right, .plain ordinary firstRead, secondRead,
            rfl⟩

/-! ## Comments -/

def comment (content : List Char) : List Char :=
  "<!--".toList ++ content ++ "-->".toList

/-- The content of a comment has no two hyphens in a row, and none at its
end. -/
def IsCommentContent (content : List Char) : Prop :=
  ¬ "--".toList <:+: content ∧ content.getLast? ≠ some '-'

instance (content : List Char) : Decidable (IsCommentContent content) :=
  inferInstanceAs (Decidable (_ ∧ _))

theorem IsCommentContent.of_cons
    {c : Char} {rest : List Char} (ordinary : IsCommentContent (c :: rest)) :
    IsCommentContent rest := by
  refine ⟨fun inside => ordinary.1 (List.infix_cons inside), fun last => ?_⟩
  have whole : (c :: rest).getLast? = some '-' := by
    rw [List.getLast?_cons, last]
    rfl
  exact ordinary.2 whole

theorem splitAt?_comment
    {content : List Char} (ordinary : IsCommentContent content)
    (rest : List Char) :
    Text.splitAt? "-->".toList (content ++ "-->".toList ++ rest) =
      some (content, rest) := by
  induction content with
  | nil => rfl
  | cons c more inductionHypothesis =>
      have notYet :
          ¬ "-->".toList.isPrefixOf
            (c :: (more ++ "-->".toList ++ rest)) = true := by
        intro ends
        obtain ⟨rfl, second⟩ :=
          List.cons_prefix_cons.mp (List.isPrefixOf_iff_prefix.mp ends)
        cases more with
        | nil => exact ordinary.2 rfl
        | cons next others =>
            obtain ⟨rfl, _⟩ := List.cons_prefix_cons.mp second
            exact ordinary.1 ⟨[], others, rfl⟩
      rw [List.cons_append, List.cons_append, Text.splitAt?, if_neg notYet,
        inductionHypothesis ordinary.of_cons]
      rfl

theorem itemsFrom_comment
    {content : List Char} (ordinary : IsCommentContent content)
    (nesting : Nesting) (rest : List Char) :
    itemsFrom nesting (comment content ++ rest) =
      itemsFrom nesting rest := by
  have read :
      readMarkup ('!' :: '-' :: '-' :: (content ++ "-->".toList ++ rest)) =
        .ok (.skipped, rest) := by
    rw [readMarkup, readDeclaration, splitAt?_comment ordinary]
  have begins :
      comment content ++ rest =
        '<' :: '!' :: '-' :: '-' :: (content ++ "-->".toList ++ rest) := rfl
  rw [begins, itemsFrom_markup read]
  rfl

/-! ## Runs of text -/

/-- Markup comes first, or nothing at all. -/
def AtPieceEnd (characters : List Char) : Prop :=
  ∀ c ∈ characters.head?, c = '<'

theorem itemsFrom_text
    {run rest : List Char} (something : run ≠ []) (text : '<' ∉ run)
    (ends : AtPieceEnd rest) (nesting : Nesting) :
    itemsFrom nesting (run ++ rest) =
      (readPiece nesting (.text run)).1 ++ itemsFrom nesting rest := by
  have inside : ∀ c ∈ run, (c != '<') = true := by
    intro c member
    rw [bne_iff_ne]
    rintro rfl
    exact text member
  have taken : (run ++ rest).takeWhile (· != '<') = run := by
    cases rest with
    | nil => simpa using inside
    | cons c more =>
        obtain rfl := ends c rfl
        exact Text.takeWhile_append_stop inside rfl more
  have left : (run ++ rest).dropWhile (· != '<') = rest := by
    cases rest with
    | nil => simpa using inside
    | cons c more =>
        obtain rfl := ends c rfl
        exact Text.dropWhile_append_stop inside rfl more
  obtain ⟨first, others, rfl⟩ := List.exists_cons_of_ne_nil something
  have begins : (first != '<') = true := inside first List.mem_cons_self
  have divided :
      pieces (first :: others ++ rest) =
        (pieces rest).cons (.text (first :: others)) := by
    rw [List.cons_append] at taken left ⊢
    rw [List.takeWhile_cons_of_pos (p := (· != '<')) begins] at taken
    rw [List.dropWhile_cons_of_pos (p := (· != '<')) begins] at left
    rw [pieces, if_neg (bne_iff_ne.mp begins), taken, left]
  have same : (readPiece nesting (.text (first :: others))).2 = nesting := by
    rw [readPiece]
    split <;> rfl
  rw [itemsFrom_of_pieces_cons divided, same]

/-! ## Places in a document -/

def textAhead (characters : List Char) : List Char :=
  characters.takeWhile (· != '<')

/-- There is a place for a comment between the characters before and after: a
place between two pieces, or inside a run of text but not inside a reference.
The run is what of the text stands before the place. -/
inductive IsPlace : List Char → List Char → List Char → Prop
  | here {run after : List Char} (text : '<' ∉ run)
      (outside : ¬ SplitsReference run (textAhead after)) :
      IsPlace run run after
  | text {passed before run after : List Char} (text : '<' ∉ passed)
      (ends : AtPieceEnd (before ++ after))
      (later : IsPlace before run after) :
      IsPlace (passed ++ before) run after
  | markup {taken before run after : List Char} {piece : Piece}
      (read : readMarkup (taken ++ (before ++ after)) =
        .ok (piece, before ++ after))
      (later : IsPlace before run after) :
      IsPlace ('<' :: (taken ++ before)) run after

/-- What the parts of a run of text before and after a place are read as. -/
def AreHalves (run after : List Char) (first second : String) : Prop :=
  unescape run = .ok first.toList ∧
    unescape (textAhead after) = .ok second.toList

theorem AtPieceEnd.comment_append
    {before after : List Char} (ends : AtPieceEnd (before ++ after))
    (content : List Char) :
    AtPieceEnd (before ++ (comment content ++ after)) := by
  cases before with
  | nil =>
      rintro c ⟨⟩
      rfl
  | cons c rest => exact ends

theorem unescape_ne_nil
    {characters unescaped : List Char} (something : characters ≠ [])
    (read : unescape characters = .ok unescaped) : unescaped ≠ [] := by
  obtain ⟨c, rest, rfl⟩ := List.exists_cons_of_ne_nil something
  exact unescapeFrom_ne_nil read

/-- A comment inside a run of text divides what the run is read as. -/
theorem divided_itemsFrom_run
    {run after content : List Char} (text : '<' ∉ run)
    (outside : ¬ SplitsReference run (textAhead after))
    (ordinary : IsCommentContent content) (nesting : Nesting) :
    Item.Divided (AreHalves run after) (itemsFrom nesting (run ++ after))
      (itemsFrom nesting (run ++ (comment content ++ after))) := by
  have beforeComment : AtPieceEnd (comment content ++ after) := by
    rintro c ⟨⟩
    rfl
  by_cases atStart : run = []
  · subst atStart
    rw [List.nil_append, List.nil_append, itemsFrom_comment ordinary]
    exact .same _
  rw [itemsFrom_text atStart text beforeComment, itemsFrom_comment ordinary]
  obtain ⟨behind, divided, ends⟩ :
      ∃ behind, after = textAhead after ++ behind ∧ AtPieceEnd behind := by
    refine ⟨after.dropWhile (· != '<'),
      List.takeWhile_append_dropWhile.symm, fun c first => ?_⟩
    have stopped := List.head?_dropWhile_not (· != '<') after
    rw [Option.mem_def.mp first] at stopped
    simpa using stopped
  have textBehind : '<' ∉ textAhead after := by
    intro member
    simpa using List.mem_takeWhile_imp member
  by_cases atEnd : textAhead after = []
  · rw [divided, atEnd, List.nil_append, itemsFrom_text atStart text ends]
    exact .same _
  have whole : run ++ after = (run ++ textAhead after) ++ behind := by
    rw [List.append_assoc, ← divided]
  have textWhole : '<' ∉ run ++ textAhead after := by
    simp [text, textBehind]
  rw [whole, itemsFrom_text (by simp [atStart]) textWhole ends]
  have behindComment : itemsFrom nesting after =
      (readPiece nesting (.text (textAhead after))).1 ++
        itemsFrom nesting behind := by
    conv_lhs => rw [divided]
    exact itemsFrom_text atEnd textBehind ends nesting
  rw [behindComment]
  simp only [readPiece]
  cases read : unescape (run ++ textAhead after) with
  | error flaw => exact .behindFault _ _ _
  | ok unescaped =>
      obtain ⟨left, right, leftRead, rightRead, rfl⟩ :=
        (unescape_eq_ok_iff.mp read).divide outside
      have leftRead := unescape_eq_ok_iff.mpr leftRead
      have rightRead := unescape_eq_ok_iff.mpr rightRead
      have present {characters : List Char} (something : characters ≠ []) :
          String.ofList characters ≠ "" := by
        simpa using something
      rw [leftRead, rightRead]
      dsimp only
      rw [String.ofList_append]
      refine .here ⟨?_, ?_⟩ (present (unescape_ne_nil atStart leftRead))
        (present (unescape_ne_nil atEnd rightRead)) _
      · rw [leftRead, String.toList_ofList]
      · rw [rightRead, String.toList_ofList]

/-- Wherever a comment is put, the items of the document stay the same, but for
the run of characters that it divides. -/
theorem IsPlace.divided_itemsFrom
    {before run after content : List Char} (place : IsPlace before run after)
    (ordinary : IsCommentContent content) (nesting : Nesting) :
    Item.Divided (AreHalves run after) (itemsFrom nesting (before ++ after))
      (itemsFrom nesting (before ++ (comment content ++ after))) := by
  induction place generalizing nesting with
  | here text outside =>
      exact divided_itemsFrom_run text outside ordinary nesting
  | @text passed before run after text ends later inductionHypothesis =>
      rw [List.append_assoc, List.append_assoc]
      by_cases nothing : passed = []
      · subst nothing
        exact inductionHypothesis nesting
      · rw [itemsFrom_text nothing text ends,
          itemsFrom_text nothing text (ends.comment_append content)]
        exact (inductionHypothesis nesting).append_left _
  | @markup taken before run after piece read later inductionHypothesis =>
      obtain ⟨consumed, whole, elsewhere⟩ := readMarkup_takesAlike _ read
      obtain rfl := List.append_cancel_right whole
      rw [List.cons_append, List.cons_append, List.append_assoc,
        List.append_assoc, itemsFrom_markup read,
        itemsFrom_markup (elsewhere _)]
      exact (inductionHypothesis _).append_left _

/-! ## Documents -/

/-- The items of a document are the items of its characters outside all
elements, after a byte order mark. -/
theorem documentItems_eq_itemsFrom (characters : List Char) :
    documentItems (String.ofList characters) =
      itemsFrom .outermost (Text.dropByteOrderMark characters) := by
  rw [documentItems, String.toList_ofList, itemsFrom]

/-- A place for a comment in a document.  It is not in front of a byte order
mark, which is no part of the text. -/
structure Place where
  before : List Char
  run : List Char
  after : List Char
  behindMark :
    Text.dropByteOrderMark (before ++ after) =
      Text.dropByteOrderMark before ++ after
  isPlace : IsPlace (Text.dropByteOrderMark before) run after

namespace Place

variable (place : Place)

def document : String :=
  String.ofList (place.before ++ place.after)

def commented (content : List Char) : String :=
  String.ofList (place.before ++ (comment content ++ place.after))

/-- What the parts of the run of text around the place are read as. -/
def Divides (first second : String) : Prop :=
  AreHalves place.run place.after first second

theorem dropByteOrderMark_commented (content : List Char) :
    Text.dropByteOrderMark
        (place.before ++ (comment content ++ place.after)) =
      Text.dropByteOrderMark place.before ++
        (comment content ++ place.after) := by
  cases place.before with
  | nil => rfl
  | cons c rest =>
      by_cases mark : c = '\ufeff'
      · subst mark
        rfl
      · simp [Text.dropByteOrderMark, mark]

theorem divided_documentItems
    {content : List Char} (ordinary : IsCommentContent content) :
    Item.Divided place.Divides (documentItems place.document)
      (documentItems (place.commented content)) := by
  rw [document, commented, documentItems_eq_itemsFrom,
    documentItems_eq_itemsFrom, place.behindMark,
    place.dropByteOrderMark_commented]
  exact place.isPlace.divided_itemsFrom ordinary .outermost

end Place

end WsTrust.Xml
