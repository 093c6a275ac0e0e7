import Mathlib.Tactic.SplitIfs
import WsTrust.Xml.Markup

/-!
# Where markup ends

A piece of markup ends at a mark of its own.  Which characters belong to it does
therefore not depend on what follows them.
-/

namespace WsTrust

namespace Text

/-- A text is divided at the same mark whatever follows the mark. -/
theorem splitAt?_of_splitAt?
    {mark characters before after : List Char}
    (split : splitAt? mark characters = some (before, after))
    (other : List Char) :
    splitAt? mark (before ++ mark ++ other) = some (before, other) := by
  induction characters generalizing before with
  | nil =>
      simp only [splitAt?] at split
      split at split
      · rename_i empty
        cases split
        rw [List.isEmpty_iff.mp empty]
        cases other <;> rfl
      · cases split
  | cons c rest inductionHypothesis =>
      simp only [splitAt?] at split
      split at split
      · cases split
        rw [List.nil_append]
        cases found : mark ++ other with
        | nil =>
            obtain ⟨rfl, rfl⟩ := List.append_eq_nil_iff.mp found
            rfl
        | cons head tail =>
            have starts : mark.isPrefixOf (head :: tail) = true := by
              rw [List.isPrefixOf_iff_prefix, ← found]
              exact List.prefix_append mark other
            rw [splitAt?, if_pos starts, ← found, List.drop_left]
      · rename_i notYet
        obtain ⟨⟨inner, last⟩, found, equality⟩ :=
          Option.map_eq_some_iff.mp split
        obtain ⟨rfl, rfl⟩ := Prod.mk.inj equality
        have whole := append_of_splitAt? found
        have stillNotYet :
            ¬ mark.isPrefixOf (c :: (inner ++ mark ++ other)) = true := by
          rw [List.isPrefixOf_iff_prefix] at notYet ⊢
          intro starts
          have short : mark <+: c :: (inner ++ mark) := by
            refine List.prefix_of_prefix_length_le starts
              (List.prefix_append (c :: (inner ++ mark)) other) ?_
            simp only [List.length_cons, List.length_append]
            omega
          apply notYet
          rw [← whole]
          exact short.trans (List.prefix_append (c :: (inner ++ mark)) last)
        rw [List.cons_append, List.cons_append, splitAt?,
          if_neg stillNotYet, inductionHypothesis found]
        rfl

end Text

namespace Xml

/-! ## Where markup ends -/

/-- A way to find the closing bracket of a piece of markup finds the same one
whatever follows it. -/
def ClosesAlike
    (split : List Char → Option (List Char × List Char))
    (characters : List Char) : Prop :=
  ∀ ⦃content after⦄, split characters = some (content, after) →
    characters = content ++ '>' :: after ∧
      ∀ other, split (content ++ '>' :: other) = some (content, other)

theorem ClosesAlike.cons
    {split later : List Char → Option (List Char × List Char)} {c : Char}
    {rest : List Char}
    (continued : ∀ others, split (c :: others) =
      (later others).map fun (content, after) => (c :: content, after))
    (alike : ClosesAlike later rest) : ClosesAlike split (c :: rest) := by
  intro content after found
  rw [continued] at found
  obtain ⟨⟨inner, last⟩, inside, equality⟩ :=
    Option.map_eq_some_iff.mp found
  obtain ⟨rfl, rfl⟩ := Prod.mk.inj equality
  obtain ⟨whole, elsewhere⟩ := alike inside
  refine ⟨by rw [whole]; rfl, fun other => ?_⟩
  rw [List.cons_append, continued, elsewhere other]
  rfl

theorem ClosesAlike.close
    {split : List Char → Option (List Char × List Char)} {rest : List Char}
    (closed : ∀ others, split ('>' :: others) = some ([], others)) :
    ClosesAlike split ('>' :: rest) := by
  intro content after found
  rw [closed] at found
  cases found
  exact ⟨rfl, closed⟩

theorem splitTag?_closesAlike (characters : List Char) :
    ∀ quote, ClosesAlike (splitTag? quote) characters := by
  induction characters with
  | nil => exact fun quote content after found => by cases found
  | cons c rest inductionHypothesis =>
      intro quote
      cases quote with
      | some mark =>
          exact .cons (fun others => rfl) (inductionHypothesis _)
      | none =>
          by_cases closes : c = '>'
          · subst closes
            exact .close fun others => rfl
          by_cases opens : c = '\x22' ∨ c = '\x27'
          · refine .cons (fun others => ?_) (inductionHypothesis (some c))
            simp only [splitTag?, if_neg closes, if_pos opens]
          · refine .cons (fun others => ?_) (inductionHypothesis none)
            simp only [splitTag?, if_neg closes, if_neg opens]

theorem splitDoctype?_closesAlike (characters : List Char) :
    ∀ depth, ClosesAlike (splitDoctype? depth) characters := by
  induction characters with
  | nil => exact fun depth content after found => by cases found
  | cons c rest inductionHypothesis =>
      intro depth
      by_cases opens : c = '<'
      · refine .cons (fun others => ?_) (inductionHypothesis (depth + 1))
        simp only [splitDoctype?, if_pos opens]
      by_cases closes : c = '>'
      · subst closes
        cases depth with
        | zero => exact .close fun others => rfl
        | succ depth =>
            exact .cons (fun others => rfl) (inductionHypothesis depth)
      · refine .cons (fun others => ?_) (inductionHypothesis depth)
        simp only [splitDoctype?, if_neg opens, if_neg closes]

/-- A reader of markup takes the same characters whatever follows them. -/
def TakesAlike
    (read : List Char → Except MarkupFlaw (Piece × List Char))
    (characters : List Char) : Prop :=
  ∀ ⦃piece after⦄, read characters = .ok (piece, after) →
    ∃ consumed, characters = consumed ++ after ∧
      ∀ other, read (consumed ++ other) = .ok (piece, other)

/-- What is read of a document type once its end is found. -/
theorem readDeclaration_of_doctype
    {characters content after : List Char}
    (doctype : characters.head?.map Char.toLower = some 'd')
    (found : splitDoctype? 0 characters = some (content, after)) :
    readDeclaration characters =
      if (content.take 7).map Char.toUpper ≠ "DOCTYPE".toList then
        .error .unclosedDoctype
      else if (content.drop 7).all isMarkupBlank then
        .ok (.namelessDoctype, after)
      else
        .ok (.skipped, after) := by
  unfold readDeclaration
  split
  case h_1 | h_2 | h_3 | h_4 => cases doctype
  case h_5 => rw [if_pos doctype, found]

theorem readDeclaration_takesAlike_doctype
    {characters : List Char}
    (doctype : characters.head?.map Char.toLower = some 'd') :
    TakesAlike readDeclaration characters := by
  intro piece after read
  cases found : splitDoctype? 0 characters with
  | none =>
      unfold readDeclaration at read
      split at read
      case h_1 | h_2 | h_3 | h_4 => cases doctype
      case h_5 =>
        rw [if_pos doctype, found] at read
        cases read
  | some parts =>
      obtain ⟨content, rest⟩ := parts
      obtain ⟨whole, elsewhere⟩ :=
        splitDoctype?_closesAlike characters 0 found
      rw [readDeclaration_of_doctype doctype found] at read
      split_ifs at read with named nameless
      all_goals
        obtain ⟨rfl, rfl⟩ := Prod.mk.inj (Except.ok.inj read)
        refine ⟨content ++ ['>'], by simp [whole], fun other => ?_⟩
        have begun :
            (content ++ '>' :: other).head?.map Char.toLower = some 'd' := by
          cases content with
          | nil => simp at named
          | cons first more => rwa [whole] at doctype
        rw [List.append_assoc, List.singleton_append,
          readDeclaration_of_doctype begun (elsewhere other), if_neg named]
        simp only [nameless]
        rfl

theorem readDeclaration_takesAlike (characters : List Char) :
    TakesAlike readDeclaration characters := by
  by_cases doctype : characters.head?.map Char.toLower = some 'd'
  · exact readDeclaration_takesAlike_doctype doctype
  intro piece after read
  unfold readDeclaration at read
  split at read
  case h_1 body =>
    split at read
    case h_1 comment rest found =>
      obtain ⟨rfl, rfl⟩ := Prod.mk.inj (Except.ok.inj read)
      refine ⟨'-' :: '-' :: (comment ++ "-->".toList), ?_, fun other => ?_⟩
      · rw [← Text.append_of_splitAt? found]
        rfl
      · rw [List.cons_append, List.cons_append, readDeclaration,
          Text.splitAt?_of_splitAt? found]
    case h_2 => cases read
  case h_2 => cases read
  case h_3 body =>
    split at read
    case h_1 content rest found =>
      obtain ⟨rfl, rfl⟩ := Prod.mk.inj (Except.ok.inj read)
      refine ⟨"[CDATA[".toList ++ (content ++ "]]>".toList), ?_,
        fun other => ?_⟩
      · rw [← Text.append_of_splitAt? found]
        rfl
      · have start :
            "[CDATA[".toList ++ (content ++ "]]>".toList) ++ other =
              '[' :: 'C' :: 'D' :: 'A' :: 'T' :: 'A' :: '[' ::
                (content ++ "]]>".toList ++ other) := rfl
        rw [start, readDeclaration, Text.splitAt?_of_splitAt? found]
    case h_2 => cases read
  case h_4 => cases read
  case h_5 =>
    rw [if_neg doctype] at read
    cases read

theorem readMarkup_of_instruction
    {body content after : List Char}
    (notClosed : body.head? ≠ some '>')
    (found : Text.splitAt? "?>".toList body = some (content, after)) :
    readMarkup ('?' :: body) = .ok (.skipped, after) := by
  rw [readMarkup, found]
  intro rest equality
  rw [equality] at notClosed
  exact notClosed rfl

/-- What is read of a start tag once its end is found. -/
theorem readMarkup_of_startTag
    {body content after : List Char}
    (start : ∀ c ∈ body.head?, c ≠ '!' ∧ c ≠ '?' ∧ c ≠ '/')
    (found : splitTag? none body = some (content, after)) :
    readMarkup body =
      if content.getLast? = some '/' then
        .ok (.startTag content.dropLast true, after)
      else
        .ok (.startTag content false, after) := by
  unfold readMarkup
  split
  case h_1 => simp at start
  case h_2 => simp at start
  case h_3 => simp at start
  case h_4 => simp at start
  case h_5 => rw [found]

theorem readMarkup_takesAlike (characters : List Char) :
    TakesAlike readMarkup characters := by
  intro piece after read
  unfold readMarkup at read
  split at read
  case h_1 body =>
    obtain ⟨consumed, rfl, elsewhere⟩ :=
      readDeclaration_takesAlike body read
    exact ⟨'!' :: consumed, rfl, elsewhere⟩
  case h_2 => cases read
  case h_3 body notClosed =>
    split at read
    case h_1 content rest found =>
      obtain ⟨rfl, rfl⟩ := Prod.mk.inj (Except.ok.inj read)
      have whole := Text.append_of_splitAt? found
      refine ⟨'?' :: (content ++ "?>".toList), ?_, fun other => ?_⟩
      · rw [← whole]
        rfl
      · refine readMarkup_of_instruction ?_
          (Text.splitAt?_of_splitAt? found other)
        cases content with
        | nil => simp
        | cons first more =>
            intro closed
            exact notClosed _ (by rw [← whole]; cases closed; rfl)
    case h_2 => cases read
  case h_4 body =>
    split at read
    case h_1 content rest found =>
      obtain ⟨rfl, rfl⟩ := Prod.mk.inj (Except.ok.inj read)
      obtain ⟨rfl, elsewhere⟩ := splitTag?_closesAlike body none found
      refine ⟨'/' :: (content ++ ['>']), by simp, fun other => ?_⟩
      rw [List.cons_append, List.append_assoc, List.singleton_append,
        readMarkup, elsewhere]
    case h_2 => cases read
  case h_5 notDeclaration notClosed notInstruction notEnd =>
    split at read
    case h_1 content rest found =>
      obtain ⟨rfl, elsewhere⟩ := splitTag?_closesAlike _ none found
      have start (other : List Char) :
          ∀ c ∈ (content ++ '>' :: other).head?,
            c ≠ '!' ∧ c ≠ '?' ∧ c ≠ '/' := by
        cases content with
        | nil => simp
        | cons first more =>
            rintro c ⟨⟩
            refine ⟨?_, ?_, ?_⟩
            · rintro rfl
              exact notDeclaration _ rfl
            · rintro rfl
              exact notInstruction _ rfl
            · rintro rfl
              exact notEnd _ rfl
      refine ⟨content ++ ['>'], ?_, fun other => ?_⟩
      · split_ifs at read <;> cases read <;> simp
      · rw [List.append_assoc, List.singleton_append,
          readMarkup_of_startTag (start other) (elsewhere other)]
        split_ifs at read ⊢ <;> cases read <;> rfl
    case h_2 => cases read

end Xml

end WsTrust
