import WsTrust.Proofs.Comments
import WsTrust.Proofs.DividedReaders

/-!
# Messages in documents with comments

A message is still read when a comment is put into its document.  Nothing of it
changes but blanks that meet where the comment divides a text, which are lost
because either part of the text is trimmed for itself.
-/

namespace WsTrust

open Xml

/-! ## Places that keep a message -/

namespace Xml.Place

variable (place : Place)

/-- Whatever comment is put in the place, a message that is read from the
document is also read from the one with the comment.  Its texts are compared by
the relation, its fragments as they are written, and nothing else differs. -/
def KeepsMessage
    (registry : Registry) (maxDepth : Nat)
    (value : String → String → Prop) : Prop :=
  ∀ content payload, IsCommentContent content →
    Payload.readXml registry ⟨true, maxDepth⟩ place.document = .ok payload →
      ∃ other,
        Payload.readXml registry ⟨true, maxDepth⟩ (place.commented content) =
            .ok other ∧
          payload.Matches (.asWritten value) other

/-- Blanks meet that the comment in the place stands between. -/
def BlanksMeet : Prop :=
  ∃ first second, place.Divides first second ∧ Text.BlanksMeet first second

theorem divides_unique
    {first second other another : String}
    (divides : place.Divides first second)
    (alsoDivides : place.Divides other another) :
    first = other ∧ second = another := by
  obtain ⟨firstRead, secondRead⟩ := divides
  rw [alsoDivides.1] at firstRead
  rw [alsoDivides.2] at secondRead
  exact ⟨String.toList_inj.mp (Except.ok.inj firstRead).symm,
    String.toList_inj.mp (Except.ok.inj secondRead).symm⟩

theorem keepsMessage
    {registry : Registry} (plain : registry.IsPlain) (maxDepth : Nat)
    {allowed value : String → String → Prop}
    (loss : Text.IsLoss allowed value)
    (allows : ∀ first second, place.Divides first second →
      allowed first second) :
    place.KeepsMessage registry maxDepth value := by
  intro content payload ordinary accepted
  have divided :
      (TokenStream.ofXml true place.document).Divided allowed
        (.ofXml true (place.commented content)) :=
    ⟨rfl, rfl, rfl, rfl, (place.divided_documentItems ordinary).mono allows⟩
  rw [Payload.readXml] at accepted
  cases read : Payload.read registry maxDepth (.ofXml true place.document) with
  | error failure rest =>
      rw [read] at accepted
      cases accepted
  | ok found rest =>
      rw [read] at accepted
      cases accepted
      obtain ⟨other, remaining, otherRead, matched, _, _⟩ :=
        Payload.read_withstands plain loss maxDepth divided read
      refine ⟨other, ?_, matched⟩
      rw [Payload.readXml, otherRead]

end Xml.Place

/-! ## Text inside plain elements -/

namespace Xml

def openingTags (names : List String) : List Char :=
  names.flatMap fun name => '<' :: (name.toList ++ ['>'])

def closingTags (names : List String) : List Char :=
  names.reverse.flatMap fun name => '<' :: '/' :: (name.toList ++ ['>'])

def nestingInside (nesting : Nesting) (names : List String) : Nesting :=
  names.foldl (fun outer name => outer.enter name.toList .outermost) nesting

theorem toList_written_ofLocal (name : String) :
    (QName.ofLocal name).written.toList = name.toList :=
  QName.toList_written_of_unprefixed rfl

section Tags

variable {name : String} (named : (QName.ofLocal name).IsXmlName)

include named

theorem elementName_local :
    Scope.outermost.elementName name.toList = .ofLocal name := by
  have resolved := Scope.outermost_realizes.elementName_written named
  rw [toList_written_ofLocal] at resolved
  exact resolved

theorem readMarkup_opening (rest : List Char) :
    readMarkup (name.toList ++ '>' :: rest) =
      .ok (.startTag name.toList false, rest) := by
  have tagNamed : (StartTag.mk (.ofLocal name) []).HasXmlNames :=
    ⟨named, by simp⟩
  have read := tagNamed.readMarkup_written rest
  rwa [StartTag.written, List.flatMap_nil, List.append_nil,
    toList_written_ofLocal] at read

theorem readPiece_opening
    {nesting : Nesting} (innermost : nesting.scope = .outermost) :
    readPiece nesting (.startTag name.toList false) =
      ([.token (.startTag ⟨.ofLocal name, []⟩)],
        nesting.enter name.toList .outermost) := by
  have tagNamed : (StartTag.mk (.ofLocal name) []).HasXmlNames :=
    ⟨named, by simp⟩
  have divided := tagNamed.takeWhile_written
  rw [StartTag.written, List.flatMap_nil, List.append_nil,
    toList_written_ofLocal] at divided
  have opened : readStartTag .outermost name.toList =
      ⟨name.toList, .outermost, .ok ⟨.ofLocal name, []⟩⟩ := by
    have noAttributes :
        rawAttributes (byteLength name.toList) [] = ⟨[], none⟩ := by
      rw [rawAttributes]
      rfl
    rw [readStartTag, divided.1, divided.2, ← elementName_local named,
      noAttributes]
    rfl
  simp only [readPiece, innermost, opened]
  rfl

theorem itemsFrom_closing (nesting : Nesting) (rest : List Char) :
    itemsFrom (nesting.enter name.toList .outermost)
        ('<' :: '/' :: (name.toList ++ '>' :: rest)) =
      .token (.endTag (.ofLocal name)) :: itemsFrom nesting rest := by
  have read := named.readMarkup_endTag rest
  have found := named.endTagName_written
  rw [toList_written_ofLocal] at read found
  have closed :
      readPiece (nesting.enter name.toList .outermost)
          (.endTag name.toList) =
        ([.token (.endTag (.ofLocal name))], nesting) := by
    rw [← elementName_local named]
    simp only [readPiece, readEndTag, Nesting.enter, found, if_true]
    rfl
  rw [itemsFrom_markup read, closed]
  rfl

end Tags

section Paths

variable {names : List String}
  (named : ∀ name ∈ names, (QName.ofLocal name).IsXmlName)

include named

theorem itemsFrom_openingTags
    {nesting : Nesting} (innermost : nesting.scope = .outermost)
    (rest : List Char) :
    itemsFrom nesting (openingTags names ++ rest) =
      names.map (fun name => .token (.startTag ⟨.ofLocal name, []⟩)) ++
        itemsFrom (nestingInside nesting names) rest := by
  induction names generalizing nesting with
  | nil => rfl
  | cons name names inductionHypothesis =>
      obtain ⟨first, others⟩ := List.forall_mem_cons.mp named
      have begins :
          openingTags (name :: names) ++ rest =
            '<' :: (name.toList ++ '>' :: (openingTags names ++ rest)) := by
        simp [openingTags]
      rw [begins, itemsFrom_markup (readMarkup_opening first _),
        readPiece_opening first innermost, inductionHypothesis others rfl]
      rfl

theorem itemsFrom_closingTags (nesting : Nesting) (rest : List Char) :
    itemsFrom (nestingInside nesting names) (closingTags names ++ rest) =
      names.reverse.map (fun name => .token (.endTag (.ofLocal name))) ++
        itemsFrom nesting rest := by
  induction names generalizing nesting rest with
  | nil => rfl
  | cons name names inductionHypothesis =>
      obtain ⟨first, others⟩ := List.forall_mem_cons.mp named
      have ends :
          closingTags (name :: names) ++ rest =
            closingTags names ++
              '<' :: '/' :: (name.toList ++ '>' :: rest) := by
        simp [closingTags]
      rw [ends, nestingInside, List.foldl_cons, ← nestingInside,
        inductionHypothesis others, itemsFrom_closing first]
      simp

theorem IsPlace.inside
    {before run after : List Char} (place : IsPlace before run after) :
    IsPlace (openingTags names ++ before) run after := by
  induction names with
  | nil => exact place
  | cons name names inductionHypothesis =>
      obtain ⟨first, others⟩ := List.forall_mem_cons.mp named
      have begins :
          openingTags (name :: names) ++ before =
            '<' :: ((name.toList ++ ['>']) ++
              (openingTags names ++ before)) := by
        simp [openingTags]
      have read :
          readMarkup (name.toList ++ ['>'] ++
              (openingTags names ++ before ++ after)) =
            .ok (.startTag name.toList false,
              openingTags names ++ before ++ after) := by
        rw [List.append_assoc]
        exact readMarkup_opening first _
      rw [begins]
      exact .markup read (inductionHypothesis others)

end Paths

end Xml

/-! ## A status whose code is divided -/

def TokenStream.ofItems (items : List Item) : TokenStream :=
  { items, trimText := true }

namespace Cursor

theorem elementText_of_characters
    (within : String) (texts : List String) (name : QName)
    (others : List Item) :
    elementText within
        (.ofItems
          (texts.map Item.characters ++ .token (.endTag name) :: others)) =
      .ok (Text.trim (String.join (texts.map Text.trim)))
        (.ofItems others) := by
  have scanned
      (stream : TokenStream) (trims : stream.trimming = true)
      (texts : List String) (earlier : String) :
      scan.scanItems within (joinText within) stream
          (texts.map Item.characters ++ .token (.endTag name) :: others)
          earlier =
        .ok (Text.trim (earlier ++ String.join (texts.map Text.trim)))
          { stream with items := others } := by
    induction texts generalizing earlier with
    | nil =>
        rw [List.map_nil, List.map_nil, String.join_nil, String.append_empty]
        rfl
    | cons first rest inductionHypothesis =>
        rw [List.map_cons, List.cons_append,
          scanItems_characters (fun content text => text ++ content)
            (fun _ _ => rfl),
          trims, absorb_append, inductionHypothesis, List.map_cons,
          String.join_cons, String.append_assoc]
  rw [elementText_eq_scan, scan]
  have read := scanned
    (.ofItems (texts.map Item.characters ++ .token (.endTag name) :: others))
    rfl texts ""
  rw [String.empty_append] at read
  exact read

theorem requiredText_of_characters
    (within what : String) {first : String} (present : Text.trim first ≠ "")
    (texts : List String) (name : QName) (others : List Item) :
    requiredText within what
        (.ofItems
          ((first :: texts).map Item.characters ++
            .token (.endTag name) :: others)) =
      .ok (Text.trim (String.join ((first :: texts).map Text.trim)))
        (.ofItems others) := by
  have reported :
      firstReport? true
          ((first :: texts).map Item.characters ++
            .token (.endTag name) :: others) =
        some (.ok (.text (Text.trim first)),
          texts.map Item.characters ++ .token (.endTag name) :: others) := by
    rw [List.map_cons, List.cons_append, firstReport?_characters,
      if_neg present]
  have looked :
      peek
          (.ofItems
            ((first :: texts).map Item.characters ++
              .token (.endTag name) :: others)) =
        .ok (some (.text (Text.trim first)))
          (.ofItems
            (.token (.text (Text.trim first)) ::
              (texts.map Item.characters ++
                .token (.endTag name) :: others))) := by
    have trims :
        (TokenStream.ofItems
          ((first :: texts).map Item.characters ++
            .token (.endTag name) :: others)).trimming = true := rfl
    rw [peek, trims, TokenStream.ofItems, reported]
    rfl
  refine requiredText_eq_ok_iff.mpr
    ⟨⟨_, _, looked⟩, elementText_of_characters _ _ _ _, fun nothing => ?_⟩
  rw [List.map_cons, String.join_cons,
    Text.trim_append_eq_empty_iff] at nothing
  exact present ((Text.isTrimmed_trim first).symm.trans nothing.1)

end Cursor

def codePath : List String :=
  [Response.grammar.elementName, "Status", "Code"]

def statusItems (texts : List String) : List Item :=
  codePath.map (fun name => .token (.startTag ⟨.ofLocal name, []⟩)) ++
    (texts.map Item.characters ++
      codePath.reverse.map fun name => .token (.endTag (.ofLocal name)))

def statusResponse (code : String) : Response :=
  { context := "", status := some ⟨code, ""⟩ }

theorem Status.read_of_characters
    {first : String} (present : Text.trim first ≠ "") (texts : List String)
    (others : List Item) :
    Status.read
        (.ofItems
          (.token (.startTag ⟨.ofLocal "Status", []⟩) ::
            .token (.startTag ⟨.ofLocal "Code", []⟩) ::
              ((first :: texts).map Item.characters ++
                .token (.endTag (.ofLocal "Code")) ::
                  .token (.endTag (.ofLocal "Status")) :: others))) =
      .ok ⟨Text.trim (String.join ((first :: texts).map Text.trim)), ""⟩
        (.ofItems others) := by
  have code := Cursor.requiredText_of_characters "Code" "validation code"
    present texts (.ofLocal "Code")
    (.token (.endTag (.ofLocal "Status")) :: others)
  generalize written :
    (first :: texts).map Item.characters ++
      .token (.endTag (.ofLocal "Code")) ::
        .token (.endTag (.ofLocal "Status")) :: others = items at code ⊢
  have shorter : others.length < items.length := by
    rw [← written]
    simp only [List.length_append, List.length_cons]
    omega
  have entered :
      Cursor.enter "Status"
          (.ofItems
            (.token (.startTag ⟨.ofLocal "Status", []⟩) ::
              .token (.startTag ⟨.ofLocal "Code", []⟩) :: items)) =
        .ok ⟨.ofLocal "Status", []⟩
          (.ofItems (.token (.startTag ⟨.ofLocal "Code", []⟩) :: items)) :=
    rfl
  have enteredCode :
      Cursor.enter "Code"
          (.ofItems (.token (.startTag ⟨.ofLocal "Code", []⟩) :: items)) =
        .ok ⟨.ofLocal "Code", []⟩ (.ofItems items) := rfl
  have progress :
      (TokenStream.ofItems
          (.token (.endTag (.ofLocal "Status")) :: others)).size <
        (TokenStream.ofItems
          (.token (.startTag ⟨.ofLocal "Code", []⟩) :: items)).size :=
    Nat.succ_lt_succ shorter
  rw [read, Cursor.bind_of_ok entered]
  exact Cursor.repeating_eq_ok_iff.mpr
    (.again
      ((Cursor.bind_of_ok rfl).trans
        ((Cursor.bind_of_ok enteredCode).trans
          ((Cursor.bind_of_ok code).trans rfl)))
      progress (.done rfl))

theorem Payload.read_statusItems
    (registry : Registry) (maxDepth : Nat) {first : String}
    (present : Text.trim first ≠ "") (texts : List String) :
    read registry maxDepth (.ofItems (statusItems (first :: texts))) =
      .ok
        (.response
          (statusResponse
            (Text.trim (String.join ((first :: texts).map Text.trim)))))
        (.ofItems []) := by
  let root : StartTag := ⟨.ofLocal Response.grammar.elementName, []⟩
  have status := Status.read_of_characters present texts
    [.token (.endTag root.name)]
  generalize written :
    Item.token (.startTag ⟨.ofLocal "Status", []⟩) ::
      .token (.startTag ⟨.ofLocal "Code", []⟩) ::
        ((first :: texts).map Item.characters ++
          .token (.endTag (.ofLocal "Code")) ::
            .token (.endTag (.ofLocal "Status")) ::
              [.token (.endTag root.name)]) = items at status
  have whole :
      statusItems (first :: texts) = .token (.startTag root) :: items :=
    written ▸ rfl
  have ahead :
      Cursor.peekStartTag (.ofItems (.token (.startTag root) :: items)) =
        .ok (some root) (.ofItems (.token (.startTag root) :: items)) := rfl
  have kind : Kind.ofRootName? root.localName = some .response := by
    decide +kernel
  have boundary :
      Cursor.peekBoundary (.ofItems items) =
        .ok (some (.opening ⟨.ofLocal "Status", []⟩)) (.ofItems items) := by
    rw [← written]
    rfl
  have child :
      Response.grammar.readChild registry maxDepth (.ofLocal "Status")
          (.ofItems items) =
        .ok
          (some (.status
            ⟨Text.trim (String.join ((first :: texts).map Text.trim)), ""⟩))
          (.ofItems [.token (.endTag root.name)]) :=
    Cursor.map_eq_ok_iff.mpr
      ⟨_, Cursor.map_eq_ok_iff.mpr ⟨_, status, rfl⟩, rfl⟩
  have progress :
      (TokenStream.ofItems [.token (.endTag root.name)]).size <
        (TokenStream.ofItems items).size := by
    simp [TokenStream.ofItems, TokenStream.size, ← written]
  rw [whole, read, Cursor.bind_of_ok ahead]
  simp only [kind]
  refine Cursor.map_eq_ok_iff.mpr ⟨_, ?_, rfl⟩
  rw [BodyGrammar.read]
  refine (Cursor.bind_of_ok rfl).trans ?_
  exact Cursor.repeating_eq_ok_iff.mpr
    (.again
      ((Cursor.bind_of_ok boundary).trans
        ((Cursor.bind_of_ok child).trans rfl))
      progress (.done rfl))

theorem Payload.readXml_of_statusItems
    (registry : Registry) (maxDepth : Nat) {text first : String}
    {texts : List String} (present : Text.trim first ≠ "")
    (items : Xml.documentItems text = statusItems (first :: texts)) :
    readXml registry ⟨true, maxDepth⟩ text =
      .ok
        (.response
          (statusResponse
            (Text.trim (String.join ((first :: texts).map Text.trim))))) := by
  have stream :
      TokenStream.ofXml true text = .ofItems (statusItems (first :: texts)) :=
    congrArg TokenStream.ofItems items
  rw [readXml, stream, read_statusItems registry maxDepth present texts]

/-! ## Codes with a comment -/

theorem codePath_named :
    ∀ name ∈ codePath, (QName.ofLocal name).IsXmlName := by
  decide +kernel

namespace Xml

/-- An escaped text before markup is a run of characters. -/
theorem itemsFrom_escape_append
    (nesting : Nesting) {content : String} (something : content ≠ "")
    {rest : List Char} (markup : rest.head? = some '<') :
    itemsFrom nesting (escape content.toList ++ rest) =
      .characters content :: itemsFrom nesting rest := by
  obtain ⟨tail, rfl⟩ := List.head?_eq_some_iff.mp markup
  rw [itemsFrom_escape, textItems, if_neg something]
  rfl

theorem textAhead_escape
    (content : String) {rest : List Char} (markup : rest.head? = some '<') :
    textAhead (escape content.toList ++ rest) = escape content.toList := by
  obtain ⟨tail, rfl⟩ := List.head?_eq_some_iff.mp markup
  refine Text.takeWhile_append_stop (fun c member => ?_) rfl tail
  rw [bne_iff_ne]
  rintro rfl
  exact not_mem_escape rfl (by decide) _ member

def codePlace (first second : String) : Place where
  before := openingTags codePath ++ escape first.toList
  run := escape first.toList
  after := escape second.toList ++ closingTags codePath
  behindMark := rfl
  isPlace := by
    have read := unescape_eq_ok_iff.mp (unescape_escape first.toList)
    have text : '<' ∉ escape first.toList :=
      not_mem_escape rfl (by decide) _
    exact (IsPlace.here text (read.not_splitsReference _)).inside
      codePath_named

variable (first second : String)

theorem codePlace_divides :
    (codePlace first second).Divides first second := by
  refine ⟨unescape_escape _, ?_⟩
  have ahead := textAhead_escape second
    (show (closingTags codePath).head? = some '<' from rfl)
  have text : (codePlace first second).after =
      escape second.toList ++ closingTags codePath := rfl
  rw [text, ahead, unescape_escape]

theorem documentItems_codePlace (something : first ≠ "") :
    documentItems (codePlace first second).document =
      statusItems [first ++ second] := by
  have present : first ++ second ≠ "" := by simp [something]
  have whole :
      Text.dropByteOrderMark (codePlace first second).before ++
          (codePlace first second).after =
        openingTags codePath ++
          (escape (first ++ second).toList ++
            (closingTags codePath ++ [])) := by
    rw [String.toList_append, escape_append, List.append_nil,
      List.append_assoc, ← List.append_assoc]
    rfl
  rw [Place.document, documentItems_eq_itemsFrom, Place.behindMark, whole,
    itemsFrom_openingTags codePath_named rfl,
    itemsFrom_escape_append _ present rfl,
    itemsFrom_closingTags codePath_named, itemsFrom_nil, List.append_nil]
  rfl

theorem documentItems_codePlace_commented
    (something : first ≠ "") (somethingElse : second ≠ "")
    {content : List Char} (ordinary : IsCommentContent content) :
    documentItems ((codePlace first second).commented content) =
      statusItems [first, second] := by
  have whole :
      Text.dropByteOrderMark (codePlace first second).before ++
          (comment content ++ (codePlace first second).after) =
        openingTags codePath ++
          (escape first.toList ++ (comment content ++
            (escape second.toList ++ (closingTags codePath ++ [])))) := by
    rw [List.append_nil, ← List.append_assoc (openingTags codePath)]
    rfl
  rw [Place.commented, documentItems_eq_itemsFrom,
    Place.dropByteOrderMark_commented, whole,
    itemsFrom_openingTags codePath_named rfl,
    itemsFrom_escape_append _ something rfl, itemsFrom_comment ordinary,
    itemsFrom_escape_append _ somethingElse rfl,
    itemsFrom_closingTags codePath_named, itemsFrom_nil, List.append_nil]
  rfl

/-- A comment between blanks that meet changes the code. -/
theorem codePlace_not_keepsMessage
    (meet : Text.BlanksMeet first second) (registry : Registry)
    (maxDepth : Nat) :
    ¬ (codePlace first second).KeepsMessage registry maxDepth Eq := by
  intro keeps
  have something : first ≠ "" := by
    rintro rfl
    exact meet.1 rfl
  have somethingElse : second ≠ "" := by
    rintro rfl
    exact meet.2.1 rfl
  have present : Text.trim (first ++ second) ≠ "" :=
    fun nothing => meet.1 (Text.trim_append_eq_empty_iff.mp nothing).1
  have ordinary : IsCommentContent [] := by decide
  have whole := Payload.readXml_of_statusItems registry maxDepth present
    (documentItems_codePlace first second something)
  have apart := Payload.readXml_of_statusItems registry maxDepth meet.1
    (documentItems_codePlace_commented first second something somethingElse
      ordinary)
  have wholeCode :
      Text.trim (String.join ([first ++ second].map Text.trim)) =
        Text.trim (first ++ second) := by
    rw [List.map_singleton, String.join_cons, String.join_nil,
      String.append_empty, Text.isTrimmed_trim]
  have joinedCode :
      Text.trim (String.join ([first, second].map Text.trim)) =
        Text.trim first ++ Text.trim second := by
    rw [List.map_cons, List.map_singleton, String.join_cons,
      String.join_cons, String.join_nil, String.append_empty,
      Text.trim_append_trim meet.1 meet.2.1]
  rw [wholeCode] at whole
  rw [joinedCode] at apart
  obtain ⟨other, read, matched⟩ := keeps [] _ ordinary whole
  rw [apart] at read
  cases read
  cases matched with
  | response single =>
      cases single.status with
      | some status =>
          exact (Text.trim_append_eq_iff first second).mp status.code meet

end Xml

/-! ## Comments in messages -/

/-- A comment loses at most blanks from a text that it divides, and never a
message.  It loses nothing unless blanks meet in the divided text; where they
do, some message is changed. -/
theorem Payload.comment_keeps_message_iff
    {registry : Registry} (plain : registry.IsPlain) (maxDepth : Nat) :
    (∀ place : Xml.Place,
        place.KeepsMessage registry maxDepth Text.LosesBlanks ∧
          (¬ place.BlanksMeet →
            place.KeepsMessage registry maxDepth Eq)) ∧
      ∀ first second,
        (∀ place : Xml.Place, place.Divides first second →
            place.KeepsMessage registry maxDepth Eq) ↔
          ¬ Text.BlanksMeet first second := by
  have exact_of_not_meet (place : Xml.Place) (apart : ¬ place.BlanksMeet) :
      place.KeepsMessage registry maxDepth Eq :=
    place.keepsMessage plain maxDepth Text.isLoss_eq
      fun first second divides meet => apart ⟨first, second, divides, meet⟩
  refine ⟨fun place => ⟨?_, exact_of_not_meet place⟩,
    fun first second => ⟨?_, ?_⟩⟩
  · exact place.keepsMessage plain maxDepth Text.isLoss_losesBlanks
      fun _ _ _ => trivial
  · intro keeps meet
    exact Xml.codePlace_not_keepsMessage first second meet registry maxDepth
      (keeps _ (Xml.codePlace_divides first second))
  · rintro apart place divides
    refine exact_of_not_meet place ?_
    rintro ⟨other, another, alsoDivides, meet⟩
    obtain ⟨rfl, rfl⟩ := place.divides_unique divides alsoDivides
    exact apart meet

theorem comment_inside_word_keeps_the_code :
    Registry.standard.IsPlain ∧
      Payload.readXml .standard .standard
          (Xml.codePlace "urn:" "valid").document =
        .ok (.response (statusResponse "urn:valid")) ∧
      ∃ other,
        Payload.readXml .standard .standard
            ((Xml.codePlace "urn:" "valid").commented " note ".toList) =
          .ok other ∧
          (Payload.response (statusResponse "urn:valid")).Matches
            (.asWritten Eq) other := by
  have plain : Registry.standard.IsPlain := Or.inr rfl
  have accepted :
      Payload.readXml .standard .standard
          (Xml.codePlace "urn:" "valid").document =
        .ok (.response (statusResponse "urn:valid")) := by
    decide +kernel
  have apart : ¬ Text.BlanksMeet "urn:" "valid" := by decide +kernel
  have ordinary : Xml.IsCommentContent " note ".toList := by decide +kernel
  exact ⟨plain, accepted,
    ((Payload.comment_keeps_message_iff plain 256).2 "urn:" "valid").mpr apart
      _ (Xml.codePlace_divides "urn:" "valid") _ _ ordinary accepted⟩

/-- The code is `a b` without the comment and `ab` with it. -/
theorem not_every_comment_keeps_the_message :
    (Xml.codePlace "a " "b").commented ['c'] =
        "<RequestSecurityTokenResponse><Status><Code>a <!--c-->b</Code>" ++
          "</Status></RequestSecurityTokenResponse>" ∧
      Payload.readXml .standard .standard
          (Xml.codePlace "a " "b").document =
        .ok (.response (statusResponse "a b")) ∧
      Payload.readXml .standard .standard
          ((Xml.codePlace "a " "b").commented ['c']) =
        .ok (.response (statusResponse "ab")) ∧
      ¬ ∀ place : Xml.Place,
        place.KeepsMessage .standard Settings.standard.maxDepth Eq := by
  have meet : Text.BlanksMeet "a " "b" := by decide +kernel
  refine ⟨by decide +kernel, by decide +kernel, by decide +kernel,
    fun keeps => ?_⟩
  exact Xml.codePlace_not_keepsMessage "a " "b" meet .standard
    Settings.standard.maxDepth (keeps _)

end WsTrust
