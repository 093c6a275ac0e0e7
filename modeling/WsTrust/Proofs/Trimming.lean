import WsTrust.Proofs.Postconditions
import WsTrust.Proofs.Programs
import WsTrust.Proofs.Texts
import WsTrust.Proofs.Validation

/-!
# Reading trimmed text

What a reader that tolerates trimming reads from a stream untrimmed, it reads
from the trimmed stream as well.  The texts of the stream have to be characters
between tags: trimming changes such a text as a whole or drops it, but leaves
no part of it behind.
-/

namespace WsTrust

/-! ## Spaced items -/

namespace Item

def IsCharacters (item : Item) : Prop :=
  ∃ content, item = .characters content

/-- Texts are characters, and no two of them stand side by side. -/
inductive Spaced : List Item → Prop
  | nil : Spaced []
  | tag {token : Token} {rest : List Item} (markup : token.isText = false)
      (spaced : Spaced rest) :
      Spaced (.token token :: rest)
  | fault (cause : Xml.DocumentFault) {rest : List Item}
      (spaced : Spaced rest) :
      Spaced (.fault cause :: rest)
  | characters {content : String} {rest : List Item}
      (something : content ≠ "")
      (apart : ∀ next ∈ rest.head?, ¬ next.IsCharacters)
      (spaced : Spaced rest) :
      Spaced (.characters content :: rest)

theorem read?_characters_untrimmed
    {content : String} (something : content ≠ "") :
    (Item.characters content).read? false = some (.ok (.text content)) := by
  simp [read?, something]

theorem read?_characters_trimmed (content : String) :
    (Item.characters content).read? true =
      if Text.trim content = "" then none
      else some (.ok (.text (Text.trim content))) := by
  simp [read?]

end Item

/-! ## Plain streams -/

namespace TokenStream

/-- The stream does not trim, and its items are spaced. -/
structure Plain (stream : TokenStream) : Prop where
  untrimmed : stream.trimText = false
  unpreserved : stream.verbatim = false
  spaced : Item.Spaced stream.items

/-- The stream with its text trimmed. -/
def trimmed (stream : TokenStream) : TokenStream :=
  { stream with trimText := true }

/-- The next item of the stream is no run of characters. -/
def AtMarkup (stream : TokenStream) : Prop :=
  ∀ item ∈ stream.items.head?, ¬ item.IsCharacters

namespace Plain

variable {stream : TokenStream} (plain : stream.Plain)

include plain

theorem trimming : stream.trimming = false := by
  simp only [TokenStream.trimming, plain.untrimmed, Bool.false_and]

theorem trimmed_trimming : stream.trimmed.trimming = true := by
  simp only [TokenStream.trimming, trimmed, plain.unpreserved, Bool.not_false,
    Bool.and_self]

theorem withItems {items : List Item} (spaced : Item.Spaced items) :
    ({ stream with items } : TokenStream).Plain :=
  ⟨plain.untrimmed, plain.unpreserved, spaced⟩

/-- What the stream holds next if that is no run of characters. -/
theorem items_cases (atMarkup : stream.AtMarkup) :
    stream.items = [] ∨
      (∃ token rest, stream.items = .token token :: rest ∧
        token.isText = false ∧ Item.Spaced rest) ∨
      ∃ cause rest, stream.items = .fault cause :: rest := by
  have spaced := plain.spaced
  rw [AtMarkup] at atMarkup
  generalize stream.items = items at spaced atMarkup
  cases spaced with
  | nil => exact Or.inl rfl
  | tag markup spaced => exact Or.inr (Or.inl ⟨_, _, rfl, markup, spaced⟩)
  | fault cause spaced => exact Or.inr (Or.inr ⟨_, _, rfl⟩)
  | characters something apart spaced =>
      exact absurd ⟨_, rfl⟩ (atMarkup _ rfl)

theorem exists_characters (amidText : ¬ stream.AtMarkup) :
    ∃ content rest,
      stream.items = .characters content :: rest ∧ content ≠ "" ∧
        (∀ next ∈ rest.head?, ¬ next.IsCharacters) ∧ Item.Spaced rest := by
  have spaced := plain.spaced
  rw [AtMarkup] at amidText
  generalize stream.items = items at spaced amidText
  cases spaced with
  | nil => simp at amidText
  | tag markup spaced => simp [Item.IsCharacters] at amidText
  | fault cause spaced => simp [Item.IsCharacters] at amidText
  | characters something apart spaced =>
      exact ⟨_, _, rfl, something, apart, spaced⟩

end Plain

end TokenStream

namespace Cursor

variable {Result Other State : Type}

/-! ## Readers that tolerate trimming -/

/-- If the reader succeeds on the stream, it succeeds on the trimmed stream with
the same result, and both runs stop at the same place. -/
def ToleratesAt (reader : Cursor Result) (stream : TokenStream) : Prop :=
  ∀ ⦃result : Result⦄ ⦃rest : TokenStream⦄,
    reader stream = .ok result rest →
      rest.Plain ∧ reader stream.trimmed = .ok result rest.trimmed

/-- Wherever it begins, the reader is not led astray by trimming. -/
def Tolerates (reader : Cursor Result) : Prop :=
  ∀ ⦃stream : TokenStream⦄, stream.Plain → ToleratesAt reader stream

theorem ToleratesAt.bind
    {reader : Cursor Result} {next : Result → Cursor Other}
    {stream : TokenStream}
    (first : ToleratesAt reader stream)
    (second : ∀ ⦃result rest⦄, reader stream = .ok result rest →
      rest.Plain → ToleratesAt (next result) rest) :
    ToleratesAt (reader >>= next) stream := by
  intro other stop succeeded
  obtain ⟨result, middle, read, concluded⟩ := bind_eq_ok_iff.mp succeeded
  obtain ⟨plain, readTrimmed⟩ := first read
  obtain ⟨stopPlain, concludedTrimmed⟩ := second read plain concluded
  refine ⟨stopPlain, ?_⟩
  rw [bind_of_ok readTrimmed, concludedTrimmed]

namespace Tolerates

theorem pure (result : Result) :
    Tolerates (Pure.pure result : Cursor Result) := by
  intro stream plain value rest succeeded
  cases succeeded
  exact ⟨plain, rfl⟩

theorem refuse (fault : Fault) :
    Tolerates (Cursor.refuse fault : Cursor Result) := by
  intro stream plain value rest succeeded
  cases succeeded

theorem raise (error : ParseError) :
    Tolerates (Cursor.raise error : Cursor Result) := by
  intro stream plain value rest succeeded
  cases succeeded

theorem bind
    {reader : Cursor Result} {next : Result → Cursor Other}
    (first : Tolerates reader) (second : ∀ result, Tolerates (next result)) :
    Tolerates (reader >>= next) :=
  fun _ plain =>
    (first plain).bind fun result _ _ restPlain => second result restPlain

theorem map
    {reader : Cursor Result}
    (tolerates : Tolerates reader) (change : Result → Other) :
    Tolerates (change <$> reader) := by
  rw [map_eq_bind]
  exact tolerates.bind fun result => pure (change result)

end Tolerates

/-! ## Scanning tags -/

/-- A scan tolerates trimming if text does not matter to it. -/
theorem scan_tolerates
    {expected : String}
    {step : State → Token → Except Failure (Turn State Result)}
    (passes : ∀ state content,
      step state (.text content) = .ok (.again state))
    (state : State) :
    Tolerates (scan expected step state) := by
  intro stream plain result rest succeeded
  have scanned
      {items : List Item} (spaced : Item.Spaced items) (state : State)
      (succeeded :
        scan.scanItems expected step stream items state =
          .ok result rest) :
      rest.Plain ∧
        scan.scanItems expected step stream.trimmed items state =
          .ok result rest.trimmed := by
    induction spaced generalizing state with
    | nil => cases succeeded
    | fault cause spaced inductionHypothesis => cases succeeded
    | @tag token _ _ spaced inductionHypothesis =>
        rcases (scanItems_eq_ok_iff rfl).mp succeeded with
          ⟨later, decided, others⟩ | ⟨decided, rfl⟩
        · obtain ⟨restPlain, scanned⟩ := inductionHypothesis later others
          exact ⟨restPlain, (scanItems_eq_ok_iff rfl).mpr
            (Or.inl ⟨later, decided, scanned⟩)⟩
        · exact ⟨plain.withItems spaced, (scanItems_eq_ok_iff rfl).mpr
            (Or.inr ⟨decided, rfl⟩)⟩
    | @characters content _ something _ _ inductionHypothesis =>
        simp only [scan.scanItems, plain.trimming,
          Item.read?_characters_untrimmed something, passes] at succeeded
        simp only [scan.scanItems, plain.trimmed_trimming,
          Item.read?_characters_trimmed]
        have later := inductionHypothesis state succeeded
        by_cases blank : Text.trim content = ""
        · simpa only [if_pos blank] using later
        · simpa only [if_neg blank, passes] using later
  exact scanned plain.spaced state succeeded

/-! ## Looking ahead -/

theorem dropUntil_tolerates
    {stops : Token → Bool}
    (passes : ∀ content, stops (.text content) = false) :
    Tolerates (dropUntil stops) := by
  intro stream plain result rest succeeded
  have dropped
      {items : List Item} (spaced : Item.Spaced items)
      (succeeded : dropUntil.dropItems stops stream items = .ok () rest) :
      rest.Plain ∧
        dropUntil.dropItems stops stream.trimmed items =
          .ok () rest.trimmed := by
    induction spaced with
    | nil =>
        cases succeeded
        exact ⟨plain.withItems .nil, rfl⟩
    | fault cause spaced inductionHypothesis => cases succeeded
    | @tag token _ markup spaced inductionHypothesis =>
        simp only [dropUntil.dropItems, Item.read?] at succeeded ⊢
        by_cases stop : stops token
        · simp only [if_pos stop] at succeeded ⊢
          cases succeeded
          exact ⟨plain.withItems (.tag markup spaced), rfl⟩
        · simp only [if_neg stop] at succeeded ⊢
          exact inductionHypothesis succeeded
    | @characters content _ something _ _ inductionHypothesis =>
        simp only [dropUntil.dropItems, plain.trimming,
          Item.read?_characters_untrimmed something, passes]
          at succeeded
        simp only [dropUntil.dropItems, plain.trimmed_trimming,
          Item.read?_characters_trimmed]
        have later := inductionHypothesis succeeded
        by_cases blank : Text.trim content = ""
        · simpa only [if_pos blank] using later
        · simpa only [if_neg blank, passes, Bool.false_eq_true, if_false]
            using later
  exact dropped plain.spaced succeeded

/-- Dropping text leaves the stream at markup. -/
theorem atMarkup_of_dropUntil
    {stops : Token → Bool} {stream rest : TokenStream}
    (dropped : dropUntil stops stream = .ok () rest) : rest.AtMarkup := by
  have stopped
      {items : List Item}
      (dropped : dropUntil.dropItems stops stream items = .ok () rest) :
      rest.AtMarkup := by
    induction items with
    | nil =>
        cases dropped
        simp [TokenStream.AtMarkup]
    | cons item others inductionHypothesis =>
        simp only [dropUntil.dropItems] at dropped
        rcases report : item.read? stream.trimming with _ | fault | token
        · rw [report] at dropped
          exact inductionHypothesis dropped
        · rw [report] at dropped
          cases dropped
        · rw [report] at dropped
          by_cases stop : stops token
          · simp only [if_pos stop] at dropped
            cases dropped
            simp [TokenStream.AtMarkup, Item.IsCharacters]
          · simp only [if_neg stop] at dropped
            exact inductionHypothesis dropped
  exact stopped dropped

theorem next_toleratesAt
    {stream : TokenStream} (plain : stream.Plain)
    (atMarkup : stream.AtMarkup) : ToleratesAt next stream := by
  intro result rest succeeded
  rcases plain.items_cases atMarkup with
    ended | ⟨token, others, items, _, spaced⟩ | ⟨cause, others, items⟩
  · simp only [next, ended, firstReport?] at succeeded
    simp only [next, TokenStream.trimmed, ended, firstReport?]
    cases succeeded
    exact ⟨plain.withItems .nil, rfl⟩
  · simp only [next, items, firstReport?, Item.read?] at succeeded
    simp only [next, TokenStream.trimmed, items, firstReport?, Item.read?]
    cases succeeded
    exact ⟨plain.withItems spaced, rfl⟩
  · simp only [next, items, firstReport?, Item.read?] at succeeded
    cases succeeded

theorem peek_toleratesAt
    {stream : TokenStream} (plain : stream.Plain)
    (atMarkup : stream.AtMarkup) : ToleratesAt peek stream := by
  intro result rest succeeded
  rcases plain.items_cases atMarkup with
    ended | ⟨token, others, items, markup, spaced⟩ | ⟨cause, others, items⟩
  · simp only [peek, ended, firstReport?] at succeeded
    simp only [peek, TokenStream.trimmed, ended, firstReport?]
    cases succeeded
    exact ⟨plain.withItems .nil, rfl⟩
  · simp only [peek, items, firstReport?, Item.read?] at succeeded
    simp only [peek, TokenStream.trimmed, items, firstReport?, Item.read?]
    cases succeeded
    exact ⟨plain.withItems (.tag markup spaced), rfl⟩
  · simp only [peek, items, firstReport?, Item.read?] at succeeded
    cases succeeded

theorem atMarkup_of_peek
    {stream rest : TokenStream} {token : Option Token}
    (peeked : peek stream = .ok token rest) : rest.AtMarkup := by
  unfold peek at peeked
  split at peeked
  · cases peeked
    simp [TokenStream.AtMarkup, Item.IsCharacters]
  · cases peeked
  · cases peeked
    simp [TokenStream.AtMarkup]

/-- A look at the next token is not led astray by trimming if a text would have
been refused. -/
theorem peek_bind_tolerates
    {next : Option Token → Cursor Other}
    (texts : ∀ content stream result rest,
      next (some (.text content)) stream ≠ .ok result rest)
    (others : ∀ token ⦃stream⦄, stream.Plain → stream.AtMarkup →
      ToleratesAt (next token) stream) :
    Tolerates (peek >>= next) := by
  intro stream plain
  by_cases atMarkup : stream.AtMarkup
  · refine (peek_toleratesAt plain atMarkup).bind ?_
    intro token rest peeked restPlain
    exact others token restPlain (atMarkup_of_peek peeked)
  · intro result rest succeeded
    obtain ⟨token, middle, peeked, concluded⟩ :=
      bind_eq_ok_iff.mp succeeded
    obtain ⟨content, others, items, something, _⟩ :=
      plain.exists_characters atMarkup
    simp only [peek, items, firstReport?, plain.trimming,
      Item.read?_characters_untrimmed something] at peeked
    cases peeked
    exact absurd concluded (texts _ _ _ _)

theorem peekBoundary_tolerates : Tolerates peekBoundary := by
  intro stream plain
  have dropping :=
    @dropUntil_tolerates (!·.isText) (fun content => rfl) stream plain
  refine dropping.bind fun _ dropped found droppedPlain => ?_
  have atMarkup := atMarkup_of_dropUntil found
  refine (peek_toleratesAt droppedPlain atMarkup).bind ?_
  intro token rest peeked restPlain
  split
  · exact Tolerates.pure _ restPlain
  · exact Tolerates.pure _ restPlain
  · exact Tolerates.pure _ restPlain

theorem atMarkup_of_peekBoundary
    {stream rest : TokenStream} {boundary : Option Boundary}
    (looked : peekBoundary stream = .ok boundary rest) : rest.AtMarkup := by
  obtain ⟨_, dropped, _, looked⟩ := bind_eq_ok_iff.mp looked
  obtain ⟨token, after, peeked, concluded⟩ := bind_eq_ok_iff.mp looked
  have atMarkup := atMarkup_of_peek peeked
  split at concluded <;> cases concluded <;> exact atMarkup

/-! ## Text -/

/-- Before markup, two texts with the same trimmed form are completed alike. -/
theorem joinText_tolerates
    {within text short : String} (same : Text.trim text = Text.trim short)
    {stream rest : TokenStream} (plain : stream.Plain)
    {items : List Item} (spaced : Item.Spaced items)
    (atMarkup : ∀ item ∈ items.head?, ¬ item.IsCharacters)
    {result : String}
    (succeeded :
      scan.scanItems within (joinText within) stream items text =
        .ok result rest) :
    result = Text.trim text ∧ rest.Plain ∧
      scan.scanItems within (joinText within) stream.trimmed items short =
        .ok result rest.trimmed := by
  cases spaced with
  | nil => cases succeeded
  | fault cause spaced => cases succeeded
  | characters something apart spaced => exact absurd ⟨_, rfl⟩ (atMarkup _ rfl)
  | @tag token _ markup spaced =>
      cases token with
      | text content => cases markup
      | startTag tag => cases succeeded
      | endTag name =>
          cases succeeded
          refine ⟨rfl, plain.withItems spaced, ?_⟩
          simp only [scan.scanItems, Item.read?, joinText, same]
          rfl

theorem elementText_of_text
    (within content : String) (stream : TokenStream) (others : List Item) :
    elementText within
        { stream with items := .token (.text content) :: others } =
      scan.scanItems within (joinText within)
        { stream with items := .token (.text content) :: others } others
        content := by
  rw [elementText_eq_scan, scan]
  simp only [scan.scanItems, Item.read?, joinText, String.empty_append]

theorem elementText_tolerates (within : String) :
    Tolerates (elementText within) := by
  rw [elementText_eq_scan]
  intro stream plain result rest succeeded
  by_cases atMarkup : stream.AtMarkup
  · exact (joinText_tolerates rfl plain plain.spaced atMarkup succeeded).2
  · obtain ⟨content, others, items, something, apart, spaced⟩ :=
      plain.exists_characters atMarkup
    simp only [scan, items, scan.scanItems, plain.trimming,
      Item.read?_characters_untrimmed something, joinText] at succeeded
    have trimmedItems : stream.trimmed.items = stream.items := rfl
    simp only [scan, trimmedItems, items, scan.scanItems,
      plain.trimmed_trimming, Item.read?_characters_trimmed]
    rw [String.empty_append] at succeeded
    by_cases blank : Text.trim content = ""
    · simp only [if_pos blank]
      have same : Text.trim content = Text.trim "" := by
        rw [blank]
        decide
      exact (joinText_tolerates same plain spaced apart succeeded).2
    · simp only [if_neg blank, joinText]
      have same :
          Text.trim content = Text.trim ("" ++ Text.trim content) := by
        rw [String.empty_append]
        exact (Text.isTrimmed_trim content).symm
      exact (joinText_tolerates same plain spaced apart succeeded).2

theorem hasTextAhead_of_atMarkup
    {stream rest : TokenStream} (plain : stream.Plain)
    (atMarkup : stream.AtMarkup) {ahead : Bool}
    (looked : hasTextAhead stream = .ok ahead rest) : ahead = false := by
  obtain ⟨token, middle, peeked, concluded⟩ := bind_eq_ok_iff.mp looked
  rcases plain.items_cases atMarkup with
    ended | ⟨token, others, items, markup, _⟩ | ⟨cause, others, items⟩
  · simp only [peek, ended, firstReport?] at peeked
    cases peeked
    cases concluded
    rfl
  · simp only [peek, items, firstReport?, Item.read?] at peeked
    cases peeked
    cases concluded
    exact markup
  · simp only [peek, items, firstReport?, Item.read?] at peeked
    cases peeked

theorem hasTextAhead_of_reported
    {stream : TokenStream} {item : Item} {others : List Item}
    (items : stream.items = item :: others) {content : String}
    (reported : item.read? stream.trimming = some (.ok (.text content))) :
    hasTextAhead stream =
      .ok true { stream with items := .token (.text content) :: others } := by
  have peeked :
      peek stream =
        .ok (some (.text content))
          { stream with items := .token (.text content) :: others } := by
    simp only [peek, items, firstReport?, reported]
  rw [hasTextAhead, bind_of_ok peeked]
  rfl

theorem requiredText_tolerates (within what : String) :
    Tolerates (requiredText within what) := by
  intro stream plain result rest succeeded
  obtain ⟨ahead, middle, looked, concluded⟩ := bind_eq_ok_iff.mp succeeded
  by_cases atMarkup : stream.AtMarkup
  · rw [hasTextAhead_of_atMarkup plain atMarkup looked] at concluded
    cases concluded
  · obtain ⟨content, others, items, something, apart, spaced⟩ :=
      plain.exists_characters atMarkup
    have reported :
        (Item.characters content).read? stream.trimming =
          some (.ok (.text content)) := by
      rw [plain.trimming, Item.read?_characters_untrimmed something]
    rw [hasTextAhead_of_reported items reported] at looked
    cases looked
    obtain ⟨text, last, read, accepted⟩ := bind_eq_ok_iff.mp concluded
    rw [elementText_of_text, scanItems_withItems] at read
    have same : Text.trim content = Text.trim (Text.trim content) :=
      (Text.isTrimmed_trim content).symm
    obtain ⟨rfl, lastPlain, readTrimmed⟩ :=
      joinText_tolerates same plain spaced apart read
    by_cases blank : (Text.trim content).isEmpty
    · rw [if_pos blank] at accepted
      cases accepted
    · rw [if_neg blank] at accepted
      cases accepted
      refine ⟨lastPlain, ?_⟩
      have reportedTrimmed :
          (Item.characters content).read? stream.trimmed.trimming =
            some (.ok (.text (Text.trim content))) := by
        rw [plain.trimmed_trimming, Item.read?_characters_trimmed, if_neg]
        simpa using blank
      have trimmedItems :
          stream.trimmed.items = .characters content :: others := items
      have lookedTrimmed :=
        hasTextAhead_of_reported trimmedItems reportedTrimmed
      rw [requiredText, bind_of_ok lookedTrimmed, if_pos rfl]
      have elementTrimmed :
          elementText within
              { stream.trimmed with
                items := .token (.text (Text.trim content)) :: others } =
            .ok (Text.trim content) rest.trimmed := by
        rw [elementText_of_text, scanItems_withItems]
        exact readTrimmed
      rw [bind_of_ok elementTrimmed, if_neg blank]
      rfl

/-! ## Fragments -/

/-- While text is reported verbatim it makes no difference whether the stream
trims. -/
theorem scanItems_tolerates_verbatim
    {expected : String}
    {step : State → Token → Except Failure (Turn State Result)}
    {stream rest : TokenStream} (plain : stream.Plain)
    {items : List Item} (spaced : Item.Spaced items) {state : State}
    {result : Result}
    (succeeded :
      scan.scanItems expected step (stream.withVerbatim true) items state =
        .ok result rest) :
    (rest.withVerbatim false).Plain ∧
      scan.scanItems expected step (stream.trimmed.withVerbatim true) items
          state =
        .ok result rest.trimmed := by
  have untrimmed : (stream.withVerbatim true).trimming = false :=
    Bool.and_false _
  have trimmed : (stream.trimmed.withVerbatim true).trimming = false := rfl
  have stepped
      {item : Item} {others : List Item} {token : Token} {state : State}
      (reported : item.read? false = some (.ok token))
      (spaced : Item.Spaced others)
      (scanned : ∀ {state : State},
        scan.scanItems expected step (stream.withVerbatim true) others state =
            .ok result rest →
          (rest.withVerbatim false).Plain ∧
            scan.scanItems expected step (stream.trimmed.withVerbatim true)
                others state =
              .ok result rest.trimmed)
      (succeeded :
        scan.scanItems expected step (stream.withVerbatim true)
            (item :: others) state =
          .ok result rest) :
      (rest.withVerbatim false).Plain ∧
        scan.scanItems expected step (stream.trimmed.withVerbatim true)
            (item :: others) state =
          .ok result rest.trimmed := by
    rw [scanItems_eq_ok_iff (by rw [untrimmed, reported])] at succeeded
    rw [scanItems_eq_ok_iff (by rw [trimmed, reported])]
    rcases succeeded with ⟨later, decided, goesOn⟩ | ⟨decided, rfl⟩
    · obtain ⟨restPlain, again⟩ := scanned goesOn
      exact ⟨restPlain, Or.inl ⟨later, decided, again⟩⟩
    · exact ⟨⟨plain.untrimmed, rfl, spaced⟩, Or.inr ⟨decided, rfl⟩⟩
  induction spaced generalizing state with
  | nil => cases succeeded
  | fault cause spaced inductionHypothesis => cases succeeded
  | tag markup spaced inductionHypothesis =>
      exact stepped rfl spaced inductionHypothesis succeeded
  | characters something apart spaced inductionHypothesis =>
      exact stepped (Item.read?_characters_untrimmed something) spaced
        inductionHypothesis succeeded

theorem verbatim_scan_tolerates
    (expected : String)
    (step : State → Token → Except Failure (Turn State Result))
    (state : State) :
    Tolerates (verbatim (scan expected step state)) := by
  intro stream plain result rest succeeded
  cases read : scan expected step state (stream.withVerbatim true) with
  | error failure stop =>
      rw [verbatim_of_error read] at succeeded
      cases succeeded
  | ok value stop =>
      rw [verbatim_of_ok read] at succeeded
      cases succeeded
      obtain ⟨stopPlain, readTrimmed⟩ :=
        scanItems_tolerates_verbatim plain plain.spaced read
      refine ⟨stopPlain, ?_⟩
      have again :
          scan expected step state (stream.trimmed.withVerbatim true) =
            .ok result stop.trimmed := readTrimmed
      rw [verbatim_of_ok again]
      rfl

theorem captureElement_tolerates (maxDepth : Nat) :
    Tolerates (captureElement maxDepth) := by
  intro stream plain
  by_cases atMarkup : stream.AtMarkup
  · refine (next_toleratesAt plain atMarkup).bind ?_
    intro token rest _ restPlain
    split
    · exact verbatim_scan_tolerates _ _ _ restPlain
    · exact Tolerates.refuse _ restPlain
    · exact Tolerates.refuse _ restPlain
    · exact Tolerates.refuse _ restPlain
  · intro result rest succeeded
    obtain ⟨token, middle, consumed, concluded⟩ :=
      bind_eq_ok_iff.mp succeeded
    obtain ⟨content, others, items, something, _⟩ :=
      plain.exists_characters atMarkup
    simp only [next, items, firstReport?, plain.trimming,
      Item.read?_characters_untrimmed something] at consumed
    cases consumed
    cases concluded

/-! ## Repetition -/

theorem repeating_tolerates
    {turn : State → Cursor (Turn State Result)}
    (tolerates : ∀ state, Tolerates (turn state)) (state : State) :
    Tolerates (repeating turn state) := by
  intro stream plain result rest succeeded
  have turns := repeating_eq_ok_iff.mp succeeded
  clear succeeded
  induction turns with
  | done read =>
      obtain ⟨stopPlain, readTrimmed⟩ := tolerates _ plain read
      exact ⟨stopPlain, repeating_of_done readTrimmed⟩
  | @again state later stream middle rest result read progress _
      inductionHypothesis =>
      obtain ⟨middlePlain, readTrimmed⟩ := tolerates state plain read
      have progressTrimmed : middle.trimmed.size < stream.trimmed.size :=
        progress
      rw [repeating_of_again readTrimmed progressTrimmed]
      exact inductionHypothesis middlePlain

/-! ## Tags and elements -/

theorem nextStartTag_tolerates (expected : String) :
    Tolerates (nextStartTag expected) :=
  scan_tolerates (fun _ _ => rfl) ()

theorem nextEndTag_tolerates (expected : String) :
    Tolerates (nextEndTag expected) :=
  scan_tolerates (fun _ _ => rfl) ()

theorem peekStartTag_tolerates : Tolerates peekStartTag := by
  intro stream plain
  have dropping :=
    @dropUntil_tolerates Token.isStartTag (fun _ => rfl) stream plain
  refine dropping.bind fun _ dropped found droppedPlain => ?_
  have atMarkup := atMarkup_of_dropUntil found
  refine (peek_toleratesAt droppedPlain atMarkup).bind ?_
  intro token rest _ restPlain
  split
  · exact Tolerates.pure _ restPlain
  · exact Tolerates.pure _ restPlain

theorem peekChild_tolerates (within : String) :
    Tolerates (peekChild within) := by
  refine peekBoundary_tolerates.bind fun boundary => ?_
  split
  · exact Tolerates.pure _
  · exact Tolerates.pure _
  · exact Tolerates.refuse _

theorem skipElement_tolerates : Tolerates skipElement := by
  refine (nextStartTag_tolerates "element").bind fun _ => ?_
  exact scan_tolerates (fun inner _ => by cases inner <;> rfl) 0

/-- The end tag that a reader has looked at is consumed with it. -/
theorem peekBoundary_bind_tolerates
    {next : Option Boundary → Cursor Other}
    (later : ∀ boundary ⦃stream⦄, stream.Plain → stream.AtMarkup →
      ToleratesAt (next boundary) stream) :
    Tolerates (peekBoundary >>= next) := by
  intro stream plain
  refine (peekBoundary_tolerates plain).bind ?_
  intro boundary rest looked restPlain
  exact later boundary restPlain (atMarkup_of_peekBoundary looked)

end Cursor

end WsTrust
