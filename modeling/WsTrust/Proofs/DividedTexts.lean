import WsTrust.Proofs.Correspondence
import WsTrust.Proofs.LostBlanks
import WsTrust.Proofs.Trimming

/-!
# Streams with a divided text

A run of characters of a stream is divided in two.  A reader that succeeds on
the stream as it was also succeeds on the divided one, and comes at least as
far: it takes both parts of the text where it took the whole.
-/

namespace WsTrust

/-! ## Divided runs of characters -/

/-- The items on the right are those on the left, but for one run of characters
that may be divided in two.  What stands behind a fault does not matter. -/
inductive Item.Divided (allowed : String → String → Prop) :
    List Item → List Item → Prop
  | same (items : List Item) : Divided allowed items items
  | here {first second : String} (allows : allowed first second)
      (something : first ≠ "") (somethingElse : second ≠ "")
      (rest : List Item) :
      Divided allowed (.characters (first ++ second) :: rest)
        (.characters first :: .characters second :: rest)
  | behindFault (cause : Xml.DocumentFault) (rest others : List Item) :
      Divided allowed (.fault cause :: rest) others
  | cons (item : Item) {whole parts : List Item}
      (later : Divided allowed whole parts) :
      Divided allowed (item :: whole) (item :: parts)

theorem Item.Divided.append_left
    {allowed : String → String → Prop} {whole parts : List Item}
    (divided : Item.Divided allowed whole parts) (front : List Item) :
    Item.Divided allowed (front ++ whole) (front ++ parts) := by
  induction front with
  | nil => exact divided
  | cons item rest inductionHypothesis => exact .cons item inductionHypothesis

theorem Item.Divided.mono
    {allowed weaker : String → String → Prop} {whole parts : List Item}
    (divided : Item.Divided allowed whole parts)
    (weakened : ∀ first second, allowed first second →
      weaker first second) :
    Item.Divided weaker whole parts := by
  induction divided with
  | same items => exact .same items
  | here allows something somethingElse rest =>
      exact .here (weakened _ _ allows) something somethingElse rest
  | behindFault cause rest others => exact .behindFault cause rest others
  | cons item _ inductionHypothesis => exact .cons item inductionHypothesis

structure TokenStream.Divided
    (allowed : String → String → Prop) (whole parts : TokenStream) :
    Prop where
  trims : whole.trimText = true
  partsTrim : parts.trimText = true
  unpreserved : whole.verbatim = false
  partsUnpreserved : parts.verbatim = false
  items : Item.Divided allowed whole.items parts.items

namespace TokenStream.Divided

variable {allowed : String → String → Prop} {whole parts : TokenStream}
  (divided : Divided allowed whole parts)

include divided

theorem trimming : whole.trimming = true := by
  rw [TokenStream.trimming, divided.trims, divided.unpreserved]
  rfl

theorem partsTrimming : parts.trimming = true := by
  rw [TokenStream.trimming, divided.partsTrim, divided.partsUnpreserved]
  rfl

theorem withItems
    {items others : List Item} (later : Item.Divided allowed items others) :
    Divided allowed { whole with items } { parts with items := others } :=
  { divided with items := later }

end TokenStream.Divided

namespace Cursor

/-! ## Scanning divided texts -/

section Scans

variable {State Result : Type}

def shown (trimming : Bool) (content : String) : String :=
  if trimming then Text.trim content else content

theorem reports_characters (trimming : Bool) (content : String) :
    (shown trimming content = "" ∧
        (Item.characters content).read? trimming = none) ∨
      (shown trimming content ≠ "" ∧
        (Item.characters content).read? trimming =
          some (.ok (.text (shown trimming content)))) := by
  by_cases empty : shown trimming content = ""
  · refine Or.inl ⟨empty, ?_⟩
    rw [shown] at empty
    simp [Item.read?, empty]
  · refine Or.inr ⟨empty, ?_⟩
    rw [shown] at empty ⊢
    simp [Item.read?, empty]

/-- The state of a scan after characters, which change it unless nothing of them
is reported. -/
def absorb
    (push : String → State → State) (trimming : Bool) (content : String)
    (state : State) : State :=
  if shown trimming content = "" then state
  else push (shown trimming content) state

variable {expected : String}
  {step : State → Token → Except Failure (Turn State Result)}

theorem scanItems_characters
    (push : String → State → State)
    (texts : ∀ content state,
      step state (.text content) = .ok (.again (push content state)))
    (stream : TokenStream) (content : String) (rest : List Item)
    (state : State) :
    scan.scanItems expected step stream (.characters content :: rest)
        state =
      scan.scanItems expected step stream rest
        (absorb push stream.trimming content state) := by
  rw [scan.scanItems, absorb]
  rcases reports_characters stream.trimming content with
    ⟨empty, dropped⟩ | ⟨something, reported⟩
  · rw [dropped, if_pos empty]
  · rw [reported, if_neg something]
    simp only [texts]

/-- The run on the divided items gives a related result, and what is left on
either side is divided; it has come at least as far. -/
def Arrives
    {Left Right : Type} (allowed : String → String → Prop)
    (related : Left → Right → Prop) (whole parts : TokenStream)
    (items others : List Item) (result : Left) (rest : TokenStream)
    (read : EStateM.Result Failure TokenStream Right) : Prop :=
  ∃ other later remaining,
    read = .ok other { parts with items := remaining } ∧
      related result other ∧ rest = { whole with items := later } ∧
      Item.Divided allowed later remaining ∧
      remaining.length + items.length ≤ others.length + later.length

variable {allowed : String → String → Prop}
  {states : State → State → Prop} {related : Result → Result → Prop}
  {whole parts rest : TokenStream} {result : Result}

theorem Arrives.cons
    {items others : List Item}
    {read : EStateM.Result Failure TokenStream Result}
    (arrives : Arrives allowed related whole parts items others result rest
      read)
    (item : Item) :
    Arrives allowed related whole parts (item :: items) (item :: others)
      result rest read := by
  obtain ⟨other, later, remaining, equality, results, stopped, divided,
    far⟩ := arrives
  refine ⟨other, later, remaining, equality, results, stopped, divided, ?_⟩
  simp only [List.length_cons]
  omega

theorem Arrives.here
    {items others : List Item}
    {read : EStateM.Result Failure TokenStream Result}
    (arrives : Arrives allowed related whole parts items others result rest
      read)
    (first second : String) :
    Arrives allowed related whole parts
      (.characters (first ++ second) :: items)
      (.characters first :: .characters second :: others) result rest
      read := by
  obtain ⟨other, later, remaining, equality, results, stopped, divided,
    far⟩ := arrives
  refine ⟨other, later, remaining, equality, results, stopped, divided, ?_⟩
  simp only [List.length_cons]
  omega

/-- A step keeps the states of two scans related, or ends both with related
results. -/
def StepsRelate
    (step : State → Token → Except Failure (Turn State Result))
    (states : State → State → Prop) (related : Result → Result → Prop) :
    Prop :=
  ∀ ⦃token left right turn⦄, states left right →
    step left token = .ok turn →
      ∃ other, step right token = .ok other ∧
        Turn.Corresponds states related turn other

theorem stepsRelate_eq (results : ∀ result, related result result) :
    StepsRelate step Eq related := by
  rintro token left _ turn rfl stepped
  refine ⟨turn, stepped, ?_⟩
  cases turn with
  | again state => exact .again rfl
  | done result => exact .done (results result)

theorem scanItems_cons_arrives
    (steps : StepsRelate step states related)
    (same : whole.trimming = parts.trimming) {item : Item}
    {items others : List Item} (divided : Item.Divided allowed items others)
    (onwards : ∀ {left right}, states left right →
      scan.scanItems expected step whole items left = .ok result rest →
        Arrives allowed related whole parts items others result rest
          (scan.scanItems expected step parts others right))
    {left right : State} (start : states left right)
    (read : scan.scanItems expected step whole (item :: items) left =
      .ok result rest) :
    Arrives allowed related whole parts (item :: items) (item :: others)
      result rest
      (scan.scanItems expected step parts (item :: others) right) := by
  simp only [scan.scanItems] at read ⊢
  rw [← same]
  rcases report : item.read? whole.trimming with _ | fault | token
  · rw [report] at read
    exact (onwards start read).cons item
  · rw [report] at read
    cases read
  · rw [report] at read
    dsimp only at read ⊢
    cases stepped : step left token with
    | error failure =>
        rw [stepped] at read
        cases read
    | ok turn =>
        rw [stepped] at read
        obtain ⟨other, otherStepped, turns⟩ := steps start stepped
        rw [otherStepped]
        cases turns with
        | again later => exact (onwards later read).cons item
        | done results =>
            cases read
            refine ⟨_, items, others, rfl, results, rfl, divided, ?_⟩
            simp only [List.length_cons]
            omega

theorem scanItems_same_arrives
    (steps : StepsRelate step states related)
    (same : whole.trimming = parts.trimming) (items : List Item)
    {left right : State} (start : states left right)
    (read : scan.scanItems expected step whole items left =
      .ok result rest) :
    Arrives allowed related whole parts items items result rest
      (scan.scanItems expected step parts items right) := by
  induction items generalizing left right with
  | nil => cases read
  | cons item items inductionHypothesis =>
      exact scanItems_cons_arrives steps same (.same items)
        inductionHypothesis start read

/-- A scan that takes every text goes on behind a divided one as it does behind
the whole text, if its states are related there. -/
theorem scanItems_arrives
    (push : String → State → State)
    (texts : ∀ content state,
      step state (.text content) = .ok (.again (push content state)))
    (steps : StepsRelate step states related)
    (same : whole.trimming = parts.trimming)
    (results : ∀ result, related result result)
    (divides : ∀ {first second} state, allowed first second → first ≠ "" →
      second ≠ "" →
        states (absorb push whole.trimming (first ++ second) state)
          (absorb push whole.trimming second
            (absorb push whole.trimming first state)))
    {items others : List Item} (divided : Item.Divided allowed items others)
    {state : State}
    (read : scan.scanItems expected step whole items state =
      .ok result rest) :
    Arrives allowed related whole parts items others result rest
      (scan.scanItems expected step parts others state) := by
  induction divided generalizing state with
  | same items =>
      exact scanItems_same_arrives (stepsRelate_eq results) same items rfl
        read
  | behindFault cause items others => cases read
  | cons item divided inductionHypothesis =>
      refine scanItems_cons_arrives (stepsRelate_eq results) same divided
        ?_ rfl read
      rintro left _ rfl others
      exact inductionHypothesis others
  | here allows something somethingElse items =>
      rw [scanItems_characters push texts] at read
      rw [scanItems_characters push texts, scanItems_characters push texts,
        ← same]
      exact (scanItems_same_arrives steps same items
        (divides state allows something somethingElse) read).here _ _

end Scans

/-! ## Readers that withstand division -/

section Readers

variable (allowed : String → String → Prop)
  {Left Right LeftNext RightNext : Type} {related : Left → Right → Prop}
  {relatedNext : LeftNext → RightNext → Prop}

/-- What the first reader reads from the stream, the second one reads from the
divided stream, up to the relation, and comes at least as far. -/
def WithstandsAt
    (related : Left → Right → Prop) (left : Cursor Left)
    (right : Cursor Right) (whole parts : TokenStream) : Prop :=
  ∀ ⦃result rest⦄, left whole = .ok result rest →
    ∃ other remaining, right parts = .ok other remaining ∧
      related result other ∧ rest.Divided allowed remaining ∧
      remaining.size + whole.size ≤ parts.size + rest.size

/-- Wherever the text is divided, what the first reader reads from the stream the
second one reads from the divided stream, up to the relation. -/
def Withstands
    (related : Left → Right → Prop) (left : Cursor Left)
    (right : Cursor Right) : Prop :=
  ∀ ⦃whole parts⦄, whole.Divided allowed parts →
    WithstandsAt allowed related left right whole parts

variable {allowed} {left : Cursor Left} {right : Cursor Right}
  {leftNext : Left → Cursor LeftNext} {rightNext : Right → Cursor RightNext}

theorem WithstandsAt.bind
    {whole parts : TokenStream}
    (first : WithstandsAt allowed related left right whole parts)
    (second : ∀ ⦃result other rest remaining⦄,
      left whole = .ok result rest → right parts = .ok other remaining →
        related result other → rest.Divided allowed remaining →
          WithstandsAt allowed relatedNext (leftNext result)
            (rightNext other) rest remaining) :
    WithstandsAt allowed relatedNext (left >>= leftNext)
      (right >>= rightNext) whole parts := by
  intro last stop succeeded
  obtain ⟨result, middle, read, concluded⟩ := bind_eq_ok_iff.mp succeeded
  obtain ⟨other, remaining, otherRead, results, divided, far⟩ := first read
  obtain ⟨lastOther, lastRemaining, otherConcluded, lastResults, stops,
    farther⟩ := second read otherRead results divided concluded
  refine ⟨lastOther, lastRemaining, ?_, lastResults, stops, by omega⟩
  rw [bind_of_ok otherRead, otherConcluded]

namespace Withstands

theorem pure
    {result : Left} {other : Right} (results : related result other) :
    Withstands allowed related (Pure.pure result) (Pure.pure other) := by
  intro whole parts divided value rest succeeded
  cases succeeded
  exact ⟨other, parts, rfl, results, divided, by omega⟩

theorem of_fails
    (fails : ∀ stream result rest, left stream ≠ .ok result rest) :
    Withstands allowed related left right :=
  fun whole _ _ result rest succeeded =>
    absurd succeeded (fails whole result rest)

theorem mono
    {weaker : Left → Right → Prop}
    (withstands : Withstands allowed related left right)
    (weakened : ∀ result other, related result other → weaker result other) :
    Withstands allowed weaker left right := by
  intro whole parts divided result rest read
  obtain ⟨other, remaining, others, results, later, far⟩ :=
    withstands divided read
  exact ⟨other, remaining, others, weakened result other results, later, far⟩

theorem bind
    (first : Withstands allowed related left right)
    (second : ∀ result other, related result other →
      Withstands allowed relatedNext (leftNext result) (rightNext other)) :
    Withstands allowed relatedNext (left >>= leftNext)
      (right >>= rightNext) :=
  fun _ _ divided =>
    (first divided).bind fun result other _ _ _ _ results stops =>
      second result other results stops

theorem repeating
    {LeftState RightState : Type} {states : LeftState → RightState → Prop}
    {leftTurn : LeftState → Cursor (Turn LeftState Left)}
    {rightTurn : RightState → Cursor (Turn RightState Right)}
    {leftState : LeftState} {rightState : RightState}
    (start : states leftState rightState)
    (turns : ∀ left right, states left right →
      Withstands allowed (Turn.Corresponds states related) (leftTurn left)
        (rightTurn right)) :
    Withstands allowed related (Cursor.repeating leftTurn leftState)
      (Cursor.repeating rightTurn rightState) := by
  intro whole parts divided result rest succeeded
  have repeats := repeating_eq_ok_iff.mp succeeded
  clear succeeded
  induction repeats generalizing rightState parts with
  | done read =>
      obtain ⟨turn, remaining, otherRead, decided, stops, far⟩ :=
        turns _ _ start divided read
      cases decided with
      | done results =>
          exact ⟨_, remaining, repeating_of_done otherRead, results, stops,
            far⟩
  | again read progress _ inductionHypothesis =>
      obtain ⟨turn, remaining, otherRead, decided, stops, far⟩ :=
        turns _ _ start divided read
      cases decided with
      | again later =>
          have otherProgress : remaining.size < parts.size := by omega
          obtain ⟨other, last, others, results, lastStops, farther⟩ :=
            inductionHypothesis later stops
          refine ⟨other, last, ?_, results, lastStops, by omega⟩
          rw [repeating_of_again otherRead otherProgress, others]

end Withstands

end Readers

/-! ## Steps that withstand division -/

variable {allowed : String → String → Prop}

theorem scan_withstands
    {State Result : Type} {expected : String}
    {step : State → Token → Except Failure (Turn State Result)}
    {related : Result → Result → Prop}
    (push : String → State → State) (states : State → State → Prop)
    (texts : ∀ content state,
      step state (.text content) = .ok (.again (push content state)))
    (steps : StepsRelate step states related)
    (results : ∀ result, related result result)
    (divides : ∀ {first second} state, allowed first second →
      states (absorb push true (first ++ second) state)
        (absorb push true second (absorb push true first state)))
    (state : State) :
    Withstands allowed related (scan expected step state)
      (scan expected step state) := by
  intro whole parts divided result rest read
  obtain ⟨other, later, remaining, equality, results, rfl, stops, far⟩ :=
    scanItems_arrives push texts steps
      (divided.trimming.trans divided.partsTrimming.symm) results
      (fun state allows _ _ => by
        rw [divided.trimming]
        exact divides state allows)
      divided.items read
  exact ⟨other, _, equality, results, divided.withItems stops, far⟩

/-- A scan that is not concerned with texts withstands their division. -/
theorem scan_passing_withstands
    {State Result : Type} {expected : String}
    {step : State → Token → Except Failure (Turn State Result)}
    (passes : ∀ state content,
      step state (.text content) = .ok (.again state))
    (state : State) :
    Withstands allowed Eq (scan expected step state)
      (scan expected step state) := by
  refine scan_withstands (fun _ state => state) Eq
    (fun content state => passes state content)
    (stepsRelate_eq fun _ => rfl) (fun _ => rfl) (fun state _ => ?_) state
  simp only [absorb, ite_self]

theorem firstReport?_characters (content : String) (rest : List Item) :
    firstReport? true (.characters content :: rest) =
      if Text.trim content = "" then firstReport? true rest
      else some (.ok (.text (Text.trim content)), rest) := by
  rw [firstReport?, Item.read?_characters_trimmed]
  by_cases blank : Text.trim content = ""
  · rw [if_pos blank, if_pos blank]
  · rw [if_neg blank, if_neg blank]

/-- What is reported first of divided items, unless it is a text, is reported
first of the items as they were. -/
theorem firstReport?_of_divided
    {items others : List Item} (divided : Item.Divided allowed items others)
    {token : Token} {rest : List Item}
    (reported : firstReport? true items = some (.ok token, rest)) :
    (∃ content other remaining, token = .text content ∧
      (∃ item ∈ items.head?, item.IsCharacters) ∧
        firstReport? true others = some (.ok (.text other), remaining)) ∨
      ∃ remaining, firstReport? true others = some (.ok token, remaining) ∧
        Item.Divided allowed rest remaining ∧
          remaining.length + items.length ≤ others.length + rest.length := by
  induction divided with
  | same items =>
      exact Or.inr ⟨rest, reported, .same rest, Nat.add_comm _ _ |>.le⟩
  | behindFault cause items others => cases reported
  | @cons item whole parts divided inductionHypothesis =>
      rw [firstReport?] at reported ⊢
      rcases report : item.read? true with _ | report
      · rw [report] at reported
        have characters : item.IsCharacters := by
          cases item with
          | token delivered => cases report
          | characters content => exact ⟨content, rfl⟩
          | fault cause => cases report
        rcases inductionHypothesis reported with
          ⟨content, other, remaining, text, _, others⟩ |
          ⟨remaining, others, later, far⟩
        · exact Or.inl ⟨content, other, remaining, text,
            ⟨item, rfl, characters⟩, others⟩
        · refine Or.inr ⟨remaining, others, later, ?_⟩
          simp only [List.length_cons]
          omega
      · rw [report] at reported
        cases reported
        refine Or.inr ⟨parts, rfl, divided, ?_⟩
        simp only [List.length_cons]
        omega
  | @here first second allows something somethingElse items =>
      rw [firstReport?_characters] at reported
      rw [firstReport?_characters, firstReport?_characters]
      by_cases blank : Text.trim (first ++ second) = ""
      · obtain ⟨blankFirst, blankSecond⟩ :=
          Text.trim_append_eq_empty_iff.mp blank
        rw [if_pos blank] at reported
        rw [if_pos blankFirst, if_pos blankSecond]
        refine Or.inr ⟨rest, reported, .same rest, ?_⟩
        simp only [List.length_cons]
        omega
      · rw [if_neg blank] at reported
        cases reported
        have head :
            ∃ item ∈ (Item.characters (first ++ second) :: rest).head?,
              item.IsCharacters := ⟨_, rfl, first ++ second, rfl⟩
        by_cases blankFirst : Text.trim first = ""
        · have presentSecond : Text.trim second ≠ "" :=
            fun blankSecond => blank
              (Text.trim_append_eq_empty_iff.mpr ⟨blankFirst, blankSecond⟩)
          rw [if_pos blankFirst, if_neg presentSecond]
          exact Or.inl ⟨_, _, _, rfl, head, rfl⟩
        · rw [if_neg blankFirst]
          exact Or.inl ⟨_, _, _, rfl, head, rfl⟩

theorem firstReport?_eq_none_of_divided
    {items others : List Item} (divided : Item.Divided allowed items others)
    (nothing : firstReport? true items = none) :
    firstReport? true others = none ∧ items.length ≤ others.length := by
  induction divided with
  | same items => exact ⟨nothing, Nat.le_refl _⟩
  | behindFault cause items others => cases nothing
  | @cons item whole parts divided inductionHypothesis =>
      rw [firstReport?] at nothing ⊢
      rcases report : item.read? true with _ | report
      · rw [report] at nothing
        obtain ⟨others, far⟩ := inductionHypothesis nothing
        exact ⟨others, Nat.succ_le_succ far⟩
      · rw [report] at nothing
        cases nothing
  | @here first second allows something somethingElse items =>
      rw [firstReport?_characters] at nothing
      rw [firstReport?_characters, firstReport?_characters]
      by_cases blank : Text.trim (first ++ second) = ""
      · obtain ⟨blankFirst, blankSecond⟩ :=
          Text.trim_append_eq_empty_iff.mp blank
        rw [if_pos blank] at nothing
        rw [if_pos blankFirst, if_pos blankSecond]
        refine ⟨nothing, ?_⟩
        simp only [List.length_cons]
        omega
      · rw [if_neg blank] at nothing
        cases nothing

/-- To look at a token is to consume it and to put it back. -/
theorem peek_eq_ok_iff
    {stream rest : TokenStream} {token : Option Token} :
    peek stream = .ok token rest ↔
      ∃ after : TokenStream, next stream = .ok token after ∧
        rest = { after with
          items := token.toList.map Item.token ++ after.items } := by
  rw [peek, next]
  split
  case h_1 | h_3 =>
    constructor
    · rintro ⟨⟩
      exact ⟨_, rfl, rfl⟩
    · rintro ⟨_, ⟨⟩, rfl⟩
      rfl
  case h_2 =>
    constructor
    · rintro ⟨⟩
    · rintro ⟨_, ⟨⟩, _⟩

section Looks

variable {whole parts rest : TokenStream} {token : Option Token}
  (divided : whole.Divided allowed parts)

include divided

/-- The run that meets a text on the whole stream meets a text on the divided
one. -/
theorem peek_text_of_divided
    {content : String}
    (looked : peek whole = .ok (some (.text content)) rest) :
    ∃ other remaining,
      peek parts = .ok (some (.text other)) remaining := by
  rw [peek, divided.trimming] at looked
  rw [peek, divided.partsTrimming]
  split at looked
  case h_1 delivered items reported =>
    cases looked
    rcases firstReport?_of_divided divided.items reported with
      ⟨_, other, remaining, _, _, others⟩ | ⟨remaining, others, _, _⟩
    · exact ⟨other, _, by rw [others]⟩
    · exact ⟨content, _, by rw [others]⟩
  case h_2 => cases looked
  case h_3 => cases looked

variable
  (markup : (∀ content, token ≠ some (.text content)) ∨ whole.AtMarkup)

include markup

theorem next_of_divided (read : next whole = .ok token rest) :
    ∃ remaining, next parts = .ok token remaining ∧
      rest.Divided allowed remaining ∧
        remaining.size + whole.size ≤ parts.size + rest.size := by
  rw [next, divided.trimming] at read
  rw [next, divided.partsTrimming]
  split at read
  case h_1 delivered items reported =>
    cases read
    rcases firstReport?_of_divided divided.items reported with
      ⟨content, other, remaining, text, ⟨item, first, characters⟩, _⟩ |
      ⟨remaining, others, later, far⟩
    · rcases markup with noText | atMarkup
      · exact absurd (congrArg some text) (noText content)
      · exact absurd characters (atMarkup item first)
    · rw [others]
      exact ⟨_, rfl, divided.withItems later, far⟩
  case h_2 => cases read
  case h_3 nothing =>
    cases read
    obtain ⟨others, far⟩ :=
      firstReport?_eq_none_of_divided divided.items nothing
    rw [others]
    refine ⟨_, rfl, divided.withItems (.same []), ?_⟩
    simpa only [TokenStream.size, List.length_nil, Nat.zero_add,
      Nat.add_zero] using far

theorem peek_of_divided (looked : peek whole = .ok token rest) :
    ∃ remaining, peek parts = .ok token remaining ∧
      rest.Divided allowed remaining ∧
        remaining.size + whole.size ≤ parts.size + rest.size := by
  obtain ⟨after, read, rfl⟩ := peek_eq_ok_iff.mp looked
  obtain ⟨remaining, otherRead, stops, far⟩ :=
    next_of_divided divided markup read
  refine ⟨_, peek_eq_ok_iff.mpr ⟨remaining, otherRead, rfl⟩,
    stops.withItems (stops.items.append_left _), ?_⟩
  simp only [TokenStream.size, List.length_append] at far ⊢
  omega

end Looks

section Drops

variable {stops : Token → Bool} {whole parts rest : TokenStream}
  (divided : whole.Divided allowed parts)

include divided

theorem dropItems_cons_arrives
    {item : Item} {items others : List Item}
    (later : Item.Divided allowed items others)
    (onwards : dropUntil.dropItems stops whole items = .ok () rest →
      Arrives allowed Eq whole parts items others () rest
        (dropUntil.dropItems stops parts others))
    (read : dropUntil.dropItems stops whole (item :: items) = .ok () rest) :
    Arrives allowed Eq whole parts (item :: items) (item :: others) () rest
      (dropUntil.dropItems stops parts (item :: others)) := by
  simp only [dropUntil.dropItems] at read ⊢
  have same : parts.trimming = whole.trimming :=
    divided.partsTrimming.trans divided.trimming.symm
  rw [same]
  rcases report : item.read? whole.trimming with _ | fault | token
  · rw [report] at read
    exact (onwards read).cons item
  · rw [report] at read
    cases read
  · rw [report] at read
    by_cases stop : stops token
    · simp only [if_pos stop] at read ⊢
      cases read
      refine ⟨(), _, _, rfl, rfl, rfl, .cons _ later, ?_⟩
      simp only [List.length_cons]
      omega
    · simp only [if_neg stop] at read ⊢
      exact (onwards read).cons item

theorem dropItems_same_arrives
    (items : List Item)
    (read : dropUntil.dropItems stops whole items = .ok () rest) :
    Arrives allowed Eq whole parts items items () rest
      (dropUntil.dropItems stops parts items) := by
  induction items with
  | nil =>
      cases read
      exact ⟨(), [], [], rfl, rfl, rfl, .same [], Nat.le_refl _⟩
  | cons item items inductionHypothesis =>
      exact dropItems_cons_arrives divided (.same items) inductionHypothesis
        read

omit divided in
theorem dropItems_characters
    (passes : ∀ content, stops (.text content) = false)
    (stream : TokenStream) (content : String) (others : List Item) :
    dropUntil.dropItems stops stream (.characters content :: others) =
      dropUntil.dropItems stops stream others := by
  rw [dropUntil.dropItems]
  rcases reports_characters stream.trimming content with
    ⟨_, dropped⟩ | ⟨_, reported⟩
  · rw [dropped]
  · rw [reported]
    simp only [passes, Bool.false_eq_true, if_false]

theorem dropItems_arrives
    (passes : ∀ content, stops (.text content) = false)
    {items others : List Item} (later : Item.Divided allowed items others)
    (read : dropUntil.dropItems stops whole items = .ok () rest) :
    Arrives allowed Eq whole parts items others () rest
      (dropUntil.dropItems stops parts others) := by
  induction later with
  | same items => exact dropItems_same_arrives divided items read
  | behindFault cause items others => cases read
  | cons item later inductionHypothesis =>
      exact dropItems_cons_arrives divided later inductionHypothesis read
  | here allows something somethingElse items =>
      rw [dropItems_characters passes] at read
      rw [dropItems_characters passes, dropItems_characters passes]
      exact (dropItems_same_arrives divided items read).here _ _

end Drops

theorem dropUntil_withstands
    {stops : Token → Bool}
    (passes : ∀ content, stops (.text content) = false) :
    Withstands allowed Eq (dropUntil stops) (dropUntil stops) := by
  intro whole parts divided result rest read
  obtain ⟨other, later, remaining, equality, results, rfl, stopped, far⟩ :=
    dropItems_arrives divided passes divided.items read
  exact ⟨other, _, equality, results, divided.withItems stopped, far⟩

theorem peekStartTag_withstands :
    Withstands allowed Eq peekStartTag peekStartTag := by
  refine fun whole parts divided => ?_
  have dropping :=
    @dropUntil_withstands allowed Token.isStartTag (fun _ => rfl) whole parts
      divided
  refine dropping.bind fun _ _ rest remaining dropped _ _ stops => ?_
  have looking : WithstandsAt allowed Eq peek peek rest remaining :=
    fun token after looked =>
      let ⟨last, others, later, far⟩ := peek_of_divided stops
        (Or.inr (atMarkup_of_dropUntil dropped)) looked
      ⟨token, last, others, rfl, later, far⟩
  refine looking.bind fun token other _ _ _ _ same later => ?_
  subst same
  split
  · exact Withstands.pure rfl later
  · exact Withstands.pure rfl later

end Cursor

end WsTrust
