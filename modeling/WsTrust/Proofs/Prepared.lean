import WsTrust.Cursor

/-!
# Prepared tokens under a cursor

A stream of prepared tokens delivers them as they stand, whatever way it
reports characters.  Each step of a cursor therefore has one equation for every
form that the next token can have.
-/

namespace WsTrust

/-! ## Streams that hold tokens -/

namespace TokenStream

def withTokens (stream : TokenStream) (tokens : List Token) : TokenStream :=
  { stream with items := tokens.map Item.token }

/-- The stream holds exactly these tokens, all of which are delivered as they
stand. -/
def Holds (stream : TokenStream) (tokens : List Token) : Prop :=
  stream.items = tokens.map Item.token

theorem holds_withTokens (stream : TokenStream) (tokens : List Token) :
    (stream.withTokens tokens).Holds tokens := rfl

theorem holds_ofTokens (tokens : List Token) :
    (ofTokens tokens).Holds tokens := rfl

theorem Holds.eq_withTokens
    {stream : TokenStream} {tokens : List Token}
    (held : stream.Holds tokens) :
    stream = stream.withTokens tokens := by
  cases stream
  simp_all [Holds, withTokens]

@[simp]
theorem holds_withTokens_iff
    (stream : TokenStream) (tokens others : List Token) :
    (stream.withTokens tokens).Holds others ↔ tokens = others := by
  have injective : ∀ left right, Item.token left = Item.token right →
      left = right := by
    intro left right equality
    exact Item.token.inj equality
  exact List.map_inj_right injective

@[simp]
theorem size_withTokens (stream : TokenStream) (tokens : List Token) :
    (stream.withTokens tokens).size = tokens.length := by
  simp [size, withTokens]

theorem Holds.size_eq
    {stream : TokenStream} {tokens : List Token}
    (held : stream.Holds tokens) :
    stream.size = tokens.length := by
  rw [held.eq_withTokens, size_withTokens]

def withVerbatim (stream : TokenStream) (verbatim : Bool) : TokenStream :=
  { stream with verbatim }

end TokenStream

namespace Cursor

variable {Result Other State : Type}

/-! ## Sequences of readings -/

theorem bind_of_ok
    {reader : Cursor Result} {next : Result → Cursor Other}
    {stream rest : TokenStream} {result : Result}
    (read : reader stream = .ok result rest) :
    (reader >>= next) stream = next result rest := by
  simp only [bind, EStateM.bind, read]

theorem bind_of_error
    {reader : Cursor Result} {next : Result → Cursor Other}
    {stream rest : TokenStream} {failure : Failure}
    (failed : reader stream = .error failure rest) :
    (reader >>= next) stream = .error failure rest := by
  simp only [bind, EStateM.bind, failed]

/-- A sequence of two readings succeeds exactly when both do, the second
where the first one stopped. -/
theorem bind_eq_ok_iff
    {reader : Cursor Result} {next : Result → Cursor Other}
    {stream rest : TokenStream} {other : Other} :
    (reader >>= next) stream = .ok other rest ↔
      ∃ result middle,
        reader stream = .ok result middle ∧
          next result middle = .ok other rest := by
  constructor
  · intro succeeded
    cases first : reader stream with
    | ok result middle =>
        rw [bind_of_ok first] at succeeded
        exact ⟨result, middle, rfl, succeeded⟩
    | error failure middle =>
        rw [bind_of_error first] at succeeded
        cases succeeded
  · rintro ⟨result, middle, first, second⟩
    rw [bind_of_ok first, second]

theorem map_eq_bind (change : Result → Other) (reader : Cursor Result) :
    change <$> reader = reader >>= fun result => pure (change result) := by
  rfl

/-- A changed reading succeeds exactly when the reading does. -/
theorem map_eq_ok_iff
    {change : Result → Other} {reader : Cursor Result}
    {stream rest : TokenStream} {other : Other} :
    (change <$> reader) stream = .ok other rest ↔
      ∃ result, reader stream = .ok result rest ∧ change result = other := by
  rw [map_eq_bind, bind_eq_ok_iff]
  constructor
  · rintro ⟨result, middle, first, second⟩
    cases second
    exact ⟨result, first, rfl⟩
  · rintro ⟨result, first, rfl⟩
    exact ⟨result, rest, first, rfl⟩

/-- A changed reading fails exactly when the reading does. -/
theorem map_eq_error_iff
    {change : Result → Other} {reader : Cursor Result}
    {stream rest : TokenStream} {failure : Failure} :
    (change <$> reader) stream = .error failure rest ↔
      reader stream = .error failure rest := by
  rw [map_eq_bind]
  cases read : reader stream with
  | ok result middle =>
      rw [bind_of_ok read]
      exact ⟨nofun, nofun⟩
  | error cause middle => rw [bind_of_error read]; simp

/-! ## Repeated readings -/

section Repetition

variable {turn : State → Cursor (Turn State Result)} {state later : State}
  {stream middle rest : TokenStream} {result : Result}

theorem repeating_of_done
    (read : turn state stream = .ok (.done result) rest) :
    repeating turn state stream = .ok result rest := by
  rw [repeating, read]

theorem repeating_of_again
    (read : turn state stream = .ok (.again later) middle)
    (progress : middle.size < stream.size) :
    repeating turn state stream = repeating turn later middle := by
  rw [repeating, read]
  simp only [if_pos progress]

theorem repeating_of_error
    {failure : Failure}
    (failed : turn state stream = .error failure rest) :
    repeating turn state stream = .error failure rest := by
  rw [repeating, failed]

theorem repeating_of_stuck
    (read : turn state stream = .ok (.again later) middle)
    (stuck : ¬ middle.size < stream.size) :
    repeating turn state stream = .error (.fault .noProgress) middle := by
  rw [repeating, read]
  simp only [if_neg stuck]

end Repetition

/-- Turns that succeed one after another, of which all but the last make
progress and ask for another one. -/
inductive Repeats (turn : State → Cursor (Turn State Result)) :
    State → TokenStream → Result → TokenStream → Prop
  | done {state : State} {stream rest : TokenStream} {result : Result}
      (read : turn state stream = .ok (.done result) rest) :
      Repeats turn state stream result rest
  | again {state later : State} {stream middle rest : TokenStream}
      {result : Result}
      (read : turn state stream = .ok (.again later) middle)
      (progress : middle.size < stream.size)
      (others : Repeats turn later middle result rest) :
      Repeats turn state stream result rest

/-- A repeated reading succeeds by finitely many turns, since each of them
leaves fewer items. -/
theorem repeating_eq_ok_iff
    {turn : State → Cursor (Turn State Result)} {state : State}
    {stream rest : TokenStream} {result : Result} :
    repeating turn state stream = .ok result rest ↔
      Repeats turn state stream result rest := by
  constructor
  · intro succeeded
    induction bound : stream.size using Nat.strongRecOn
      generalizing state stream with
    | _ size inductionHypothesis =>
        subst bound
        cases read : turn state stream with
        | error failure middle =>
            rw [repeating_of_error read] at succeeded
            cases succeeded
        | ok turned middle =>
            cases turned with
            | done value =>
                rw [repeating_of_done read] at succeeded
                cases succeeded
                exact .done read
            | again later =>
                by_cases progress : middle.size < stream.size
                · rw [repeating_of_again read progress] at succeeded
                  exact .again read progress
                    (inductionHypothesis _ progress succeeded rfl)
                · rw [repeating_of_stuck read progress] at succeeded
                  cases succeeded
  · intro turns
    induction turns with
    | done read => exact repeating_of_done read
    | again read progress _ inductionHypothesis =>
        rw [repeating_of_again read progress, inductionHypothesis]

/-! ## Verbatim text -/

section Verbatim

variable {Result : Type} {reader : Cursor Result}
  {stream rest : TokenStream}

theorem verbatim_of_ok
    {result : Result}
    (read : reader (stream.withVerbatim true) = .ok result rest) :
    verbatim reader stream = .ok result (rest.withVerbatim false) := by
  have read' :
      reader { stream with verbatim := true } = .ok result rest := read
  rw [verbatim, read']
  rfl

theorem verbatim_of_error
    {failure : Failure}
    (failed : reader (stream.withVerbatim true) = .error failure rest) :
    verbatim reader stream = .error failure (rest.withVerbatim false) := by
  have failed' :
      reader { stream with verbatim := true } = .error failure rest := failed
  rw [verbatim, failed']
  rfl

/-- A reading of verbatim text succeeds exactly when it does so once text is
reported verbatim. -/
theorem verbatim_eq_ok_iff {result : Result} :
    verbatim reader stream = .ok result rest ↔
      ∃ after,
        reader (stream.withVerbatim true) = .ok result after ∧
          rest = after.withVerbatim false := by
  constructor
  · intro succeeded
    cases read : reader (stream.withVerbatim true) with
    | ok value after =>
        rw [verbatim_of_ok read] at succeeded
        cases succeeded
        exact ⟨after, rfl, rfl⟩
    | error failure after =>
        rw [verbatim_of_error read] at succeeded
        cases succeeded
  · rintro ⟨after, read, rfl⟩
    exact verbatim_of_ok read

end Verbatim

/-! ## Single tokens -/

variable (stream : TokenStream)

@[simp]
theorem next_nil :
    next (stream.withTokens []) = .ok none (stream.withTokens []) := rfl

@[simp]
theorem next_cons (token : Token) (tokens : List Token) :
    next (stream.withTokens (token :: tokens)) =
      .ok (some token) (stream.withTokens tokens) := rfl

@[simp]
theorem peek_nil :
    peek (stream.withTokens []) = .ok none (stream.withTokens []) := rfl

@[simp]
theorem peek_cons (token : Token) (tokens : List Token) :
    peek (stream.withTokens (token :: tokens)) =
      .ok (some token) (stream.withTokens (token :: tokens)) := rfl

/-! ## Scanning tokens -/

/-- Of the stream that it reads from, a scan uses only the way characters
are reported. -/
theorem scanItems_withItems
    (expected : String)
    (step : State → Token → Except Failure (Turn State Result))
    (others items : List Item) (state : State) :
    scan.scanItems expected step { stream with items := others } items
        state =
      scan.scanItems expected step stream items state := by
  induction items generalizing state with
  | nil => rfl
  | cons item rest inductionHypothesis =>
      simp only [scan.scanItems]
      have sameTrimming :
          ({ stream with items := others } : TokenStream).trimming =
            stream.trimming := rfl
      rw [sameTrimming]
      cases item.read? stream.trimming with
      | none => exact inductionHypothesis state
      | some report =>
          cases report with
          | error fault => rfl
          | ok token =>
              simp only
              cases step state token with
              | error failure => rfl
              | ok turn =>
                  cases turn with
                  | again state => exact inductionHypothesis state
                  | done result => rfl

/-- Where a token is reported, a scan succeeds exactly when its step asks for
the others and they are scanned, or when it is done. -/
theorem scanItems_eq_ok_iff
    {expected : String}
    {step : State → Token → Except Failure (Turn State Result)}
    {stream rest : TokenStream} {item : Item} {items : List Item}
    {token : Token} {state : State} {result : Result}
    (reported : item.read? stream.trimming = some (.ok token)) :
    scan.scanItems expected step stream (item :: items) state =
        .ok result rest ↔
      (∃ later, step state token = .ok (.again later) ∧
        scan.scanItems expected step stream items later =
          .ok result rest) ∨
      (step state token = .ok (.done result) ∧
        { stream with items } = rest) := by
  simp only [scan.scanItems, reported]
  cases step state token with
  | error failure => simp
  | ok turn => cases turn <;> simp

theorem scanItems_withTokens
    (expected : String)
    (step : State → Token → Except Failure (Turn State Result))
    (tokens : List Token) (items : List Item) (state : State) :
    scan.scanItems expected step (stream.withTokens tokens) items state =
      scan.scanItems expected step stream items state :=
  scanItems_withItems stream expected step (tokens.map Item.token) items state

@[simp]
theorem scan_nil
    (expected : String)
    (step : State → Token → Except Failure (Turn State Result))
    (state : State) :
    scan expected step state (stream.withTokens []) =
      .error (.fault (.streamExhausted expected)) (stream.withTokens []) :=
  rfl

/-- A scan goes on, ends or fails as its step decides on the next token. -/
theorem scan_cons
    (expected : String)
    (step : State → Token → Except Failure (Turn State Result))
    (state : State) (token : Token) (tokens : List Token) :
    scan expected step state (stream.withTokens (token :: tokens)) =
      match step state token with
      | .ok (.again later) =>
          scan expected step later (stream.withTokens tokens)
      | .ok (.done result) => .ok result (stream.withTokens tokens)
      | .error failure => .error failure (stream.withTokens tokens) := by
  have unfolded :
      scan expected step state (stream.withTokens (token :: tokens)) =
        match step state token with
        | .ok (.again later) =>
            scan.scanItems expected step
              (stream.withTokens (token :: tokens))
              (tokens.map Item.token) later
        | .ok (.done result) => .ok result (stream.withTokens tokens)
        | .error failure => .error failure (stream.withTokens tokens) := rfl
  have continued (later : State) :
      scan expected step later (stream.withTokens tokens) =
        scan.scanItems expected step
          (stream.withTokens (token :: tokens))
          (tokens.map Item.token) later := by
    rw [scanItems_withTokens stream expected step (token :: tokens)]
    exact scanItems_withTokens stream expected step tokens
      (tokens.map Item.token) later
  rw [unfolded]
  cases step state token with
  | error failure => rfl
  | ok turn =>
      cases turn with
      | again later => exact (continued later).symm
      | done result => rfl

/-- Dropping stops before the first token that passes the test. -/
@[simp]
theorem dropUntil_withTokens (stops : Token → Bool) (tokens : List Token) :
    dropUntil stops (stream.withTokens tokens) =
      .ok () (stream.withTokens (tokens.dropWhile fun token =>
        !stops token)) := by
  have dropped (items : List Token) :
      dropUntil.dropItems stops (stream.withTokens tokens)
          (items.map Item.token) =
        .ok () (stream.withTokens (items.dropWhile fun token =>
          !stops token)) := by
    induction items with
    | nil => rfl
    | cons token rest inductionHypothesis =>
        simp only [List.map_cons, dropUntil.dropItems, Item.read?]
        by_cases stop : stops token
        · simp [stop, TokenStream.withTokens]
        · simpa [stop] using inductionHypothesis
  exact dropped tokens

end Cursor

end WsTrust
