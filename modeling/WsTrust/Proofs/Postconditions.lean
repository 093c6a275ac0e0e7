import WsTrust.Proofs.Prepared

/-!
# What a successful reading ensures

A reader ensures a property if its result has it whenever the reader succeeds,
on any stream at all: the tokens of the stream need not be nested, and what is
not a token may be characters or a fault.
-/

namespace WsTrust

/-- A turn that asks for another one keeps the invariant, and the result of a
turn that is done has the property. -/
def Turn.Keeps
    {State Result : Type} (invariant : State → Prop)
    (property : Result → Prop) : Turn State Result → Prop
  | .again state => invariant state
  | .done result => property result

/-- The next item of the stream is this token, which is delivered as it
stands. -/
def TokenStream.StartsWith (stream : TokenStream) (token : Token) : Prop :=
  ∃ items, stream.items = .token token :: items

namespace Cursor

variable {Result Other State : Type}

/-- Whenever the reader succeeds its result has the property. -/
def Ensures (reader : Cursor Result) (property : Result → Prop) : Prop :=
  ∀ ⦃stream rest : TokenStream⦄ ⦃result : Result⦄,
    reader stream = .ok result rest → property result

/-! ## Sequences of readings -/

namespace Ensures

variable {reader : Cursor Result} {property stronger : Result → Prop}

theorem pure {result : Result} (holds : property result) :
    Ensures (Pure.pure result) property := by
  intro stream rest value succeeded
  cases succeeded
  exact holds

theorem refuse (fault : Fault) :
    Ensures (Cursor.refuse fault) property := by
  intro stream rest value succeeded
  cases succeeded

theorem raise (error : ParseError) :
    Ensures (Cursor.raise error) property := by
  intro stream rest value succeeded
  cases succeeded

theorem anything (reader : Cursor Result) :
    Ensures reader fun _ => True := by
  intro stream rest value succeeded
  exact trivial

theorem mono
    (ensured : Ensures reader stronger)
    (implied : ∀ result, stronger result → property result) :
    Ensures reader property := by
  intro stream rest value succeeded
  exact implied value (ensured succeeded)

theorem bind
    {next : Result → Cursor Other} {last : Other → Prop}
    (first : Ensures reader property)
    (second : ∀ result, property result → Ensures (next result) last) :
    Ensures (reader >>= next) last := by
  intro stream rest value succeeded
  obtain ⟨result, middle, read, concluded⟩ :=
    bind_eq_ok_iff.mp succeeded
  exact second result (first read) concluded

/-- What comes after a reading may ensure the property whatever was read. -/
theorem bind_anything
    {next : Result → Cursor Other} {last : Other → Prop}
    (second : ∀ result, Ensures (next result) last) :
    Ensures (reader >>= next) last :=
  (anything reader).bind fun result _ => second result

theorem map
    {change : Result → Other} {last : Other → Prop}
    (first : Ensures reader fun result => last (change result)) :
    Ensures (change <$> reader) last := by
  intro stream rest value succeeded
  obtain ⟨result, read, rfl⟩ := map_eq_ok_iff.mp succeeded
  exact first read

end Ensures

/-! ## Scans and repetitions -/

section Loops

variable (invariant : State → Prop) {property : Result → Prop}
  {state : State}

/-- A scan ensures what its step decides under an invariant that it keeps. -/
theorem scan_ensures
    {expected : String}
    {step : State → Token → Except Failure (Turn State Result)}
    (kept : ∀ state, invariant state → ∀ token turn,
      step state token = .ok turn → turn.Keeps invariant property)
    (initial : invariant state) :
    Ensures (scan expected step state) property := by
  intro stream rest result succeeded
  rw [scan] at succeeded
  generalize stream.items = items at succeeded
  induction items generalizing state with
  | nil => cases succeeded
  | cons item others inductionHypothesis =>
      rcases report : item.read? stream.trimming with _ | fault | token
      · simp only [scan.scanItems, report] at succeeded
        exact inductionHypothesis initial succeeded
      · simp only [scan.scanItems, report] at succeeded
        cases succeeded
      · rcases (scanItems_eq_ok_iff report).mp succeeded with
          ⟨later, decided, scanned⟩ | ⟨decided, _⟩
        · exact inductionHypothesis (kept _ initial _ _ decided) scanned
        · exact kept _ initial _ _ decided

/-- A repetition ensures what its last turn does under an invariant that every
turn keeps. -/
theorem repeating_ensures
    {turn : State → Cursor (Turn State Result)}
    (kept : ∀ state, invariant state →
      Ensures (turn state) (Turn.Keeps invariant property))
    (initial : invariant state) :
    Ensures (repeating turn state) property := by
  intro stream rest result succeeded
  have turns := repeating_eq_ok_iff.mp succeeded
  clear succeeded
  induction turns with
  | done read => exact kept _ initial read
  | again read _ _ inductionHypothesis =>
      exact inductionHypothesis (kept _ initial read)

end Loops

/-! ## Looking ahead -/

theorem startsWith_of_peek
    {stream rest : TokenStream} {token : Token}
    (looked : peek stream = .ok (some token) rest) :
    rest.StartsWith token := by
  unfold peek at looked
  split at looked
  · cases looked
    exact ⟨_, rfl⟩
  · cases looked
  · cases looked

theorem startsWith_of_peekBoundary
    {stream rest : TokenStream} {tag : StartTag}
    (looked : peekBoundary stream = .ok (some (.opening tag)) rest) :
    rest.StartsWith (.startTag tag) := by
  obtain ⟨_, dropped, _, looked⟩ := bind_eq_ok_iff.mp looked
  obtain ⟨token, after, peeked, concluded⟩ := bind_eq_ok_iff.mp looked
  have starts := @startsWith_of_peek dropped after
  cases token with
  | none => cases concluded
  | some token =>
      cases token with
      | startTag opening =>
          cases concluded
          exact starts peeked
      | endTag name => cases concluded
      | text content => cases concluded

theorem startsWith_of_peekChild
    {within : String} {stream rest : TokenStream} {tag : StartTag}
    (looked : peekChild within stream = .ok (some tag) rest) :
    rest.StartsWith (.startTag tag) := by
  obtain ⟨boundary, after, seen, concluded⟩ := bind_eq_ok_iff.mp looked
  cases boundary with
  | none => cases concluded
  | some boundary =>
      cases boundary with
      | opening opened =>
          cases concluded
          exact startsWith_of_peekBoundary seen
      | closing name => cases concluded

end Cursor

end WsTrust
