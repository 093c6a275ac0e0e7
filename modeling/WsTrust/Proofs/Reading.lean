import WsTrust.Proofs.Prepared

/-!
# What a reader does with the tokens before it

A reader meets its own tokens first and knows nothing of those after them.  It
becomes another reader once it has dealt with some of its tokens; it reads a
value from tokens if it consumes exactly these, whatever follows; it fails on
tokens if no continuation can help.  A reader that does one of the last two
has settled on the tokens.
-/

namespace WsTrust.Cursor

variable {Result Other State : Type}

/-! ## Becoming another reader -/

/-- On these tokens, whatever follows them, the reader does what `later` does on
the tokens that are left. -/
def Becomes
    (reader : Cursor Result) (tokens : List Token)
    (later : Cursor Result) (left : List Token) : Prop :=
  ∀ (stream : TokenStream) (rest : List Token),
    ∃ after : TokenStream,
      reader (stream.withTokens (tokens ++ rest)) =
        later (after.withTokens (left ++ rest))

/-- The reader consumes exactly these tokens, whatever follows them, with this
result. -/
def Reads
    (reader : Cursor Result) (tokens : List Token)
    (result : Result) : Prop :=
  ∀ (stream : TokenStream) (rest : List Token),
    ∃ after : TokenStream,
      reader (stream.withTokens (tokens ++ rest)) =
        .ok result (after.withTokens rest)

/-- The reader fails on these tokens, whatever follows them. -/
def Fails (reader : Cursor Result) (tokens : List Token) : Prop :=
  ∀ (stream : TokenStream) (rest : List Token),
    ∃ (failure : Failure) (after : TokenStream),
      reader (stream.withTokens (tokens ++ rest)) = .error failure after

/-- The tokens alone decide whether the reader succeeds, and if it does they are
what it consumes. -/
def Settles (reader : Cursor Result) (tokens : List Token) : Prop :=
  (∃ result, Reads reader tokens result) ∨ Fails reader tokens

namespace Becomes

variable {reader later last : Cursor Result}
  {tokens left remaining : List Token}

theorem refl (reader : Cursor Result) (tokens : List Token) :
    Becomes reader tokens reader tokens :=
  fun stream _ => ⟨stream, rfl⟩

theorem trans
    (first : Becomes reader tokens later left)
    (second : Becomes later left last remaining) :
    Becomes reader tokens last remaining := by
  intro stream rest
  obtain ⟨middle, firstEq⟩ := first stream rest
  obtain ⟨after, secondEq⟩ := second middle rest
  exact ⟨after, firstEq.trans secondEq⟩

/-- More tokens after those that a reader deals with do not change what it
becomes. -/
theorem append
    (first : Becomes reader tokens later left) (more : List Token) :
    Becomes reader (tokens ++ more) later (left ++ more) := by
  intro stream rest
  obtain ⟨after, equality⟩ := first stream (more ++ rest)
  refine ⟨after, ?_⟩
  rwa [List.append_assoc, List.append_assoc]

theorem bind
    (first : Becomes reader tokens later left)
    (next : Result → Cursor Other) :
    Becomes (reader >>= next) tokens (later >>= next) left := by
  intro stream rest
  obtain ⟨after, equality⟩ := first stream rest
  refine ⟨after, ?_⟩
  cases result : later (after.withTokens (left ++ rest)) with
  | ok value stop =>
      rw [bind_of_ok (equality.trans result), bind_of_ok result]
  | error failure stop =>
      rw [bind_of_error (equality.trans result), bind_of_error result]

theorem reads
    {result : Result}
    (first : Becomes reader tokens later left)
    (second : Reads later left result) :
    Reads reader tokens result := by
  intro stream rest
  obtain ⟨middle, firstEq⟩ := first stream rest
  obtain ⟨after, secondEq⟩ := second middle rest
  exact ⟨after, firstEq.trans secondEq⟩

theorem fails
    (first : Becomes reader tokens later left)
    (second : Fails later left) :
    Fails reader tokens := by
  intro stream rest
  obtain ⟨middle, firstEq⟩ := first stream rest
  obtain ⟨failure, after, secondEq⟩ := second middle rest
  exact ⟨failure, after, firstEq.trans secondEq⟩

theorem settles
    (first : Becomes reader tokens later left)
    (second : Settles later left) :
    Settles reader tokens := by
  rcases second with ⟨result, read⟩ | failed
  · exact Or.inl ⟨result, first.reads read⟩
  · exact Or.inr (first.fails failed)

end Becomes

/-! ## Reading a value -/

namespace Reads

variable {reader : Cursor Result} {tokens more : List Token}
  {result : Result}

theorem pure (result : Result) :
    Reads (Pure.pure result) [] result :=
  fun stream _ => ⟨stream, rfl⟩

theorem becomes
    (first : Reads reader tokens result)
    (next : Result → Cursor Other) (more : List Token) :
    Becomes (reader >>= next) (tokens ++ more) (next result) more := by
  intro stream rest
  obtain ⟨after, equality⟩ := first stream (more ++ rest)
  refine ⟨after, ?_⟩
  rw [List.append_assoc, bind_of_ok equality]

theorem bind
    {next : Result → Cursor Other} {other : Other}
    (first : Reads reader tokens result)
    (second : Reads (next result) more other) :
    Reads (reader >>= next) (tokens ++ more) other :=
  (first.becomes next more).reads second

theorem map
    (first : Reads reader tokens result) (change : Result → Other) :
    Reads (change <$> reader) tokens (change result) := by
  rw [map_eq_bind, ← List.append_nil tokens]
  exact first.bind (Reads.pure (change result))

/-- A reading may end with a step that needs no tokens. -/
theorem bind_last
    {next : Result → Cursor Other} {other : Other}
    (first : Reads reader tokens result)
    (second : Reads (next result) [] other) :
    Reads (reader >>= next) tokens other := by
  rw [← List.append_nil tokens]
  exact first.bind second

theorem bind_last_fails
    {next : Result → Cursor Other}
    (first : Reads reader tokens result)
    (second : Fails (next result) []) :
    Fails (reader >>= next) tokens := by
  rw [← List.append_nil tokens]
  exact (first.becomes next []).fails second

/-- Reading a value goes on with the tokens that follow. -/
theorem holds
    (first : Reads reader tokens result)
    {stream : TokenStream} {rest : List Token}
    (held : stream.Holds (tokens ++ rest)) :
    ∃ after : TokenStream,
      reader stream = .ok result after ∧ after.Holds rest := by
  obtain ⟨after, equality⟩ := first stream rest
  refine ⟨after.withTokens rest, ?_, after.holds_withTokens rest⟩
  rw [held.eq_withTokens, equality]

/-- Tokens that a value is read from give this value only, and nothing of what
follows them is consumed. -/
theorem of_ok
    (first : Reads reader tokens result)
    {stream after : TokenStream} {rest : List Token} {value : Result}
    (held : stream.Holds (tokens ++ rest))
    (succeeded : reader stream = .ok value after) :
    value = result ∧ after.Holds rest := by
  obtain ⟨stop, equality, stopped⟩ := first.holds held
  rw [equality] at succeeded
  cases succeeded
  exact ⟨rfl, stopped⟩

end Reads

/-! ## Failing -/

namespace Fails

variable {reader : Cursor Result} {tokens : List Token}

theorem append
    (failed : Fails reader tokens) (more : List Token) :
    Fails reader (tokens ++ more) := by
  intro stream rest
  simpa only [List.append_assoc] using failed stream (more ++ rest)

theorem bind
    (failed : Fails reader tokens) (next : Result → Cursor Other) :
    Fails (reader >>= next) tokens := by
  intro stream rest
  obtain ⟨failure, after, equality⟩ := failed stream rest
  exact ⟨failure, after, bind_of_error equality⟩

theorem map
    (failed : Fails reader tokens) (change : Result → Other) :
    Fails (change <$> reader) tokens := by
  rw [map_eq_bind]
  exact failed.bind _

theorem not_ok
    (failed : Fails reader tokens)
    {stream after : TokenStream} {rest : List Token} {value : Result}
    (held : stream.Holds (tokens ++ rest)) :
    reader stream ≠ .ok value after := by
  intro succeeded
  obtain ⟨failure, stop, equality⟩ := failed stream rest
  rw [held.eq_withTokens, equality] at succeeded
  cases succeeded

theorem refuse (fault : Fault) (tokens : List Token) :
    Fails (Cursor.refuse fault : Cursor Result) tokens :=
  fun _ _ => ⟨.fault fault, _, rfl⟩

theorem raise (error : ParseError) (tokens : List Token) :
    Fails (Cursor.raise error : Cursor Result) tokens :=
  fun _ _ => ⟨.parse error, _, rfl⟩

end Fails

/-! ## Settling -/

namespace Settles

variable {reader : Cursor Result} {tokens more : List Token}

theorem of_reads
    {result : Result} (read : Reads reader tokens result) :
    Settles reader tokens :=
  Or.inl ⟨result, read⟩

theorem of_fails (failed : Fails reader tokens) :
    Settles reader tokens :=
  Or.inr failed

theorem pure (result : Result) :
    Settles (Pure.pure result : Cursor Result) [] :=
  of_reads (Reads.pure result)

theorem bind
    {next : Result → Cursor Other}
    (first : Settles reader tokens)
    (second : ∀ result, Reads reader tokens result →
      Settles (next result) more) :
    Settles (reader >>= next) (tokens ++ more) := by
  rcases first with ⟨result, read⟩ | failed
  · exact (read.becomes next more).settles (second result read)
  · exact of_fails ((failed.bind next).append more)

theorem bind_last
    {next : Result → Cursor Other}
    (first : Settles reader tokens)
    (second : ∀ result, Reads reader tokens result →
      Settles (next result) []) :
    Settles (reader >>= next) tokens := by
  rw [← List.append_nil tokens]
  exact first.bind second

theorem map
    (first : Settles reader tokens) (change : Result → Other) :
    Settles (change <$> reader) tokens := by
  rcases first with ⟨result, read⟩ | failed
  · exact of_reads (read.map change)
  · exact of_fails (failed.map change)

/-- A reader that has settled on tokens and succeeds on a stream that begins
with them leaves exactly what follows. -/
theorem of_ok
    (settled : Settles reader tokens)
    {stream after : TokenStream} {rest : List Token} {value : Result}
    (held : stream.Holds (tokens ++ rest))
    (succeeded : reader stream = .ok value after) :
    Reads reader tokens value ∧ after.Holds rest := by
  rcases settled with ⟨result, read⟩ | failed
  · obtain ⟨rfl, stopped⟩ := read.of_ok held succeeded
    exact ⟨read, stopped⟩
  · exact absurd succeeded (failed.not_ok held)

end Settles

end WsTrust.Cursor
