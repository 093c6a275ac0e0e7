import WsTrust.Proofs.Fragments

/-!
# Repeated readings over content

The content of an element is read turn by turn.  A turn ignores the texts in
front of it and consumes one part; what the parts before it made of the state is
all that a turn knows of them.
-/

namespace WsTrust.Cursor

variable {State Result Part : Type}

/-! ## Single turns -/

section Turns

variable {turn : State → Cursor (Turn State Result)} {state later : State}
  {tokens : List Token}

theorem repeating_becomes
    (read : Reads (turn state) tokens (.again later))
    (present : tokens ≠ []) (more : List Token) :
    Becomes (repeating turn state) (tokens ++ more)
      (repeating turn later) more := by
  intro stream rest
  obtain ⟨after, equality⟩ := read stream (more ++ rest)
  rw [← List.append_assoc] at equality
  refine ⟨after, ?_⟩
  have progress :
      (after.withTokens (more ++ rest)).size <
        (stream.withTokens (tokens ++ more ++ rest)).size := by
    have positive := List.length_pos_iff.mpr present
    simp only [TokenStream.size_withTokens, List.length_append]
    omega
  exact repeating_of_again equality progress

theorem repeating_reads
    {result : Result}
    (read : Reads (turn state) tokens (.done result)) :
    Reads (repeating turn state) tokens result := by
  intro stream rest
  obtain ⟨after, equality⟩ := read stream rest
  exact ⟨after, repeating_of_done equality⟩

theorem repeating_fails
    (failed : Fails (turn state) tokens) :
    Fails (repeating turn state) tokens := by
  intro stream rest
  obtain ⟨failure, after, equality⟩ := failed stream rest
  exact ⟨failure, after, repeating_of_error equality⟩

end Turns

/-- A turn that looks ahead and is done leaves what it has looked at. -/
theorem repeating_ends
    {turn : State → Cursor (Turn State Result)} {state : State}
    {tokens left : List Token} {result : Result}
    (ended : Becomes (turn state) tokens (pure (.done result)) left) :
    Becomes (repeating turn state) tokens (pure result) left := by
  intro stream rest
  obtain ⟨after, equality⟩ := ended stream rest
  exact ⟨after, repeating_of_done equality⟩

/-! ## Parts of content -/

def Ignores
    (turn : State → Cursor (Turn State Result)) (tokens : List Token) :
    Prop :=
  ∀ (state : State) (left : List Token),
    Becomes (turn state) (tokens ++ left) (turn state) left

namespace Ignores

variable {turn : State → Cursor (Turn State Result)}
  {tokens more : List Token}

theorem nil : Ignores turn [] :=
  fun _ _ => Becomes.refl _ _

theorem append
    (first : Ignores turn tokens) (second : Ignores turn more) :
    Ignores turn (tokens ++ more) := by
  intro state left
  rw [List.append_assoc]
  exact (first state (more ++ left)).trans (second state left)

theorem reads
    (ignored : Ignores turn tokens)
    {state : State} {turned : Turn State Result}
    (read : Reads (turn state) more turned) :
    Reads (turn state) (tokens ++ more) turned :=
  (ignored state more).reads read

theorem fails
    (ignored : Ignores turn tokens) {state : State}
    (failed : Fails (turn state) more) :
    Fails (turn state) (tokens ++ more) :=
  (ignored state more).fails failed

theorem refuses
    (ignored : Ignores turn tokens)
    {state : State} {failure : Failure} {left : List Token}
    (refused : Refuses (turn state) more failure left) :
    Refuses (turn state) (tokens ++ more) failure left :=
  (ignored state more).refuses refused

end Ignores

/-- The tokens make the reader ask for another turn or fail. -/
def CarriesOn
    (reader : Cursor (Turn State Result)) (tokens : List Token) : Prop :=
  (∃ later, Reads reader tokens (.again later)) ∨ Fails reader tokens

namespace CarriesOn

variable {Value : Type} {reader later : Cursor (Turn State Result)}
  {tokens left : List Token}

theorem of_fails (failed : Fails reader tokens) :
    CarriesOn reader tokens :=
  Or.inr failed

theorem becomes
    (second : CarriesOn later left)
    (first : Becomes reader tokens later left) :
    CarriesOn reader tokens := by
  rcases second with ⟨state, read⟩ | failed
  · exact Or.inl ⟨state, first.reads read⟩
  · exact Or.inr (first.fails failed)

theorem of_settles
    {part : Cursor Value}
    (settled : Settles part tokens) (next : Value → State) :
    CarriesOn
      (part >>= fun value => (pure (.again (next value)) :
        Cursor (Turn State Result)))
      tokens := by
  rcases settled with ⟨value, read⟩ | failed
  · exact Or.inl ⟨next value, read.bind_last (Reads.pure _)⟩
  · exact Or.inr (failed.bind _)

end CarriesOn

section Parts

variable {turn : State → Cursor (Turn State Result)}
  (tokensOf : Part → List Token)

/-- A part is taken if its tokens are ignored and it changes nothing, or if any
state is carried on by reading exactly its tokens. -/
def Takes
    (turn : State → Cursor (Turn State Result))
    (next : State → Part → State) (part : Part) : Prop :=
  (Ignores turn (tokensOf part) ∧ ∀ state, next state part = state) ∨
  (tokensOf part ≠ [] ∧
    ∀ state, Reads (turn state) (tokensOf part) (.again (next state part)))

variable {tokensOf}

/-- Parts that are all taken leave the state that they lead to one after
another.  The last of them that are ignored may still be there. -/
theorem repeating_becomes_after_parts
    {next : State → Part → State} {parts : List Part}
    (taken : ∀ part ∈ parts, Takes tokensOf turn next part)
    (state : State) {leading : List Token}
    (leadingIgnored : Ignores turn leading) (more : List Token) :
    ∃ trailing : List Token,
      Ignores turn trailing ∧
      Becomes (repeating turn state)
        (leading ++ (parts.flatMap tokensOf ++ more))
        (repeating turn (parts.foldl next state))
        (trailing ++ more) := by
  induction parts generalizing state leading with
  | nil => exact ⟨leading, leadingIgnored, Becomes.refl _ _⟩
  | cons head tail inductionHypothesis =>
      have tailTaken : ∀ part ∈ tail, Takes tokensOf turn next part :=
        fun part member => taken part (List.mem_cons_of_mem head member)
      rw [List.flatMap_cons, List.append_assoc, List.foldl_cons]
      rcases taken head List.mem_cons_self with
        ⟨ignored, unchanged⟩ | ⟨present, read⟩
      · rw [unchanged, ← List.append_assoc]
        exact inductionHypothesis tailTaken state
          (leadingIgnored.append ignored)
      · obtain ⟨trailing, trailingIgnored, continued⟩ :=
          inductionHypothesis tailTaken (next state head) Ignores.nil
        refine ⟨trailing, trailingIgnored, ?_⟩
        have step := repeating_becomes (leadingIgnored.reads (read state))
          (by simp [present]) (tail.flatMap tokensOf ++ more)
        rw [List.append_assoc] at step
        exact step.trans continued

theorem repeating_reads_parts
    {next : State → Part → State} {parts : List Part}
    (taken : ∀ part ∈ parts, Takes tokensOf turn next part)
    {state : State} {closing : List Token} {result : Result}
    (closed : Reads (turn (parts.foldl next state)) closing
      (.done result)) :
    Reads (repeating turn state)
      (parts.flatMap tokensOf ++ closing) result := by
  obtain ⟨trailing, ignored, reached⟩ :=
    repeating_becomes_after_parts taken state Ignores.nil closing
  exact reached.reads (repeating_reads (ignored.reads closed))

/-- Behind parts that are all taken the next turn decides how the reading
fails. -/
theorem repeating_refuses_after_parts
    {next : State → Part → State} {parts : List Part}
    (taken : ∀ part ∈ parts, Takes tokensOf turn next part)
    {state : State} {tokens left : List Token} {failure : Failure}
    (refused : Refuses (turn (parts.foldl next state)) tokens
      failure left) :
    Refuses (repeating turn state)
      (parts.flatMap tokensOf ++ tokens) failure left := by
  obtain ⟨trailing, ignored, reached⟩ :=
    repeating_becomes_after_parts taken state Ignores.nil tokens
  exact reached.refuses (repeating_refuses (ignored.refuses refused))

/-- Whatever the state, the turn ignores these tokens, or carries on after
exactly these tokens unless it fails on them. -/
def Handles
    (turn : State → Cursor (Turn State Result)) (tokens : List Token) :
    Prop :=
  Ignores turn tokens ∨
    (tokens ≠ [] ∧ ∀ state, CarriesOn (turn state) tokens)

theorem handles_node
    (texts : ∀ content, Handles turn [.text content])
    (elements : ∀ element : Element, Handles turn element.tokens)
    (node : Node) :
    Handles turn node.tokens := by
  cases node with
  | text content => exact texts content
  | element name attributes children =>
      exact elements ⟨name, attributes, children⟩

/-- Parts that are all handled are passed, unless one of them is failed on. -/
theorem repeating_passes_or_fails
    {parts : List Part}
    (handled : ∀ part ∈ parts, Handles turn (tokensOf part))
    (state : State) {leading : List Token}
    (leadingIgnored : Ignores turn leading) :
    (∃ (later : State) (trailing : List Token),
      Ignores turn trailing ∧
      ∀ more, Becomes (repeating turn state)
        (leading ++ (parts.flatMap tokensOf ++ more))
        (repeating turn later) (trailing ++ more)) ∨
    Fails (repeating turn state)
      (leading ++ parts.flatMap tokensOf) := by
  induction parts generalizing state leading with
  | nil =>
      exact Or.inl ⟨state, leading, leadingIgnored,
        fun _ => Becomes.refl _ _⟩
  | cons head tail inductionHypothesis =>
      have continued := inductionHypothesis fun part member =>
        handled part (List.mem_cons_of_mem head member)
      simp only [List.flatMap_cons, List.append_assoc]
      rcases handled head List.mem_cons_self with ignored | ⟨present, each⟩
      · simpa only [List.append_assoc] using
          continued state (leadingIgnored.append ignored)
      · rcases each state with ⟨later, read⟩ | failed
        · have step := fun more =>
            repeating_becomes (leadingIgnored.reads read)
              (by simp [present]) more
          simp only [List.append_assoc] at step
          rcases continued later Ignores.nil with
            ⟨last, trailing, ignored, passed⟩ | failedLater
          · exact Or.inl ⟨last, trailing, ignored,
              fun more => (step _).trans (passed more)⟩
          · exact Or.inr ((step _).fails failedLater)
        · right
          rw [← List.append_assoc]
          exact (repeating_fails (leadingIgnored.fails failed)).append _

/-- If a turn handles every part and settles on what closes them, then the whole
reading settles. -/
theorem repeating_settles_parts
    {parts : List Part}
    (handled : ∀ part ∈ parts, Handles turn (tokensOf part))
    {closing : List Token}
    (closed : ∀ state,
      (∃ result, Reads (turn state) closing (.done result)) ∨
        Fails (turn state) closing)
    (state : State) :
    Settles (repeating turn state) (parts.flatMap tokensOf ++ closing) := by
  rcases repeating_passes_or_fails handled state Ignores.nil with
    ⟨later, trailing, ignored, passed⟩ | failed
  · refine (passed closing).settles ?_
    rcases closed later with ⟨result, read⟩ | failed
    · exact Settles.of_reads (repeating_reads (ignored.reads read))
    · exact Settles.of_fails (repeating_fails (ignored.fails failed))
  · exact Settles.of_fails (failed.append closing)

end Parts

end WsTrust.Cursor
