import WsTrust.Proofs.Texts

/-!
# How a reader fails

A reader refuses tokens if it fails on them, whatever follows, in one way and at
one place.
-/

namespace WsTrust.Cursor

variable {Result Other State : Type}

/-- On these tokens, whatever follows them, the reader fails in this way, where
of the tokens `left` are left. -/
def Refuses
    (reader : Cursor Result) (tokens : List Token)
    (failure : Failure) (left : List Token) : Prop :=
  ∀ (stream : TokenStream) (rest : List Token),
    ∃ after : TokenStream,
      reader (stream.withTokens (tokens ++ rest)) =
        .error failure (after.withTokens (left ++ rest))

section Sequences

variable {reader later : Cursor Result} {tokens more left : List Token}
  {failure : Failure}

theorem Becomes.refuses
    (first : Becomes reader tokens later more)
    (second : Refuses later more failure left) :
    Refuses reader tokens failure left := by
  intro stream rest
  obtain ⟨middle, firstEq⟩ := first stream rest
  obtain ⟨after, secondEq⟩ := second middle rest
  exact ⟨after, firstEq.trans secondEq⟩

namespace Refuses

theorem append
    (refused : Refuses reader tokens failure left) (more : List Token) :
    Refuses reader (tokens ++ more) failure (left ++ more) := by
  intro stream rest
  simpa only [List.append_assoc] using refused stream (more ++ rest)

theorem bind
    (refused : Refuses reader tokens failure left)
    (next : Result → Cursor Other) :
    Refuses (reader >>= next) tokens failure left := by
  intro stream rest
  obtain ⟨after, equality⟩ := refused stream rest
  exact ⟨after, bind_of_error equality⟩

theorem holds
    (refused : Refuses reader tokens failure left)
    (stream : TokenStream) (rest : List Token) :
    ∃ stop : TokenStream,
      reader (stream.withTokens (tokens ++ rest)) = .error failure stop ∧
        stop.Holds (left ++ rest) := by
  obtain ⟨after, equality⟩ := refused stream rest
  exact ⟨_, equality, after.holds_withTokens _⟩

theorem fails (refused : Refuses reader tokens failure left) :
    Fails reader tokens := by
  intro stream rest
  obtain ⟨after, equality⟩ := refused stream rest
  exact ⟨failure, _, equality⟩

theorem refuse (fault : Fault) (tokens : List Token) :
    Refuses (Cursor.refuse fault : Cursor Result) tokens
      (.fault fault) tokens :=
  fun stream _ => ⟨stream, rfl⟩

theorem raise (error : ParseError) (tokens : List Token) :
    Refuses (Cursor.raise error : Cursor Result) tokens
      (.parse error) tokens :=
  fun stream _ => ⟨stream, rfl⟩

end Refuses

end Sequences

/-! ## Scans and turns -/

section Scans

variable {tokens left : List Token} {failure : Failure}

theorem scan_refuses
    {expected : String}
    {step : State → Token → Except Failure (Turn State Result)}
    {state : State} {token : Token}
    (refused : step state token = .error failure) :
    Refuses (scan expected step state) [token] failure [] := by
  intro stream rest
  refine ⟨stream, ?_⟩
  rw [List.cons_append, List.nil_append, scan_cons, refused]

theorem verbatim_refuses
    {reader : Cursor Result}
    (refused : Refuses reader tokens failure left) :
    Refuses (verbatim reader) tokens failure left := by
  intro stream rest
  obtain ⟨after, equality⟩ := refused (stream.withVerbatim true) rest
  have failed :
      reader ((stream.withTokens (tokens ++ rest)).withVerbatim true) =
        .error failure (after.withTokens (left ++ rest)) := equality
  exact ⟨after.withVerbatim false, verbatim_of_error failed⟩

theorem repeating_refuses
    {turn : State → Cursor (Turn State Result)} {state : State}
    (refused : Refuses (turn state) tokens failure left) :
    Refuses (repeating turn state) tokens failure left := by
  intro stream rest
  obtain ⟨after, equality⟩ := refused stream rest
  exact ⟨after, repeating_of_error equality⟩

end Scans

/-! ## Text that is required -/

section RequiredText

variable (within what : String)

theorem elementText_refuses
    (texts : List String) (tag : StartTag) :
    Refuses (elementText within) (texts.map Token.text ++ [.startTag tag])
      (.parse (.textOnly within tag.localName)) [] := by
  rw [elementText_eq_scan]
  have joined := joinText_becomes within "" texts [.startTag tag]
  exact joined.refuses (scan_refuses rfl)

/-- A tag in the place of a required text is refused before it is consumed. -/
theorem requiredText_refuses_tag
    {token : Token} (noText : token.isText = false) :
    Refuses (requiredText within what) [token]
      (.parse (.missingText what)) [token] := by
  have looked : Becomes (requiredText within what) [token]
      (if token.isText then
        elementText within >>= requirePresent what
      else
        raise (.missingText what)) [token] :=
    hasTextAhead_becomes [] _ token
  rw [noText] at looked
  exact looked.refuses (Refuses.raise _ _)

theorem requiredText_refuses_blank
    {texts : List String} (blank : Text.trim (String.join texts) = "")
    (name : QName) :
    ∃ left, Refuses (requiredText within what)
      (texts.map Token.text ++ [.endTag name])
      (.parse (.missingText what)) left := by
  cases texts with
  | nil => exact ⟨_, requiredText_refuses_tag within what rfl⟩
  | cons head tail =>
      have looked := requiredText_of_text within what head
        (tail.map Token.text ++ [.endTag name])
      have read := elementText_reads within (head :: tail) name
      have reached := read.becomes (requirePresent what) []
      rw [blank, List.append_nil] at reached
      exact ⟨_, looked.refuses (reached.refuses (Refuses.raise _ _))⟩

theorem requiredText_refuses_element
    (head : String) (tail : List String) (tag : StartTag) :
    Refuses (requiredText within what)
      ((head :: tail).map Token.text ++ [.startTag tag])
      (.parse (.textOnly within tag.localName)) [] := by
  have looked := requiredText_of_text within what head
    (tail.map Token.text ++ [.startTag tag])
  have refused := elementText_refuses within (head :: tail) tag
  exact looked.refuses (refused.bind _)

end RequiredText

end WsTrust.Cursor
