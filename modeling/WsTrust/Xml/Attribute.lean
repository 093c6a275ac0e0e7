import WsTrust.Xml.Markup
import WsTrust.Xml.Reference

/-!
# Attributes as written

The part of a start tag after its name is a sequence of keys with quoted
values.  Positions count bytes from the opening bracket of the tag, which is
itself not counted.  No blank is needed between two attributes.
-/

namespace WsTrust.Xml

inductive AttributeFlaw where
  | missingEquals (position : Nat)
  | missingValue (position : Nat)
  | unquotedValue (position : Nat)
  | unclosedValue (position : Nat) (quote : Char)
  | duplicated (position previous : Nat)
  deriving DecidableEq, Repr

def AttributeFlaw.message : AttributeFlaw → String
  | .missingEquals position =>
      "position " ++ toString position ++
        ": attribute key must be directly followed by \x60=\x60 or space"
  | .missingValue position =>
      "position " ++ toString position ++
        ": \x60=\x60 must be followed by an attribute value"
  | .unquotedValue position =>
      "position " ++ toString position ++
        ": attribute value must be enclosed in \x60\x22\x60 or \x60'\x60"
  | .unclosedValue position quote =>
      "position " ++ toString position ++ ": missing closing quote \x60" ++
        String.singleton quote ++ "\x60 in attribute value"
  | .duplicated position previous =>
      "position " ++ toString position ++
        ": duplicated attribute, previous declaration at position " ++
        toString previous

/-- A key with its position, and its value as written or the flaw that is
met in its place. -/
structure RawAttribute where
  position : Nat
  key : List Char
  value : Except AttributeFlaw (List Char)
  deriving Repr

def continuesKey (c : Char) : Bool :=
  c != '=' && !isMarkupBlank c

/-- Reads a quoted value after the equals sign, which ends before the byte
`position`.  Gives the value with the position and the characters that follow
its closing quote. -/
def readValue (position : Nat) (characters : List Char) :
    Except AttributeFlaw (List Char × Nat × List Char) :=
  let start :=
    position + byteLength (characters.takeWhile isMarkupBlank)
  match characters.dropWhile isMarkupBlank with
  | [] => .error (.missingValue start)
  | quote :: rest =>
      if quote = '\x22' ∨ quote = '\x27' then
        let value := rest.takeWhile (· != quote)
        let last := start + 1 + byteLength value
        match rest.dropWhile (· != quote) with
        | [] => .error (.unclosedValue last quote)
        | _ :: after => .ok (value, last + 1, after)
      else
        .error (.unquotedValue start)

theorem length_lt_of_readValue
    {position next : Nat} {characters value after : List Char}
    (read : readValue position characters = .ok (value, next, after)) :
    after.length < characters.length := by
  have blanks :=
    (List.dropWhile_suffix isMarkupBlank (l := characters)).length_le
  unfold readValue at read
  split at read
  · simp at read
  · rename_i quote rest equality
    rw [equality] at blanks
    simp only [List.length_cons] at blanks
    split at read
    · have quoted := (List.dropWhile_suffix (· != quote) (l := rest)).length_le
      split at read
      · simp at read
      · rename_i remaining
        rw [remaining] at quoted
        simp only [Except.ok.injEq, Prod.mk.injEq] at read
        simp only [List.length_cons] at quoted
        rw [← read.2.2]
        omega
    · simp at read

/-- The attributes in the rest of a tag, which begins at the byte `position`.
The sequence ends at the first flaw: one in a value stands in the place of the
value, and a key without an equals sign is no attribute. -/
def rawAttributes (position : Nat) (characters : List Char) :
    Interrupted RawAttribute AttributeFlaw :=
  match _ : characters.dropWhile isMarkupBlank with
  | [] => .done
  | first :: rest =>
      let start :=
        position + byteLength (characters.takeWhile isMarkupBlank)
      let key := first :: rest.takeWhile continuesKey
      let afterKey := rest.dropWhile continuesKey
      let equals :=
        start + byteLength key + byteLength (afterKey.takeWhile isMarkupBlank)
      match _ : afterKey.dropWhile isMarkupBlank with
      | '=' :: afterEquals =>
          match _ : readValue (equals + 1) afterEquals with
          | .error flaw => Interrupted.done.cons ⟨start, key, .error flaw⟩
          | .ok (value, next, after) =>
              (rawAttributes next after).cons ⟨start, key, .ok value⟩
      | _ => .failed (.missingEquals equals)
termination_by characters.length
decreasing_by
  rename_i skipped keyed read
  have blanks :=
    (List.dropWhile_suffix isMarkupBlank (l := characters)).length_le
  have keys := (List.dropWhile_suffix continuesKey (l := rest)).length_le
  have gaps :=
    (List.dropWhile_suffix isMarkupBlank
      (l := rest.dropWhile continuesKey)).length_le
  have values := length_lt_of_readValue read
  rw [skipped] at blanks
  rw [keyed] at gaps
  simp only [List.length_cons] at blanks gaps
  omega

end WsTrust.Xml
