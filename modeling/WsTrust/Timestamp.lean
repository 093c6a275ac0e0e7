import WsTrust.Calendar
import WsTrust.Text.Blank
import WsTrust.Uri.Parts

/-!
# Timestamps

A timestamp is kept as text and interpreted only on demand.  There are two
readings: the strict one of RFC 3339, which has an offset from universal time,
and a lenient one without an offset, which is taken for universal time.
-/

namespace WsTrust

/-- A date and time, as it was written. -/
structure Timestamp where
  text : String
  deriving DecidableEq, Repr, Inhabited

namespace Timestamp

open Calendar

/-! ## Digits -/

def valueOfDigits (digits : List Char) : Nat :=
  digits.foldl (fun value c => value * 10 + (c.toNat - '0'.toNat)) 0

/-- Reads exactly `count` digits. -/
def fixedDigits? (count : Nat) (characters : List Char) :
    Option (Nat × List Char) :=
  let digits := characters.take count
  if digits.length = count ∧ digits.all Uri.isDigit then
    some (valueOfDigits digits, characters.drop count)
  else
    none

/-- Reads at least one digit and at most `limit`. -/
def someDigits? (limit : Nat) (characters : List Char) :
    Option (Nat × List Char) :=
  let digits := (characters.take limit).takeWhile Uri.isDigit
  if digits.isEmpty then
    none
  else
    some (valueOfDigits digits, characters.drop digits.length)

def expect? (accepts : Char → Bool) : List Char → Option (List Char)
  | [] => none
  | c :: rest => if accepts c then some rest else none

/-- Reads an optional fraction of a second, as nanoseconds.  Digits after the
ninth are ignored. -/
def fraction? : List Char → Option (Nat × List Char)
  | '.' :: rest =>
      let digits := rest.takeWhile Uri.isDigit
      if digits.isEmpty then
        none
      else
        let kept := digits.take 9
        some (valueOfDigits kept * Nat.pow 10 (9 - kept.length),
          rest.dropWhile Uri.isDigit)
  | characters => some (0, characters)

/-! ## The strict reading -/

/-- Reads an offset from universal time, in seconds: `Z`, or a sign with hours and
minutes.  The minus sign may be the typographic one. -/
def offset? : List Char → Option (Int × List Char)
  | 'Z' :: rest => some (0, rest)
  | 'z' :: rest => some (0, rest)
  | sign :: rest => do
      let direction ←
        if sign = '+' then some 1
        else if sign = '-' ∨ sign = '\u2212' then some (-1)
        else none
      let (hours, rest) ← fixedDigits? 2 rest
      let rest ← expect? (· == ':') rest
      let (minutes, rest) ← fixedDigits? 2 rest
      if hours < 24 ∧ minutes < 60 then
        some (direction * (hours * 3600 + minutes * 60 : Nat), rest)
      else
        none
  | [] => none

def readStrict? (characters : List Char) : Option Instant := do
  let (year, rest) ← fixedDigits? 4 characters
  let rest ← expect? (· == '-') rest
  let (month, rest) ← fixedDigits? 2 rest
  let rest ← expect? (· == '-') rest
  let (day, rest) ← fixedDigits? 2 rest
  let rest ← expect? (fun c => c == 'T' || c == 't' || c == ' ') rest
  let (hour, rest) ← fixedDigits? 2 rest
  let rest ← expect? (· == ':') rest
  let (minute, rest) ← fixedDigits? 2 rest
  let rest ← expect? (· == ':') rest
  let (second, rest) ← fixedDigits? 2 rest
  let (nanoseconds, rest) ← fraction? rest
  let (offset, rest) ← offset? rest
  if rest.isEmpty then
    DateTime.toInstant?
      { year, month, day, hour, minute, second, nanoseconds } offset
  else
    none

/-! ## The lenient reading -/

/-- Reads a number of one or two digits, after any blanks. -/
def looseNumber? (characters : List Char) : Option (Nat × List Char) :=
  someDigits? 2 (Text.trimStart characters)

/-- Reads a year, after any blanks: one to four digits, or a sign with any
number of digits. -/
def looseYear? (characters : List Char) : Option (Int × List Char) :=
  match Text.trimStart characters with
  | '-' :: rest => do
      let (year, rest) ← someDigits? rest.length rest
      some (-(year : Int), rest)
  | '+' :: rest => do
      let (year, rest) ← someDigits? rest.length rest
      some ((year : Int), rest)
  | rest => do
      let (year, rest) ← someDigits? 4 rest
      some ((year : Int), rest)

def readLenient? (characters : List Char) : Option Instant := do
  let (year, rest) ← looseYear? characters
  let rest ← expect? (· == '-') rest
  let (month, rest) ← looseNumber? rest
  let rest ← expect? (· == '-') rest
  let (day, rest) ← looseNumber? rest
  let rest ← expect? (· == 'T') rest
  let (hour, rest) ← looseNumber? rest
  let rest ← expect? (· == ':') rest
  let (minute, rest) ← looseNumber? rest
  let rest ← expect? (· == ':') rest
  let (second, rest) ← looseNumber? rest
  let (nanoseconds, rest) ← fraction? rest
  if rest.isEmpty then
    DateTime.toInstant?
      { year, month, day, hour, minute, second, nanoseconds } 0
  else
    none

/-- The instant that a timestamp means, if it has a meaning.  The strict
reading is tried first. -/
def toInstant? (timestamp : Timestamp) : Option Instant :=
  let characters := timestamp.text.toList
  (readStrict? characters).or (readLenient? characters)

end Timestamp

end WsTrust
