import WsTrust.ConfigValue
import WsTrust.Text.Ascii
import WsTrust.Toml.Scan

/-!
# Numbers

Integers in four radixes, with underscores between digits, and floats.  An
integer has to fit a signed word of 64 bits, and a positive float has to be
finite.
-/

namespace WsTrust.Toml

open Scan

/-- One or more digits, with single underscores between them, which are
dropped. -/
def digits (radix : Nat) : Scan (List Char) := do
  let digit := satisfying fun c => (Text.digitValue? radix c).isSome
  let first ← digit
  let others ← repeated (digit <|> (do accept '_'; digit))
  return first :: others

def valueOf (radix : Nat) (digits : List Char) : Nat :=
  digits.foldl
    (fun value c => radix * value + (Text.digitValue? radix c).getD 0) 0

/-- Whether there is a minus sign; a plus sign says nothing. -/
def sign : Scan Bool := do
  match ← ahead? with
  | some '-' =>
      accept '-'
      return true
  | some '+' =>
      accept '+'
      return false
  | _ => return false

/-- Decimal digits that do not begin with a zero, except for zero itself. -/
def decimalDigits : Scan (List Char) := do
  match ← ahead? with
  | some '0' =>
      accept '0'
      return ['0']
  | _ => digits 10

def wordValue (value : Int) : Scan ConfigValue :=
  if -9223372036854775808 ≤ value ∧ value ≤ 9223372036854775807 then
    return .integer value
  else
    failure

/-- Reads digits of a radix after the letters that announce it. -/
def announced (announcement : String) (radix : Nat) : Scan ConfigValue := do
  acceptAll announcement.toList
  wordValue (valueOf radix (← digits radix))

def decimal : Scan ConfigValue := do
  let isNegative ← sign
  let value : Int := valueOf 10 (← decimalDigits)
  wordValue (if isNegative then -value else value)

def integer : Scan ConfigValue :=
  announced "0x" 16 <|> announced "0o" 8 <|> announced "0b" 2 <|> decimal

/-! ## Floats -/

def exponent : Scan Int := do
  let _ ← satisfying fun c => c == 'e' || c == 'E'
  let isNegative ← sign
  let value : Int := valueOf 10 (← digits 10)
  return if isNegative then -value else value

/-- Whether `mantissa * 10 ^ exponent` is rounded to a finite number of double
precision.  Magnitudes far from the limit are not computed. -/
def isFinite (mantissa : Nat) (exponent : Int) : Bool :=
  let magnitude := (toString mantissa).length + exponent
  if mantissa = 0 ∨ magnitude < 300 then
    true
  else if 320 < magnitude then
    false
  else
    mantissa * Nat.pow 10 exponent.toNat <
      (Nat.pow 2 1024 - Nat.pow 2 970) * Nat.pow 10 (-exponent).toNat

/-- Reads a float with a fraction, an exponent or both. -/
def float : Scan ConfigValue := do
  let isNegative ← sign
  let whole ← decimalDigits
  let fraction ← attempt (do accept '.'; digits 10)
  let scale ← attempt exponent
  let places := fraction.getD []
  if fraction.isNone ∧ scale.isNone then
    failure
  else if isNegative ∨
      isFinite (valueOf 10 (whole ++ places))
        (scale.getD 0 - places.length) then
    return .other
  else
    failure

def specialFloat : Scan ConfigValue := do
  let _ ← sign
  acceptAll "inf".toList <|> acceptAll "nan".toList
  return .other

end WsTrust.Toml
