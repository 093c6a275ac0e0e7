import WsTrust.Text.Ascii

/-!
# Bounded numerals

Natural numbers written in a radix, read exactly or refused: a numeral whose
value reaches the bound is an error and never wraps around.  Digits are read
from the left, so of an unknown character and an overflow the one that comes
first decides the error.
-/

namespace WsTrust.Text

/-- Why a text is not a numeral below the bound. -/
inductive NumeralFlaw where
  /-- There is no character at all. -/
  | empty
  /-- A character is no digit of the radix, or a sign stands alone. -/
  | invalidDigit
  /-- The value reaches the bound. -/
  | tooLarge
  deriving DecidableEq, Repr

def NumeralFlaw.message : NumeralFlaw → String
  | .empty => "cannot parse integer from empty string"
  | .invalidDigit => "invalid digit found in string"
  | .tooLarge => "number too large to fit in target type"

/-- Extends `value` by the digits that follow it, staying below `bound`. -/
def readDigits (radix bound : Nat) :
    Nat → List Char → Except NumeralFlaw Nat
  | value, [] => .ok value
  | value, c :: rest =>
      match digitValue? radix c with
      | none => .error .invalidDigit
      | some digit =>
          let extended := value * radix + digit
          if extended < bound then
            readDigits radix bound extended rest
          else
            .error .tooLarge

/-- Reads one or more digits, without a sign. -/
def readUnsigned (radix bound : Nat) :
    List Char → Except NumeralFlaw Nat
  | [] => .error .empty
  | digits => readDigits radix bound 0 digits

/-- Reads one or more decimal digits after an optional plus sign. -/
def readNatural (bound : Nat) :
    List Char → Except NumeralFlaw Nat
  | [] => .error .empty
  | ['+'] => .error .invalidDigit
  | '+' :: digits => readDigits 10 bound 0 digits
  | digits => readDigits 10 bound 0 digits

def wordBound : Nat := 18446744073709551616

end WsTrust.Text
