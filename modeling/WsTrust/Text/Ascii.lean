/-!
# ASCII letters and digits

Comparison of texts that ignores the case of ASCII letters, and the ASCII
digits of a radix up to sixteen.
-/

namespace WsTrust.Text

def equalsIgnoringCase (left right : String) : Bool :=
  left.toList.map Char.toLower == right.toList.map Char.toLower

/-- The value of a hexadecimal digit, of either case. -/
def hexValue? (c : Char) : Option Nat :=
  if '0' ≤ c ∧ c ≤ '9' then
    some (c.toNat - '0'.toNat)
  else if 'a' ≤ c ∧ c ≤ 'f' then
    some (c.toNat - 'a'.toNat + 10)
  else if 'A' ≤ c ∧ c ≤ 'F' then
    some (c.toNat - 'A'.toNat + 10)
  else
    none

/-- The value of a digit of the given radix, which is at most sixteen. -/
def digitValue? (radix : Nat) (c : Char) : Option Nat :=
  (hexValue? c).filter (· < radix)

/-- The hexadecimal digits `0-9`, `a-f` and `A-F`. -/
def isHexDigit (c : Char) : Bool :=
  (hexValue? c).isSome

def hexDigit (value : Nat) : Char :=
  if value < 10 then
    Char.ofNat ('0'.toNat + value)
  else
    Char.ofNat ('a'.toNat + (value - 10))

/-- A digit reads back as the value it was written for. -/
theorem hexValue?_hexDigit
    {value : Nat} (small : value < 16) :
    hexValue? (hexDigit value) = some value := by
  have all : ∀ tested ∈ List.range 16,
      hexValue? (hexDigit tested) = some tested := by
    decide
  exact all value (List.mem_range.mpr small)

end WsTrust.Text
