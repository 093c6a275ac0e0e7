import WsTrust.Calendar
import WsTrust.ConfigValue
import WsTrust.Toml.Scan

/-!
# Dates and times

A date, a time of day, or both with or without an offset.  They are recognised
so that a text is not refused because of one; which moment they mean is of no
use to a setting.
-/

namespace WsTrust.Toml

open Scan

/-- Reads a number of exactly `count` digits. -/
def fixedDigits (count : Nat) : Scan Nat := fun characters =>
  let digits := characters.take count
  if digits.length = count ∧ digits.all Char.isDigit then
    some
      (digits.foldl (fun value c => 10 * value + (c.toNat - '0'.toNat)) 0,
        characters.drop count)
  else
    none

def bounded (least greatest : Nat) : Scan Unit := do
  let value ← fixedDigits 2
  if least ≤ value ∧ value ≤ greatest then
    return
  else
    failure

def date : Scan Unit := do
  let year ← fixedDigits 4
  accept '-'
  let month ← fixedDigits 2
  if month < 1 ∨ 12 < month then
    failure
  else
    accept '-'
    bounded 1 (Calendar.daysInMonth year month)

/-- Reads a time of day, with an optional fraction of a second. -/
def timeOfDay : Scan Unit := do
  bounded 0 23
  accept ':'
  bounded 0 59
  accept ':'
  bounded 0 60
  let _ ← attempt (do
    accept '.'
    let _ ← satisfying Char.isDigit
    Scan.takeWhile Char.isDigit)

def offset : Scan Unit := do
  let first ← satisfying fun c => "Zz+-".toList.contains c
  if first = '+' ∨ first = '-' then
    bounded 0 23
    accept ':'
    bounded 0 59

def moment : Scan ConfigValue := do
  (do
    date
    let _ ← attempt (do
      let _ ← satisfying fun c => "Tt ".toList.contains c
      timeOfDay
      attempt offset)) <|> timeOfDay
  return .moment

end WsTrust.Toml
