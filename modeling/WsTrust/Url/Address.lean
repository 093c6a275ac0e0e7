import WsTrust.Text.Ascii
import WsTrust.Text.Numeral

/-!
# Addresses of hosts

Numeric hosts: version four as up to four numbers, each decimal, octal or
hexadecimal, and version six as eight groups, of which the longest run of
zeros is left out when it is written.
-/

namespace WsTrust.Url

open WsTrust.Text

/-! ## Version four -/

/-- The value of digits of a radix, if all are. -/
def valueIn? (radix : Nat) (digits : List Char) : Option Nat :=
  digits.foldl
    (fun value c => do
      some ((← value) * radix + (← digitValue? radix c)))
    (some 0)

/-- The value of one number of an address: hexadecimal after `0x`, octal
after another zero, and decimal otherwise. -/
def addressNumber? : List Char → Option Nat
  | [] => none
  | '0' :: 'x' :: digits => valueIn? 16 digits
  | '0' :: 'X' :: digits => valueIn? 16 digits
  | '0' :: second :: digits => valueIn? 8 (second :: digits)
  | digits => valueIn? 10 digits

/-- The parts of a name between dots, without an empty part at the end. -/
def dottedParts (name : List Char) : List (List Char) :=
  let parts := name.splitOn '.'
  if parts.getLast? = some [] ∧ 1 < parts.length then
    parts.dropLast
  else
    parts

/-- Whether a name has to be an address because its last part is a number. -/
def endsInNumber (name : List Char) : Bool :=
  match (dottedParts name).getLast? with
  | none => false
  | some last =>
      !last.isEmpty &&
        (last.all (fun c => (digitValue? 10 c).isSome) ||
          (addressNumber? last).isSome)

/-- The four bytes that numbers stand for, as one number.  The last number
fills all the bytes that are left. -/
def fourthVersion? (name : List Char) : Option Nat := do
  let numbers ← (dottedParts name).mapM addressNumber?
  let last ← numbers.getLast?
  let first := numbers.dropLast
  if numbers.length ≤ 4 ∧ first.all (· ≤ 255) ∧
      last < Nat.pow 256 (4 - first.length) then
    some (first.foldl (fun sum number => sum * 256 + number) 0 *
      Nat.pow 256 (4 - first.length) + last)
  else
    none

def writeFourthVersion (address : Nat) : List Char :=
  ['.'].intercalate
    ([16777216, 65536, 256, 1].map fun weight =>
      Nat.toDigits 10 (address / weight % 256))

/-! ## Version six -/

/-- The groups that one part of an address stands for.  Only the last part may
be an address of version four. -/
def partGroups? (isLast : Bool) (part : List Char) : Option (List Nat) :=
  if part.contains '.' then
    if isLast then
      (fourthVersion? part).map fun address =>
        [address / 65536, address % 65536]
    else
      none
  else if part.isEmpty || 4 < part.length then
    none
  else
    (valueIn? 16 part).map fun group => [group]

/-- The groups of parts, the last of which may be an address of version four. -/
def groupsOfParts? : List (List Char) → Option (List Nat)
  | [] => some []
  | [last] => partGroups? true last
  | first :: rest => do
      return (← partGroups? false first) ++ (← groupsOfParts? rest)

/-- The groups between colons, none for an empty text. -/
def groups? (characters : List Char) : Option (List Nat) :=
  if characters.isEmpty then
    some []
  else
    groupsOfParts? (characters.splitOn ':')

/-- What stands before and after the first double colon. -/
def splitAtDoubleColon? : List Char → Option (List Char × List Char)
  | ':' :: ':' :: rest => some ([], rest)
  | [] => none
  | c :: rest =>
      (splitAtDoubleColon? rest).map fun (before, after) =>
        (c :: before, after)

/-- The eight groups of an address; a double colon stands for as many zeros as
are missing, at least one. -/
def sixthVersion? (characters : List Char) : Option (List Nat) :=
  match splitAtDoubleColon? characters with
  | none => (groups? characters).filter (·.length = 8)
  | some (before, after) => do
      let left ← groups? before
      let right ← groups? after
      let count := left.length + right.length
      if count < 8 then
        some (left ++ List.replicate (8 - count) 0 ++ right)
      else
        none

/-- The position and the length of the first of the longest runs of zeros,
where the groups begin at `position`. -/
def longestZeroRun (position : Nat) : List Nat → Nat × Nat
  | [] => (position, 0)
  | group :: rest =>
      let here := ((group :: rest).takeWhile (· = 0)).length
      let later := longestZeroRun (position + 1) rest
      if later.2 ≤ here then (position, here) else later

def writeGroups (groups : List Nat) : List Char :=
  [':'].intercalate (groups.map (Nat.toDigits 16))

/-- Eight groups in brackets.  The longest run of at least two zeros is
written as a double colon. -/
def writeSixthVersion (groups : List Nat) : List Char :=
  let (position, count) := longestZeroRun 0 groups
  let inner :=
    if 2 ≤ count then
      writeGroups (groups.take position) ++ [':', ':'] ++
        writeGroups (groups.drop (position + count))
    else
      writeGroups groups
  ['['] ++ inner ++ [']']

end WsTrust.Url
