import WsTrust.Text.Ascii
import WsTrust.Uri.Parts

/-!
# Hosts of a URI reference

A host is a registered name, or an address in square brackets: an IPv6
address or an address of a future version.
-/

namespace WsTrust.Uri

open WsTrust.Text

/-- Letters, digits, `-`, `.`, `_` and `~`. -/
def isUnreserved (c : Char) : Bool :=
  isLetter c || isDigit c || c == '-' || c == '.' || c == '_' || c == '~'

def isSubDelimiter (c : Char) : Bool :=
  "!$&'()*+,;=".toList.contains c

/-- Whether each character is allowed or begins an escape, which is a percent
sign with two hexadecimal digits. -/
def isEscaped (allowed : Char → Bool) : List Char → Bool
  | [] => true
  | '%' :: high :: low :: rest =>
      isHexDigit high && isHexDigit low && isEscaped allowed rest
  | c :: rest => c != '%' && allowed c && isEscaped allowed rest

/-- A number up to 255 in decimal without a leading zero. -/
def isOctet : List Char → Bool
  | [units] => isDigit units
  | [tens, units] => '1' ≤ tens && isDigit tens && isDigit units
  | ['1', tens, units] => isDigit tens && isDigit units
  | ['2', '5', units] => isDigit units && units ≤ '5'
  | ['2', tens, units] => isDigit tens && tens ≤ '4' && isDigit units
  | _ => false

def isFourthVersion (characters : List Char) : Bool :=
  let octets := characters.splitOn '.'
  octets.length == 4 && octets.all isOctet

def isGroup (characters : List Char) : Bool :=
  1 ≤ characters.length && characters.length ≤ 4 &&
    characters.all isHexDigit

/-- The parts between colons, none for an empty text. -/
def colonParts (characters : List Char) : List (List Char) :=
  if characters.isEmpty then [] else characters.splitOn ':'

/-- The number of groups that the parts of an address stand for, if they are
groups.  The last part may be an address of version four, which counts twice. -/
def groupCount? : List (List Char) → Option Nat
  | [] => some 0
  | [last] =>
      if isGroup last then some 1
      else if isFourthVersion last then some 2
      else none
  | first :: rest =>
      if isGroup first then
        (groupCount? rest).map (· + 1)
      else
        none

/-- What stands before and after the first double colon. -/
def splitAtGap? : List Char → Option (List Char × List Char)
  | ':' :: ':' :: rest => some ([], rest)
  | [] => none
  | c :: rest =>
      (splitAtGap? rest).map fun (before, after) => (c :: before, after)

/-- An IPv6 address: eight groups, or fewer with one double colon in the place
of those left out. -/
def isSixthVersion (characters : List Char) : Bool :=
  match splitAtGap? characters with
  | none => groupCount? (colonParts characters) == some 8
  | some (before, after) =>
      (colonParts before).all isGroup &&
        (groupCount? (colonParts after)).any fun count =>
          (colonParts before).length + count < 8

/-- An address of a future version: `v`, a version in hexadecimal, a dot and
the address. -/
def isFutureVersion (characters : List Char) : Bool :=
  match splitFirst? '.' characters with
  | none => false
  | some (version, address) =>
      !version.isEmpty && version.all isHexDigit && !address.isEmpty &&
        address.all fun c => isUnreserved c || isSubDelimiter c || c == ':'

def isHost (characters : List Char) : Bool :=
  if characters.head? == some '[' && 2 ≤ characters.length &&
      characters.getLast? == some ']' then
    match characters.tail.dropLast with
    | 'v' :: future => isFutureVersion future
    | 'V' :: future => isFutureVersion future
    | address => isSixthVersion address
  else
    isEscaped (fun c => isUnreserved c || isSubDelimiter c) characters

end WsTrust.Uri
