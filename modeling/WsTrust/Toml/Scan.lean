/-!
# Scanning a configuration text

A scan reads a value from the front of a text or fails.  A choice between two
scans begins the second one where the first began, and a repetition goes on
for as long as it makes progress, so every scan ends.
-/

namespace WsTrust.Toml

abbrev Scan := StateT (List Char) Option

namespace Scan

variable {Result : Type}

/-- Consumes the next character, which has to pass the test. -/
def satisfying (accepts : Char → Bool) : Scan Char
  | [] => none
  | c :: rest => if accepts c then some (c, rest) else none

def accept (expected : Char) : Scan Unit := do
  let _ ← satisfying (· == expected)

def acceptAll (expected : List Char) : Scan Unit := fun characters =>
  if expected.isPrefixOf characters then
    some ((), characters.drop expected.length)
  else
    none

/-- The next character, which is not consumed. -/
def ahead? : Scan (Option Char) := fun characters =>
  some (characters.head?, characters)

/-- Consumes the characters up to the first one that fails the test. -/
def takeWhile (accepts : Char → Bool) : Scan (List Char) := fun characters =>
  some (characters.takeWhile accepts, characters.dropWhile accepts)

def atEnd : Scan Unit
  | [] => some ((), [])
  | _ :: _ => none

def attempt (scan : Scan Result) : Scan (Option Result) := fun characters =>
  match scan characters with
  | some (result, rest) => some (some result, rest)
  | none => some (none, characters)

/-- What the scan reads when it is repeated until it fails or consumes
nothing, with what is left after that. -/
def repeatedFrom (scan : Scan Result) (characters : List Char) :
    List Result × List Char :=
  match scan characters with
  | none => ([], characters)
  | some (result, rest) =>
      if rest.length < characters.length then
        let (results, last) := repeatedFrom scan rest
        (result :: results, last)
      else
        ([], characters)
termination_by characters.length

/-- Repeats the scan until it fails or consumes nothing. -/
def repeated (scan : Scan Result) : Scan (List Result) := fun characters =>
  some (repeatedFrom scan characters)

/-- Reads one or more items between which the given character stands. -/
def separated (mark : Char) (scan : Scan Result) : Scan (List Result) := do
  let first ← scan
  let others ← repeated (do accept mark; scan)
  return first :: others

end Scan

/-! ## Blanks, line ends and comments -/

def isBlank (c : Char) : Bool :=
  c == ' ' || c == '\t'

/-- Characters that may stand in a line besides what delimits a text: tabs, and
all others that are no control characters. -/
def isLineCharacter (c : Char) : Bool :=
  c == '\t' || (0x20 ≤ c.toNat && c.toNat != 0x7F)

def blanks : Scan Unit := do
  let _ ← Scan.takeWhile isBlank

/-- Reads the end of a line, which is not the end of the text. -/
def newLine : Scan Unit :=
  Scan.acceptAll ['\n'] <|> Scan.acceptAll ['\r', '\n']

def comment : Scan Unit := do
  Scan.accept '#'
  let _ ← Scan.takeWhile isLineCharacter

/-- Reads the rest of a line that may have a comment, up to the end of the line
or of the text. -/
def lineEnd : Scan Unit := do
  blanks
  let _ ← Scan.attempt comment
  newLine <|> Scan.atEnd

def gap : Scan Unit := do
  let _ ← Scan.repeated (do
    blanks
    let _ ← Scan.attempt comment
    newLine)
  blanks

end WsTrust.Toml
