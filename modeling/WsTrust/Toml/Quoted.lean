import WsTrust.Text.Ascii
import WsTrust.Toml.Scan

/-!
# Quoted texts

Texts in quotation marks know escapes, texts in apostrophes are taken as they
stand.  Three marks in a row enclose a text of several lines, which may begin
with a line end that is not part of it and may end with up to two marks that
are.
-/

namespace WsTrust.Toml

open Scan

/-- The character whose number is written by exactly `count` hexadecimal
digits. -/
def numberedCharacter (count : Nat) : Scan Char := fun characters =>
  let digits := (characters.take count).filterMap Text.hexValue?
  let number := digits.foldl (fun number digit => 16 * number + digit) 0
  if digits.length = count ∧ number.isValidChar then
    some (Char.ofNat number, characters.drop count)
  else
    none

def escapedCharacter : Scan Char := do
  accept '\\'
  match ← satisfying fun _ => true with
  | 'b' => return '\x08'
  | 't' => return '\t'
  | 'n' => return '\n'
  | 'f' => return '\x0c'
  | 'r' => return '\r'
  | '\x22' => return '\x22'
  | '\\' => return '\\'
  | 'u' => numberedCharacter 4
  | 'U' => numberedCharacter 8
  | _ => failure

def plainCharacter (mark : Char) (knowsEscapes : Bool) : Scan Char :=
  satisfying fun c =>
    isLineCharacter c && c != mark && !(knowsEscapes && c == '\\')

def character (mark : Char) (knowsEscapes : Bool) : Scan Char :=
  if knowsEscapes then
    plainCharacter mark true <|> escapedCharacter
  else
    plainCharacter mark false

def lineText (mark : Char) (knowsEscapes : Bool) : Scan String := do
  accept mark
  let content ← repeated (character mark knowsEscapes)
  accept mark
  return String.ofList content

/-! ## Several lines -/

/-- A backslash at the end of a line, which joins the line with the next one
that is not blank. -/
def joinedLines : Scan (List Char) := do
  accept '\\'
  blanks
  newLine
  let _ ← repeated (do blanks; newLine)
  blanks
  return []

def loneMark (mark : Char) : Scan (List Char) := fun characters =>
  if [mark, mark, mark].isPrefixOf characters then
    none
  else
    (accept mark characters).map fun (_, rest) => ([mark], rest)

def linesPart (mark : Char) (knowsEscapes : Bool) : Scan (List Char) :=
  let common :=
    List.singleton <$> character mark knowsEscapes <|>
      (do newLine; return ['\n']) <|> loneMark mark
  if knowsEscapes then joinedLines <|> common else common

/-- The end of a text of several lines: three marks, after up to two that
belong to the text. -/
def linesEnd (mark : Char) : Scan (List Char) :=
  let closing (inner : Nat) : Scan (List Char) := do
    acceptAll (List.replicate (inner + 3) mark)
    return List.replicate inner mark
  closing 2 <|> closing 1 <|> closing 0

/-- A text of several lines, between three marks on each side. -/
def linesText (mark : Char) (knowsEscapes : Bool) : Scan String := do
  acceptAll [mark, mark, mark]
  let _ ← attempt newLine
  let content ← repeated (linesPart mark knowsEscapes)
  let last ← linesEnd mark
  return String.ofList (content.flatten ++ last)

/-- A text of one line, in either kind of marks. -/
def lineQuoted : Scan String :=
  lineText '\x22' true <|> lineText '\x27' false

def quoted : Scan String :=
  linesText '\x22' true <|> linesText '\x27' false <|> lineQuoted

end WsTrust.Toml
