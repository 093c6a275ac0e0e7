import WsTrust.Text.Numeral

/-!
# References and escaping

Inside text and attribute values a reference stands for one character: five
names are known, and a character can be given by its number.  Escaping writes
the five characters that have a name by that name, and reading the references
of an escaped text gives the text back.
-/

namespace WsTrust.Xml

open WsTrust.Text

def byteLength : List Char → Nat
  | [] => 0
  | c :: rest => c.utf8Size + byteLength rest

/-! ## Escaping -/

def escapeChar (c : Char) : List Char :=
  if c = '<' then "&lt;".toList
  else if c = '>' then "&gt;".toList
  else if c = '&' then "&amp;".toList
  else if c = '\x27' then "&apos;".toList
  else if c = '\x22' then "&quot;".toList
  else [c]

def escape (characters : List Char) : List Char :=
  characters.flatMap escapeChar

/-! ## Reading references -/

inductive CodepointFlaw where
  | unexpectedSign
  | numeral (flaw : NumeralFlaw)
  | notACodepoint (number : Nat)
  | notPermitted
  deriving DecidableEq, Repr

def CodepointFlaw.message : CodepointFlaw → String
  | .unexpectedSign => "unexpected number sign"
  | .numeral flaw => flaw.message
  | .notACodepoint number =>
      "\x60" ++ toString number ++ "\x60 is not a valid codepoint"
  | .notPermitted => "0x0 character is not permitted in XML"

/-- Why a text has a reference that cannot be read.  Ranges count bytes from the
start of the text. -/
inductive ReferenceFlaw where
  /-- No semicolon follows the ampersand before the next ampersand. -/
  | unterminated (first last : Nat)
  /-- The name between ampersand and semicolon is none of the five. -/
  | unknownName (first last : Nat) (name : String)
  /-- The number gives no character. -/
  | invalidNumber (flaw : CodepointFlaw)
  deriving DecidableEq, Repr

def ReferenceFlaw.message : ReferenceFlaw → String
  | .unterminated first last =>
      "Error while escaping character at range " ++ toString first ++ ".." ++
        toString last ++ ": Cannot find ';' after '&'"
  | .unknownName first last name =>
      "at " ++ toString first ++ ".." ++ toString last ++
        ": unrecognized entity \x60" ++ name ++ "\x60"
  | .invalidNumber flaw =>
      "invalid character reference: " ++ flaw.message

def namedCharacter? (name : List Char) : Option Char :=
  if name = "lt".toList then some '<'
  else if name = "gt".toList then some '>'
  else if name = "amp".toList then some '&'
  else if name = "apos".toList then some '\x27'
  else if name = "quot".toList then some '\x22'
  else none

/-- The number written by digits of a radix, which may have no sign. -/
def readCodepoint (radix : Nat) (digits : List Char) :
    Except CodepointFlaw Nat :=
  match digits.head? with
  | some '+' => .error .unexpectedSign
  | some '-' => .error .unexpectedSign
  | _ =>
      match readUnsigned radix 4294967296 digits with
      | .ok number => .ok number
      | .error flaw => .error (.numeral flaw)

/-- The character that a number stands for: decimal digits, or hexadecimal
ones after a lower-case `x`. -/
def numberedCharacter (numeral : List Char) : Except CodepointFlaw Char :=
  let number :=
    match numeral with
    | 'x' :: digits => readCodepoint 16 digits
    | digits => readCodepoint 10 digits
  match number with
  | .error flaw => .error flaw
  | .ok number =>
      if number = 0 then
        .error .notPermitted
      else if Nat.isValidChar number then
        .ok (Char.ofNat number)
      else
        .error (.notACodepoint number)

/-- The character that the text between an ampersand, at the byte offset
`first`, and its semicolon stands for. -/
def referenceCharacter (first : Nat) (body : List Char) :
    Except ReferenceFlaw Char :=
  match body with
  | '#' :: numeral =>
      match numberedCharacter numeral with
      | .ok character => .ok character
      | .error flaw => .error (.invalidNumber flaw)
  | name =>
      match namedCharacter? name with
      | some character => .ok character
      | none =>
          .error (.unknownName (first + 1) (first + 1 + byteLength name)
            (String.ofList name))

/-- Whether a character ends the search for the semicolon of a reference. -/
def endsReference (c : Char) : Bool :=
  c == '&' || c == ';'

/-- Replaces the references in the rest of a text of `total` bytes; the rest
begins at the byte `offset`.  Between two ampersands a lone semicolon is an
ordinary character. -/
def unescapeFrom (total offset : Nat) (characters : List Char) :
    Except ReferenceFlaw (List Char) :=
  match characters with
  | [] => .ok []
  | c :: rest =>
      if c = '&' then
        let body := rest.takeWhile (!endsReference ·)
        match _ : rest.dropWhile (!endsReference ·) with
        | ';' :: afterwards =>
            match referenceCharacter offset body with
            | .error flaw => .error flaw
            | .ok character =>
                let next := offset + byteLength body + 2
                match unescapeFrom total next afterwards with
                | .ok unescaped => .ok (character :: unescaped)
                | .error flaw => .error flaw
        | _ => .error (.unterminated offset total)
      else
        match unescapeFrom total (offset + c.utf8Size) rest with
        | .ok unescaped => .ok (c :: unescaped)
        | .error flaw => .error flaw
termination_by characters.length
decreasing_by
  · have shorter :=
      (List.dropWhile_suffix (!endsReference ·) (l := rest)).length_le
    simp_all only [List.length_cons]
    omega
  · simp

def unescape (characters : List Char) : Except ReferenceFlaw (List Char) :=
  unescapeFrom (byteLength characters) 0 characters

end WsTrust.Xml
