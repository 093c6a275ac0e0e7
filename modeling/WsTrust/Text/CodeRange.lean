import WsTrust.Text.Ascii

/-!
# Ranges of characters

Sets of characters given by the ranges of their codes.  A set is written as
words with blanks between them: a code in hexadecimal, or the first and the last
code of a range with a hyphen between them.
-/

namespace WsTrust.Text

/-- The characters from the code `first` to the code `last`, both included. -/
structure CodeRange where
  first : Nat
  last : Nat
  deriving DecidableEq, Repr

def CodeRange.contains (range : CodeRange) (c : Char) : Bool :=
  range.first ≤ c.toNat && c.toNat ≤ range.last

def inRanges (ranges : List CodeRange) (c : Char) : Bool :=
  ranges.any (·.contains c)

def codeOf (digits : List Char) : Nat :=
  digits.foldl (fun code c => 16 * code + (hexValue? c).getD 0) 0

def CodeRange.ofWord (word : List Char) : CodeRange :=
  let afterHyphen := (word.dropWhile (· != '-')).drop 1
  { first := codeOf (word.takeWhile (· != '-'))
    last := codeOf (if afterHyphen.isEmpty then word else afterHyphen) }

/-- The words of a text, between blanks. -/
def wordsOf (text : String) : List (List Char) :=
  (text.toList.splitOnP Char.isWhitespace).filter fun word => !word.isEmpty

def rangesOf (text : String) : List CodeRange :=
  (wordsOf text).map CodeRange.ofWord

end WsTrust.Text
