/-!
# Blank characters

The blanks of Unicode (its `White_Space` property) and the trimming of a text
at both ends.  Every value that a message carries as text is trimmed by this
rule, so the no-break space and the ideographic space count as blanks, while
the zero-width space does not.
-/

namespace WsTrust.Text

/-- The characters with the Unicode property `White_Space`. -/
def isBlank (c : Char) : Bool :=
  let code := c.toNat
  (0x09 ≤ code && code ≤ 0x0D) || code == 0x20 || code == 0x85 ||
    code == 0xA0 || code == 0x1680 || (0x2000 ≤ code && code ≤ 0x200A) ||
    code == 0x2028 || code == 0x2029 || code == 0x202F || code == 0x205F ||
    code == 0x3000

def trimStart (characters : List Char) : List Char :=
  characters.dropWhile isBlank

def trimEnd (characters : List Char) : List Char :=
  (characters.reverse.dropWhile isBlank).reverse

/-- A text without the blanks at its two ends. -/
def trim (text : String) : String :=
  String.ofList (trimEnd (trimStart text.toList))

def IsTrimmed (text : String) : Prop :=
  trim text = text

instance (text : String) : Decidable (IsTrimmed text) :=
  inferInstanceAs (Decidable (trim text = text))

end WsTrust.Text
