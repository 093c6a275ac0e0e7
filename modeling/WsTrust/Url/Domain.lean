import WsTrust.Text.Ascii
import WsTrust.Url.Domain.Composition
import WsTrust.Url.Domain.Direction
import WsTrust.Url.Domain.Joining
import WsTrust.Url.Domain.Replacement
import WsTrust.Url.Punycode

/-!
# Domain names

A domain name is brought into its ASCII form.  Its characters are replaced and
composed; then each label, which is what stands between two dots, is checked,
and encoded if it holds other characters than those of ASCII.  A label that is
already encoded has to be the code of one that could stand in its place.
-/

namespace WsTrust.Url

namespace Domain

/-- The characters of ASCII that no domain name may hold. -/
def isForbidden (c : Char) : Bool :=
  c.toNat ≤ 0x20 || c.toNat == 0x7F || "%#/:<>?@[\\]^|".toList.contains c

def isAscii (characters : List Char) : Bool :=
  characters.all fun c => c.toNat < 0x80

def longestLabel : Nat := 1000

/-- The greatest number of characters of an encoded label, without its mark. -/
def longestCode : Nat := 2000

structure Label where
  /-- The characters that the label stands for. -/
  characters : List Char
  /-- Its ASCII form. -/
  written : List Char
  deriving DecidableEq, Repr

/-- Whether the characters of a label that is not ASCII may stand together.
They are already replaced and composed. -/
def isWellFormed (label : List Char) : Bool :=
  !label.head?.any isMark && !label.any isForbidden && joinersStand [] label &&
    label.length ≤ longestLabel

/-- Whether characters stay what they are when they are replaced and
composed. -/
def isNormal (characters : List Char) : Bool :=
  characters.all isKept && composed characters == characters

def encodedMark : List Char :=
  "xn--".toList

/-- The characters that a code stands for.  A code that ends in a hyphen, or
is empty, encodes nothing that has to be encoded. -/
def decodeLabel? (code : List Char) : Option (List Char) :=
  if code.isEmpty || code.getLast? == some '-' ||
      decide (longestCode < code.length) then
    none
  else
    (Punycode.decode? code).filter fun characters =>
      isNormal characters && isWellFormed characters &&
        !characters.contains '.'

def Label.ofNormal? (label : List Char) : Option Label :=
  if isAscii label then
    if encodedMark.isPrefixOf label then
      (decodeLabel? (label.drop encodedMark.length)).map fun characters =>
        { characters, written := label }
    else if label.any isForbidden then
      none
    else
      some { characters := label, written := label }
  else if encodedMark.isPrefixOf label || !isWellFormed label then
    none
  else
    some
      { characters := label
        written := encodedMark ++ Punycode.encode label }

def labels? (name : List Char) : Option (List Label) := do
  let replaced ← replaceAll? name
  let labels ← ((composed replaced).splitOn '.').mapM Label.ofNormal?
  let runsBothWays :=
    labels.any fun label => label.characters.any runsRight
  if runsBothWays && !labels.all (isDirected ·.characters) then
    none
  else
    some labels

end Domain

def domainToAscii? (name : List Char) : Option (List Char) :=
  (Domain.labels? name).map fun labels =>
    ['.'].intercalate (labels.map (·.written))

end WsTrust.Url
