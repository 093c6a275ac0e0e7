import WsTrust.Cursor

/-!
# Key material

The secrets and keys that requests and responses carry.
-/

namespace WsTrust

/-- A shared secret: the bytes of its text, with the type it was given. -/
structure BinarySecret where
  type : Option String
  value : List UInt8
  deriving DecidableEq, Repr, Inhabited

structure Entropy where
  binarySecret : Option BinarySecret
  deriving DecidableEq, Repr, Inhabited

/-- The key that a token is bound to: a certificate or a key value. -/
structure UseKey where
  any : Element
  deriving DecidableEq, Repr, Inhabited

inductive ProofToken where
  /-- The key itself. -/
  | binarySecret (secret : BinarySecret)
  /-- How the requestor computes the key. -/
  | computedKey (algorithm : String)
  /-- No proof material. -/
  | none
  deriving DecidableEq, Repr, Inhabited

namespace BinarySecret

/-- The secret as text, if its bytes are the UTF-8 form of one. -/
def text? (secret : BinarySecret) : Option String :=
  Text.ofBytes? secret.value

/-- Reads a secret, whose type may be required. -/
def read (typeRequired : Bool) : Cursor BinarySecret := do
  let tag ← Cursor.enter "BinarySecret"
  let type := tag.attribute? "Type"
  if typeRequired && type.isNone then
    Cursor.refuse (.missingAttribute "BinarySecret" "Type")
  else
    let value ← Cursor.requiredText "BinarySecret" "binary secret value"
    return { type, value := Text.bytesOf value }

end BinarySecret

namespace Entropy

def isEmpty (entropy : Entropy) : Bool :=
  entropy.binarySecret.isNone

/-- Reads entropy.  A first child other than `BinarySecret` is skipped. -/
def read : Cursor Entropy := do
  let _ ← Cursor.enter "Entropy"
  let binarySecret ←
    match ← Cursor.peekChild "Entropy" with
    | some child =>
        if child.localName = "BinarySecret" then
          some <$> BinarySecret.read false
        else do
          Cursor.skipElement
          pure none
    | none => pure none
  Cursor.expectEndTag "Entropy"
  return { binarySecret }

end Entropy

namespace UseKey

def read (maxDepth : Nat) : Cursor UseKey := do
  let _ ← Cursor.enter "UseKey"
  match ← Cursor.peekChild "UseKey" with
  | some child =>
      if child.localName = "X509Certificate" ∨
          child.localName = "KeyValue" then
        let any ← Cursor.captureElement maxDepth
        Cursor.expectEndTag "UseKey"
        return { any }
      else
        Cursor.refuse (.unknownTag child.localName)
  | none => Cursor.refuse (.unexpectedClose "UseKey")

end UseKey

namespace ProofToken

/-- The key, if it is given directly. -/
def binarySecret? : ProofToken → Option BinarySecret
  | .binarySecret secret => some secret
  | _ => Option.none

/-- The algorithm, if the key is to be computed. -/
def algorithm? : ProofToken → Option String
  | .computedKey algorithm => some algorithm
  | _ => Option.none

def read : Cursor ProofToken := do
  let _ ← Cursor.enter "RequestedProofToken"
  let proof ←
    match ← Cursor.peekChild "RequestedProofToken" with
    | Option.none => pure ProofToken.none
    | some child =>
        if child.localName = "BinarySecret" then
          ProofToken.binarySecret <$> BinarySecret.read true
        else if child.localName = "ComputedKey" then do
          let _ ← Cursor.nextStartTag "ComputedKey"
          ProofToken.computedKey <$>
            Cursor.requiredText "ComputedKey" "computed key algorithm"
        else
          Cursor.refuse (.unknownTag child.localName)
  Cursor.expectEndTag "RequestedProofToken"
  return proof

end ProofToken

end WsTrust
