import WsTrust.Body
import WsTrust.KeyMaterial
import WsTrust.Lifetime
import WsTrust.Scalar
import WsTrust.SecurityToken
import WsTrust.Status

/-!
# Terms of a token

What both a request and a response can say about a token.  The two grammars
share the children that say it.
-/

namespace WsTrust

/-- The terms of a token; each is absent until a child states it. -/
structure Terms where
  context : String
  requestType : Option Uri := none
  tokenType : Option Uri := none
  keyType : Option Uri := none
  lifetime : Option Lifetime := none
  onBehalfOf : Option OnBehalfOf := none
  keySize : Option Nat := none
  entropy : Option Entropy := none
  useKey : Option UseKey := none
  renewing : Option Renewing := none
  appliesTo : Option AppliesTo := none
  deriving DecidableEq

/-- One term, as a child states it. -/
inductive Term where
  | requestType (uri : Uri)
  | tokenType (uri : Uri)
  | keyType (uri : Uri)
  | lifetime (lifetime : Lifetime)
  | onBehalfOf (delegation : OnBehalfOf)
  | keySize (bits : Nat)
  | entropy (entropy : Entropy)
  | useKey (key : UseKey)
  | renewing (renewing : Renewing)
  | appliesTo (party : AppliesTo)
  deriving DecidableEq

namespace Terms

/-- The terms with one more, which replaces what was said before. -/
def add (terms : Terms) : Term → Terms
  | .requestType uri => { terms with requestType := some uri }
  | .tokenType uri => { terms with tokenType := some uri }
  | .keyType uri => { terms with keyType := some uri }
  | .lifetime span => { terms with lifetime := some span }
  | .onBehalfOf delegation => { terms with onBehalfOf := some delegation }
  | .keySize bits => { terms with keySize := some bits }
  | .entropy contributed => { terms with entropy := some contributed }
  | .useKey key => { terms with useKey := some key }
  | .renewing renewal => { terms with renewing := some renewal }
  | .appliesTo party => { terms with appliesTo := some party }

@[simp]
theorem context_add (terms : Terms) (term : Term) :
    (terms.add term).context = terms.context := by
  cases term <;> rfl

end Terms

namespace Term

def readers : List (String × (Nat → Cursor Term)) :=
  [("RequestType", fun _ =>
      .requestType <$> Scalar.readUri "RequestType" "request type"),
    ("TokenType", fun _ =>
      .tokenType <$> Scalar.readUri "TokenType" "token type"),
    ("KeyType", fun _ =>
      .keyType <$> Scalar.readUri "KeyType" "key type"),
    ("Lifetime", fun _ => .lifetime <$> Lifetime.read),
    ("OnBehalfOf", fun maxDepth => .onBehalfOf <$> OnBehalfOf.read maxDepth),
    ("KeySize", fun _ =>
      .keySize <$> Scalar.readInteger "KeySize" "key size"),
    ("Entropy", fun _ => .entropy <$> Entropy.read),
    ("UseKey", fun maxDepth => .useKey <$> UseKey.read maxDepth),
    ("Renewing", fun _ => .renewing <$> Renewing.read)]

def readersAs {Child : Type} (ofTerm : Term → Child) :
    List (String × (Nat → Cursor Child)) :=
  readers.map fun (localPart, read) =>
    (localPart, fun maxDepth => ofTerm <$> read maxDepth)

end Term

end WsTrust
