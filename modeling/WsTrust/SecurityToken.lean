import WsTrust.Fragment

/-!
# Security tokens

The tokens that a response issues, and the identity that a request acts for.
Both are kept as fragments; a user name can be read out of the latter.
-/

namespace WsTrust

/-- The tokens that were issued, in document order. -/
structure RequestedToken where
  any : List Element
  deriving DecidableEq, Repr, Inhabited

structure OnBehalfOf where
  any : Element
  deriving DecidableEq, Repr, Inhabited

structure UsernameToken where
  id : Option String
  username : String
  deriving DecidableEq, Repr, Inhabited

namespace RequestedToken

def read (maxDepth : Nat) : Cursor RequestedToken := do
  let _ ← Cursor.enter "RequestedSecurityToken"
  return { any := ← Fragment.readRest "RequestedSecurityToken" maxDepth }

end RequestedToken

namespace OnBehalfOf

def read (maxDepth : Nat) : Cursor OnBehalfOf := do
  return { any := ← Fragment.readOne "OnBehalfOf" maxDepth }

/-- The identity as a user name, if it is given by one.  The identifier in the
utility namespace goes before one in any other. -/
def usernameToken? (delegation : OnBehalfOf) : Option UsernameToken := do
  let token := delegation.any
  guard (token.localName = "UsernameToken")
  let username ← token.child? "Username"
  return {
    id :=
      (token.attributeIn? Vocabulary.utility "Id").or (token.attribute? "Id")
    username := Text.trim username.text }

end OnBehalfOf

end WsTrust
