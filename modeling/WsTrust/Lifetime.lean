import WsTrust.Cursor
import WsTrust.Timestamp

/-!
# Lifetimes

The span of time in which a token is valid.  Its start is optional and is
recognised only as the first child.
-/

namespace WsTrust

/-- When a token was created, if that is said, and when it expires. -/
structure Lifetime where
  created : Option Timestamp
  expires : Timestamp
  deriving DecidableEq, Repr, Inhabited

namespace Lifetime

/-- Whether the lifetime has ended at an instant, unless its end has no
meaning as a timestamp. -/
def isExpiredAt? (lifetime : Lifetime) (now : Instant) : Option Bool :=
  lifetime.expires.toInstant?.map fun expires => expires.notAfter now

/-- Reads a lifetime.  A first child with another name than `Created` is
entered without being read, and the start tag after it has to be the one of
`Expires`. -/
def read : Cursor Lifetime := do
  let _ ← Cursor.enter "Lifetime"
  let first ← Cursor.nextStartTag "Created"
  let created ←
    if first.localName = "Created" then
      some <$> Timestamp.mk <$> Cursor.elementText "Created"
    else
      pure none
  let tag ← Cursor.nextStartTag "Expires"
  if tag.localName = "Expires" then
    let expires ← Cursor.requiredText "Expires" "lifetime expiry"
    Cursor.expectEndTag "Lifetime"
    return { created, expires := ⟨expires⟩ }
  else
    Cursor.refuse (.unknownTag tag.localName)

end Lifetime

end WsTrust
