import WsTrust.AppliesTo

/-!
# Extensions

Elements that no message grammar knows are offered to registered extensions, in
the order of their registration; the first that claims the element reads it.  A
registry is a value: registering gives a new one, and a message is read under
the registry that was handed over when reading began.
-/

namespace WsTrust

/-- What an extension makes of an element. -/
inductive ExtensionValue where
  /-- The relying party, which is kept. -/
  | appliesTo (party : AppliesTo)
  /-- A fragment, which is dropped. -/
  | fragment (content : Element)
  /-- Nothing. -/
  | empty
  deriving DecidableEq, Repr, Inhabited

/-- A claim on names, with the reader of the elements that are claimed.  The
reader begins before the start tag of the element and has to consume all of
it. -/
structure Extension where
  claims : QName → Bool
  read : Cursor ExtensionValue

/-- Extensions in the order of their registration. -/
structure Registry where
  extensions : List Extension

namespace Registry

def empty : Registry :=
  ⟨[]⟩

/-- The registry with one more extension, after all others. -/
def register (registry : Registry) (extension : Extension) : Registry :=
  ⟨registry.extensions ++ [extension]⟩

/-- The extension that reads `AppliesTo` of WS-Policy. -/
def policyExtension : Extension where
  claims name := name.isNamed Vocabulary.policy "AppliesTo"
  read := .appliesTo <$> AppliesTo.read

def standard : Registry :=
  empty.register policyExtension

def size (registry : Registry) : Nat :=
  registry.extensions.length

def isEmpty (registry : Registry) : Bool :=
  registry.extensions.isEmpty

/-- The first extension that claims a name. -/
def lookup? (registry : Registry) (name : QName) : Option Extension :=
  registry.extensions.find? fun extension => extension.claims name

end Registry

end WsTrust
