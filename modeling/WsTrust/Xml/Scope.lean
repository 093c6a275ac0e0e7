import WsTrust.QName
import WsTrust.Vocabulary
import WsTrust.Xml.Attribute

/-!
# Namespace scopes

Each element sees the namespace bindings of its ancestors and its own, the
innermost first.  A scope turns a written name into a qualified one.  The
prefixes `xml` and `xmlns` are bound in every scope, and to nothing else.
-/

namespace WsTrust.Xml

/-- A prefix, empty for the default namespace, with the URI it is bound to. -/
structure Binding where
  boundPrefix : List Char
  uri : List Char
  deriving DecidableEq, Repr

abbrev Scope := List Binding

/-- A declaration that binds a reserved prefix or a reserved URI to anything
but its partner. -/
structure BindingFlaw where
  boundPrefix : List Char
  uri : List Char
  deriving DecidableEq, Repr

/-- A byte in quoted form: itself if it is printable ASCII, and otherwise in
hexadecimal with upper-case digits. -/
def quotedByte (byte : UInt8) : List Char :=
  let code := byte.toNat
  if code = 0x22 then
    ['\\', '\x22']
  else if 0x20 ≤ code ∧ code ≤ 0x7E then
    [Char.ofNat code]
  else
    "0x".toList ++ (Nat.toDigits 16 code).map Char.toUpper

/-- The UTF-8 bytes of a text in quoted form, in quotation marks. -/
def quotedBytes (characters : List Char) : String :=
  let bytes := Text.bytesOf (String.ofList characters)
  String.ofList (['\x22'] ++ bytes.flatMap quotedByte ++ ['\x22'])

def BindingFlaw.message (flaw : BindingFlaw) : String :=
  "The namespace prefix '" ++ quotedBytes flaw.boundPrefix ++
    "' cannot be bound to '" ++ quotedBytes flaw.uri ++ "'"

/-- The prefix that an attribute key declares, empty for the default
namespace. -/
def declaredPrefix? (key : List Char) : Option (List Char) :=
  if key = "xmlns".toList then
    some []
  else if "xmlns:".toList.isPrefixOf key then
    some (key.drop 6)
  else
    none

namespace Scope

def outermost : Scope :=
  [⟨"xml".toList, Vocabulary.reserved.toList⟩,
    ⟨"xmlns".toList, Vocabulary.declarations.toList⟩]

/-- Adds the binding that an attribute declares, if it is a declaration.  The
key `xmlns` is free to bind the default namespace to any URI. -/
def declare (scope : Scope) (key uri : List Char) :
    Except BindingFlaw Scope :=
  match declaredPrefix? key with
  | none => .ok scope
  | some boundPrefix =>
      if key = "xmlns".toList then
        .ok (⟨boundPrefix, uri⟩ :: scope)
      else if boundPrefix = "xml".toList then
        if uri = Vocabulary.reserved.toList then
          .ok scope
        else
          .error ⟨boundPrefix, uri⟩
      else if boundPrefix = "xmlns".toList ∨
          uri = Vocabulary.reserved.toList ∨
          uri = Vocabulary.declarations.toList then
        .error ⟨boundPrefix, uri⟩
      else
        .ok (⟨boundPrefix, uri⟩ :: scope)

/-- Adds the bindings that attributes declare, up to the first one whose
value has a flaw or which is itself a flaw; the latter is reported. -/
def declareAll (scope : Scope) :
    List RawAttribute → Scope × Option BindingFlaw
  | [] => (scope, none)
  | raw :: rest =>
      match raw.value with
      | .error _ => (scope, none)
      | .ok uri =>
          match scope.declare raw.key uri with
          | .error flaw => (scope, some flaw)
          | .ok extended => extended.declareAll rest

/-- The URI that a prefix is bound to, empty if it is unbound. -/
def uriOf (scope : Scope) (boundPrefix : List Char) : List Char :=
  match scope.find? fun binding => binding.boundPrefix == boundPrefix with
  | some binding => binding.uri
  | none => []

end Scope

/-! ## Names -/

/-- The prefix and the local part of a written name, divided at its first
colon. -/
def splitName (written : List Char) : Option (List Char) × List Char :=
  match written.dropWhile (· != ':') with
  | [] => (none, written)
  | _ :: localPart => (some (written.takeWhile (· != ':')), localPart)

namespace Scope

/-- The namespace of a written name.  An unprefixed name is in the namespace
`default`; a prefix that is written but empty is never bound. -/
def namespaceOf (scope : Scope) (default : List Char) :
    Option (List Char) → List Char
  | none => default
  | some [] => []
  | some boundPrefix => scope.uriOf boundPrefix

def resolve (scope : Scope) (default written : List Char) : QName :=
  let (sourcePrefix, localPart) := splitName written
  { namespaceUri := String.ofList (scope.namespaceOf default sourcePrefix)
    localPart := String.ofList localPart
    sourcePrefix := String.ofList (sourcePrefix.getD []) }

def elementName (scope : Scope) (written : List Char) : QName :=
  scope.resolve (scope.uriOf []) written

/-- The qualified name of an attribute.  Declarations are in a namespace of
their own, and other unprefixed names are in none. -/
def attributeName (scope : Scope) (key : List Char) : QName :=
  if key = "xmlns".toList then
    QName.ofParts Vocabulary.declarations "xmlns"
  else if "xmlns:".toList.isPrefixOf key then
    { namespaceUri := Vocabulary.declarations
      localPart := String.ofList (key.drop 6)
      sourcePrefix := "xmlns" }
  else
    scope.resolve [] key

end Scope

end WsTrust.Xml
