import WsTrust.Uri.Host

/-!
# URI references

A URI reference in the sense of RFC 3986, relative or not, kept exactly as it
was written.  Only ASCII is accepted, and each part has its own alphabet; the
first part that fails, from left to right, is the flaw.
-/

namespace WsTrust

inductive UriFlaw where
  | userinfo
  | host
  | path
  | query
  | fragment
  deriving DecidableEq, Repr

def UriFlaw.message : UriFlaw → String
  | .userinfo => "invalid IRI: invalid userinfo"
  | .host => "invalid IRI: invalid host"
  | .path => "invalid IRI: invalid path"
  | .query => "invalid IRI: invalid query"
  | .fragment => "invalid IRI: invalid fragment"

/-- A URI reference, as it was written. -/
structure Uri where
  text : String
  deriving DecidableEq, Repr, Inhabited

namespace Uri

def isPathCharacter (c : Char) : Bool :=
  isUnreserved c || isSubDelimiter c || c == ':' || c == '@'

def isUserinfo (characters : List Char) : Bool :=
  isEscaped (fun c => isUnreserved c || isSubDelimiter c || c == ':') characters

def isPath (characters : List Char) : Bool :=
  isEscaped (fun c => isPathCharacter c || c == '/') characters

def isQuery (characters : List Char) : Bool :=
  isEscaped (fun c => isPathCharacter c || c == '/' || c == '?') characters

namespace Parts

/-- Whether the first segment of the path could be taken for a scheme, which a
relative reference may not begin with. -/
def looksLikeScheme (parts : Parts) : Bool :=
  parts.scheme.isNone && parts.authority.isNone &&
    (parts.path.takeWhile (· != '/')).contains ':'

/-- The first part that is malformed. -/
def flaw? (parts : Parts) : Option UriFlaw :=
  let authority := parts.authority.map Authority.ofCharacters
  if !((authority.bind (·.userinfo)).all isUserinfo) then
    some .userinfo
  else if !((authority.map (·.host)).all isHost) then
    some .host
  else if !isPath parts.path || parts.looksLikeScheme then
    some .path
  else if !parts.query.all isQuery then
    some .query
  else if !parts.fragment.all isQuery then
    some .fragment
  else
    none

end Parts

/-- The first flaw of a text as a URI reference. -/
def flaw? (text : String) : Option UriFlaw :=
  (Parts.ofCharacters text.toList).flaw?

/-- Whether a text is a URI reference. -/
def IsReference (text : String) : Prop :=
  flaw? text = none

instance (text : String) : Decidable (IsReference text) :=
  inferInstanceAs (Decidable (flaw? text = none))

/-- Reads a URI reference, keeping its text. -/
def read (text : String) : Except UriFlaw Uri :=
  match flaw? text with
  | none => .ok ⟨text⟩
  | some flaw => .error flaw

/-- Reading accepts exactly the references, and keeps each as it is. -/
theorem read_eq_ok_iff (text : String) (uri : Uri) :
    read text = .ok uri ↔ IsReference text ∧ uri.text = text := by
  unfold read IsReference
  split
  · rename_i none
    cases uri
    simp [none, eq_comm]
  · rename_i some
    simp [some]

end Uri

end WsTrust
