/-!
# Parts of a URI reference

A URI reference divides into scheme, authority, path, query and fragment, and an
authority into userinfo, host and port.  The division looks at delimiters
alone; whether each part is well formed is asked afterwards.
-/

namespace WsTrust.Uri

/-- The characters before and after the first occurrence of `mark`. -/
def splitFirst? (mark : Char) (characters : List Char) :
    Option (List Char × List Char) :=
  match characters.dropWhile (· != mark) with
  | [] => none
  | _ :: after => some (characters.takeWhile (· != mark), after)

/-- The characters before and after the last occurrence of `mark`. -/
def splitLast? (mark : Char) (characters : List Char) :
    Option (List Char × List Char) :=
  (splitFirst? mark characters.reverse).map fun (after, before) =>
    (before.reverse, after.reverse)

def isLetter (c : Char) : Bool :=
  ('a' ≤ c && c ≤ 'z') || ('A' ≤ c && c ≤ 'Z')

def isDigit (c : Char) : Bool :=
  '0' ≤ c && c ≤ '9'

/-- A scheme is a letter followed by letters, digits, `+`, `-` and `.`. -/
def isScheme : List Char → Bool
  | [] => false
  | first :: rest =>
      isLetter first &&
        rest.all fun c =>
          isLetter c || isDigit c || c == '+' || c == '-' || c == '.'

/-- A URI reference divided at its delimiters, none of which is kept. -/
structure Parts where
  scheme : Option (List Char)
  authority : Option (List Char)
  path : List Char
  query : Option (List Char)
  fragment : Option (List Char)
  deriving DecidableEq, Repr

namespace Parts

def ofHierarchy (scheme : Option (List Char)) (characters : List Char) :
    Parts :=
  let (beforeFragment, fragment) :=
    match splitFirst? '#' characters with
    | some (before, after) => (before, some after)
    | none => (characters, none)
  let (hierarchy, query) :=
    match splitFirst? '?' beforeFragment with
    | some (before, after) => (before, some after)
    | none => (beforeFragment, none)
  match hierarchy with
  | '/' :: '/' :: rest =>
      { scheme
        authority := some (rest.takeWhile (· != '/'))
        path := rest.dropWhile (· != '/')
        query
        fragment }
  | path => { scheme, authority := none, path, query, fragment }

/-- Divides a URI reference.  What stands before the first colon is taken for
a scheme only if it has the form of one. -/
def ofCharacters (characters : List Char) : Parts :=
  match splitFirst? ':' characters with
  | some (scheme, rest) =>
      if isScheme scheme then
        ofHierarchy (some scheme) rest
      else
        ofHierarchy none characters
  | none => ofHierarchy none characters

end Parts

structure Authority where
  userinfo : Option (List Char)
  host : List Char
  port : Option (List Char)
  deriving DecidableEq, Repr

/-- Divides an authority.  Digits after the last colon are the port; anything
else there belongs to the host. -/
def Authority.ofCharacters (characters : List Char) : Authority :=
  let (userinfo, located) :=
    match splitFirst? '@' characters with
    | some (before, after) => (some before, after)
    | none => (none, characters)
  match splitLast? ':' located with
  | some (host, port) =>
      if port.all isDigit then
        { userinfo, host, port := some port }
      else
        { userinfo, host := located, port := none }
  | none => { userinfo, host := located, port := none }

end WsTrust.Uri
