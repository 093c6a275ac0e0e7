import WsTrust.Uri.Parts

/-!
# Paths of URLs

The segments of a path after the dot segments are taken out: a single dot is
nothing, and a double dot removes the segment before it.
-/

namespace WsTrust.Url

def unescapeDots : List Char → List Char
  | '%' :: '2' :: 'e' :: rest => '.' :: unescapeDots rest
  | '%' :: '2' :: 'E' :: rest => '.' :: unescapeDots rest
  | c :: rest => c :: unescapeDots rest
  | [] => []

/-- Whether a segment names a drive, a letter before a colon. -/
def isDrive : List Char → Bool
  | [letter, ':'] => Uri.isLetter letter
  | _ => false

/-- The segments without the last one.  A drive is never removed. -/
def removeLast (segments : List (List Char)) : List (List Char) :=
  if segments.getLast?.any isDrive then
    segments
  else
    segments.dropLast

/-- Adds a segment to those before it.  A dot segment at the end leaves the
path ending in a slash. -/
def addSegment (earlier : List (List Char)) (segment : List Char)
    (isLast : Bool) : List (List Char) :=
  let ending := if isLast then [[]] else []
  if unescapeDots segment = ['.'] then
    earlier ++ ending
  else if unescapeDots segment = ['.', '.'] then
    removeLast earlier ++ ending
  else
    earlier ++ [segment]

def addSegments (earlier : List (List Char)) :
    List (List Char) → List (List Char)
  | [] => earlier
  | segment :: rest =>
      addSegments (addSegment earlier segment rest.isEmpty) rest

/-- Whether a drive is added where no segment stands before it. -/
def entersDrive (earlier : List (List Char)) : List (List Char) → Bool
  | [] => false
  | segment :: rest =>
      (earlier.isEmpty && isDrive segment) ||
        entersDrive (addSegment earlier segment rest.isEmpty) rest

def segmentsOf (path : List Char) : List (List Char) :=
  addSegments [] ((path.drop 1).splitOn '/')

def writeSegments (segments : List (List Char)) : List Char :=
  segments.flatMap ('/' :: ·)

/-- The segments without the empty ones at the beginning, of which one is kept
if there is no other segment. -/
def dropEmptySegments : List (List Char) → List (List Char)
  | [] => []
  | [only] => [only]
  | first :: rest =>
      if first.isEmpty then dropEmptySegments rest else first :: rest

end WsTrust.Url
