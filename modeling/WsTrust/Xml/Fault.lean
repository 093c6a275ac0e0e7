import WsTrust.Xml.Scope

/-!
# Faults of a document

What can be wrong with the markup of a document.  Only a flaw in the division
into pieces ends the reading; after any other fault the pieces that follow can
still be read.
-/

namespace WsTrust.Xml

inductive DocumentFault where
  /-- What follows is no piece of markup. -/
  | markup (flaw : MarkupFlaw)
  /-- The document type has no name. -/
  | namelessDoctype
  | reference (flaw : ReferenceFlaw)
  | attributes (flaw : AttributeFlaw)
  | binding (flaw : BindingFlaw)
  /-- The end tag does not repeat the name of the innermost open element. -/
  | mismatchedEnd (expected found : String)
  /-- No element is open. -/
  | unmatchedEnd (found : String)
  deriving DecidableEq, Repr

def DocumentFault.message : DocumentFault → String
  | .markup flaw => flaw.message
  | .namelessDoctype =>
      "ill-formed document: \x60<!DOCTYPE>\x60 declaration does not contain a name of a document type"
  | .reference flaw => flaw.message
  | .attributes flaw => "error while parsing attribute: " ++ flaw.message
  | .binding flaw => flaw.message
  | .mismatchedEnd expected found =>
      "ill-formed document: expected \x60</" ++ expected ++
        ">\x60, but \x60</" ++ found ++ ">\x60 was found"
  | .unmatchedEnd found =>
      "ill-formed document: close tag \x60</" ++ found ++
        ">\x60 does not match any open tag"

end WsTrust.Xml
