import WsTrust.Element
import WsTrust.Xml.Reference

/-!
# Elements as text

An element is written back as XML with the prefixes it was read with.  Texts
and attribute values are escaped, and an element without children, not even an
empty text, is written as one tag.
-/

namespace WsTrust

/-- An attribute after a space, its value escaped and in quotation marks. -/
def Attribute.written (whole : Attribute) : List Char :=
  [' '] ++ whole.name.written.toList ++ ['=', '\x22'] ++
    Xml.escape whole.value.toList ++ ['\x22']

namespace Node

mutual

def written : Node → List Char
  | .text content => Xml.escape content.toList
  | .element name attributes children =>
      let opening :=
        ['<'] ++ name.written.toList ++ attributes.flatMap Attribute.written
      match children with
      | [] => opening ++ ['/', '>']
      | first :: rest =>
          opening ++ ['>'] ++ (first.written ++ writtenAll rest) ++
            ['<', '/'] ++ name.written.toList ++ ['>']

/-- The characters that nodes are written as, one after another. -/
def writtenAll : List Node → List Char
  | [] => []
  | node :: rest => node.written ++ writtenAll rest

end

end Node

def Element.toXml (element : Element) : String :=
  String.ofList element.toNode.written

end WsTrust
