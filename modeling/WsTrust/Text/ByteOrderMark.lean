/-!
# The byte order mark

A text may begin with the character that marks the order of bytes, which is no
part of what it says.
-/

namespace WsTrust.Text

/-- The characters of a text after one leading byte order mark. -/
def dropByteOrderMark : List Char → List Char
  | '\ufeff' :: rest => rest
  | characters => characters

end WsTrust.Text
