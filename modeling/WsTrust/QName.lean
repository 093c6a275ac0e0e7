import WsTrust.Text.Bytes

/-!
# Qualified names

An expanded name is a namespace URI with a local part; it is what two names
are compared by, for equality and for order.  A qualified name also remembers
the source prefix, which is kept only so that a fragment can be written back as it
was read.
-/

namespace WsTrust

/-- A namespace URI, empty for a name in no namespace, with a local part. -/
structure ExpandedName where
  namespaceUri : String
  localPart : String
  deriving DecidableEq, Repr, Inhabited, Hashable

namespace ExpandedName

/-- The UTF-8 bytes of the two parts, by which names are ordered. -/
def orderKey (name : ExpandedName) : List UInt8 × List UInt8 :=
  (Text.bytesOf name.namespaceUri, Text.bytesOf name.localPart)

/-- Names are ordered by namespace and then by local part, each compared
byte by byte. -/
def order (left right : ExpandedName) : Ordering :=
  (compare left.orderKey.1 right.orderKey.1).then
    (compare left.orderKey.2 right.orderKey.2)

instance : Ord ExpandedName := ⟨order⟩

theorem order_swap (left right : ExpandedName) :
    (left.order right).swap = right.order left := by
  rw [order, order, Ordering.swap_then, ← Std.OrientedCmp.eq_swap,
    ← Std.OrientedCmp.eq_swap]

instance : Std.TransCmp order :=
  inferInstanceAs (Std.TransCmp (compareLex
    (compareOn fun name : ExpandedName => name.orderKey.1)
    (compareOn fun name : ExpandedName => name.orderKey.2)))

end ExpandedName

/-- An expanded name with the prefix it was written with, empty if none. -/
structure QName extends ExpandedName where
  sourcePrefix : String
  deriving DecidableEq, Repr, Inhabited

namespace QName

def ofParts (namespaceUri localPart : String) : QName :=
  { namespaceUri, localPart, sourcePrefix := "" }

def ofLocal (localPart : String) : QName :=
  ofParts "" localPart

/-- Two names are the same when they differ at most in their prefixes. -/
def same (left right : QName) : Bool :=
  left.toExpandedName == right.toExpandedName

/-- The order of names, which no prefix influences. -/
def order (left right : QName) : Ordering :=
  left.toExpandedName.order right.toExpandedName

def isNamed (name : QName) (namespaceUri localPart : String) : Bool :=
  name.namespaceUri == namespaceUri && name.localPart == localPart

theorem isNamed_iff {name : QName} {namespaceUri localPart : String} :
    name.isNamed namespaceUri localPart = true ↔
      name.namespaceUri = namespaceUri ∧ name.localPart = localPart := by
  simp [isNamed]

def erasePrefix (name : QName) : QName :=
  { name with sourcePrefix := "" }

/-- The name as it stands in a document, `prefix:local` or `local`. -/
def written (name : QName) : String :=
  if name.sourcePrefix.isEmpty then
    name.localPart
  else
    name.sourcePrefix ++ ":" ++ name.localPart

/-- Clark notation: the namespace in braces before the local part, or the local
part alone for a name in no namespace. -/
def clark (name : QName) : String :=
  if name.namespaceUri.isEmpty then
    name.localPart
  else
    "\x7b" ++ name.namespaceUri ++ "\x7d" ++ name.localPart

theorem order_eq_gt_iff {left right : QName} :
    left.order right = .gt ↔ right.order left = .lt := by
  have swapped : (right.order left).swap = left.order right :=
    ExpandedName.order_swap _ _
  rw [← swapped, Ordering.swap_eq_gt]

theorem order_trans
    {first second third : QName}
    (left : first.order second = .lt) (right : second.order third = .lt) :
    first.order third = .lt := by
  have transitive (name other last : ExpandedName)
      (before : name.order other = .lt) (after : other.order last = .lt) :
      name.order last = .lt := Std.TransCmp.lt_trans before after
  exact transitive _ _ _ left right

/-- No name stands before one that it differs from in its prefix only. -/
theorem order_ne_lt_of_same
    {left right : QName} (same : left.erasePrefix = right.erasePrefix) :
    left.order right ≠ .lt := by
  intro before
  have swapped : left.order right = right.order left := by
    have erased (name other : QName) :
        name.order other = name.erasePrefix.order other.erasePrefix := rfl
    rw [erased, erased right left, same]
  have after := order_eq_gt_iff.mpr before
  rw [← swapped, before] at after
  cases after

end QName

end WsTrust
