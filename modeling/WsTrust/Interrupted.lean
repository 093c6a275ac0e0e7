/-!
# Interrupted sequences

What a reader delivers before it either reaches the end of its input or meets
a fault.
-/

namespace WsTrust

/-- Items in order, followed by the fault that ended them, if any. -/
structure Interrupted (Item Fault : Type) where
  items : List Item
  fault : Option Fault
  deriving DecidableEq, Repr

namespace Interrupted

variable {Item Fault : Type}

def done : Interrupted Item Fault :=
  ⟨[], none⟩

def failed (fault : Fault) : Interrupted Item Fault :=
  ⟨[], some fault⟩

def cons (item : Item) (rest : Interrupted Item Fault) :
    Interrupted Item Fault :=
  ⟨item :: rest.items, rest.fault⟩

end Interrupted

end WsTrust
