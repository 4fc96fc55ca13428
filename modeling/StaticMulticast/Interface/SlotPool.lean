/-!
# Slots of a forwarding table

The kernel numbers the interfaces of a forwarding table with slots below a fixed bound. A slot is
taken by the interface that holds it and free otherwise, and the lowest free slot is the next to be
taken.
-/

namespace StaticMulticast

/-- How many slots each forwarding table has. -/
def slotCount : Nat := 32

/-- The slots in use, in ascending order. -/
structure SlotPool where
  used : List Nat
deriving DecidableEq, Repr

namespace SlotPool

/-- No slot in use. -/
def empty : SlotPool := ⟨[]⟩

/-- Puts a slot in its place among slots in ascending order. -/
def place (slot : Nat) : List Nat → List Nat
  | [] => [slot]
  | first :: rest => if slot < first then slot :: first :: rest else first :: place slot rest

/-- The lowest free slot. -/
def lowestFree? (pool : SlotPool) : Option Nat :=
  (List.range slotCount).find? fun slot => !pool.used.contains slot

/-- Takes the lowest free slot, if there is one. -/
def take? (pool : SlotPool) : Option (Nat × SlotPool) :=
  pool.lowestFree?.map fun slot => (slot, ⟨place slot pool.used⟩)

/-- Gives a slot back. -/
def free (pool : SlotPool) (slot : Nat) : SlotPool :=
  ⟨pool.used.filter (· != slot)⟩

/-- Gives back the slot that is held, if any. -/
def release (pool : SlotPool) : Option Nat → SlotPool
  | none => pool
  | some slot => pool.free slot

end SlotPool

end StaticMulticast
