import StaticMulticast.Address.Family

/-!
# Network interfaces

An interface is known by its name. To forward multicast it holds a slot of the kernel's table of
IPv4 interfaces, and another of the table of IPv6 interfaces if that family is in use.
-/

namespace StaticMulticast

open Address (Family)

/-- The threshold of an interface that no other has been set for. -/
def defaultThreshold : UInt8 := 1

/-- A network interface: its name, the kernel's index for it, the slots it holds, and the least
time to live that a packet needs to leave by it. -/
structure Interface where
  name : String
  index : Nat
  vif : Option Nat
  mif : Option Nat
  threshold : UInt8
deriving DecidableEq, Repr

/-- What a line of the configuration can learn of an interface. -/
structure Forwarding where
  vif : Option Nat
  mif : Option Nat
  threshold : UInt8
deriving DecidableEq, Repr

/-- The slot that is held in the table of a family. -/
def Forwarding.slot (forwarding : Forwarding) : Family → Option Nat
  | .inet => forwarding.vif
  | .inet6 => forwarding.mif

@[simp] theorem Forwarding.slot_inet (forwarding : Forwarding) :
    forwarding.slot .inet = forwarding.vif :=
  rfl

@[simp] theorem Forwarding.slot_inet6 (forwarding : Forwarding) :
    forwarding.slot .inet6 = forwarding.mif :=
  rfl

namespace Interface

/-- An interface as it is first known: without slots, and with the default threshold. -/
def fresh (name : String) (index : Nat) : Interface :=
  ⟨name, index, none, none, defaultThreshold⟩

/-- How an interface can forward. -/
def forwarding (interface : Interface) : Forwarding :=
  ⟨interface.vif, interface.mif, interface.threshold⟩

/-- The interface holds a slot of either table. -/
def isEnabled (interface : Interface) : Bool :=
  interface.vif.isSome || interface.mif.isSome

/-- The interface without its slots, and with the default threshold again. -/
def released (interface : Interface) : Interface :=
  { interface with vif := none, mif := none, threshold := defaultThreshold }

end Interface

end StaticMulticast
