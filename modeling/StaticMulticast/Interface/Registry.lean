import StaticMulticast.Interface.Event
import StaticMulticast.Interface.SlotPool
import StaticMulticast.Interface.System
import StaticMulticast.Ordered
import StaticMulticast.Outcome

/-!
# The interface registry

All interfaces the daemon knows, in the order of their names, with the slots of the two forwarding
tables. Enabling an interface takes the lowest free slot of each table in use, disabling it gives
its slots back, and an operation that fails changes nothing.
-/

namespace StaticMulticast

open Address (Family)

/-- The known interfaces and the slots in use. IPv6 slots are taken only if `ipv6` is set. -/
structure Registry where
  ipv6 : Bool
  interfaces : List Interface
  vifs : SlotPool
  mifs : SlotPool
deriving DecidableEq, Repr

namespace Registry

/-- A registry that knows no interface. -/
def empty (ipv6 : Bool) : Registry := ⟨ipv6, [], .empty, .empty⟩

/-- The interface of the given name. -/
def find? (registry : Registry) (name : String) : Option Interface :=
  Ordered.find? Interface.name name registry.interfaces

/-- How the interface of the given name can forward. -/
def forwarding? (registry : Registry) (name : String) : Option Forwarding :=
  (registry.find? name).map Interface.forwarding

/-- Puts an interface in the place of the one with its name. -/
def put (registry : Registry) (interface : Interface) : Registry :=
  { registry with interfaces := Ordered.insert Interface.name interface registry.interfaces }

/-- Makes an interface known. One that is known already only gets the new index. -/
def insert (registry : Registry) (name : String) (index : Nat) : Registry :=
  match registry.find? name with
  | some interface => registry.put { interface with index }
  | none => registry.put (.fresh name index)

/-- Makes the interfaces known that the system lists, and returns how many entries there were. -/
def probe (registry : Registry) (answer : Interface.SystemAnswer) :
    Outcome Registry Interface.Event (Except Failure Nat) :=
  match answer with
  | .error fault => ⟨.error (.io fault), registry, []⟩
  | .ok entries =>
      let listed := Interface.SystemEntry.listed entries
      ⟨.ok listed.length,
        listed.foldl (fun known entry => known.insert entry.1 entry.2) registry,
        listed.map fun entry => .found entry.1 entry.2⟩

/-- The slot of an interface in one table: the one it holds, or else the lowest free one. -/
def holdOrTake? (held : Option Nat) (slots : SlotPool) : Option (Nat × SlotPool) :=
  match held with
  | some slot => some (slot, slots)
  | none => slots.take?

/-- The failure to name an interface that is known. -/
def unknown (name : String) : Failure := .missing ("interface " ++ name)

/-- The IPv6 slot of an interface that is being enabled, the slots then in use, and the event if
there was none left. -/
def chooseMif (registry : Registry) (interface : Interface) :
    Option Nat × SlotPool × List Interface.Event :=
  if registry.ipv6 then
    match holdOrTake? interface.mif registry.mifs with
    | some (mif, mifs) => (some mif, mifs, [])
    | none => (none, registry.mifs, [.leftWithoutIPv6 interface.name (.tableFull "mif")])
  else (interface.mif, registry.mifs, [])

/-- Enables an interface with the given threshold. It keeps the slots it holds. Without a free IPv4
slot it fails, and without a free IPv6 slot it is enabled for IPv4 only. -/
def enable (registry : Registry) (name : String) (threshold : UInt8) :
    Outcome Registry Interface.Event (Except Failure Unit) :=
  match registry.find? name with
  | none => ⟨.error (unknown name), registry, []⟩
  | some interface =>
      match holdOrTake? interface.vif registry.vifs with
      | none => ⟨.error (.tableFull "vif"), registry, []⟩
      | some (vif, vifs) =>
          let (mif, mifs, warnings) := chooseMif registry interface
          let changed := { interface with vif := some vif, mif, threshold }
          ⟨.ok (), { registry with vifs, mifs }.put changed,
            warnings ++ [.enabled name changed.vif changed.mif threshold]⟩

/-- Disables an interface: its slots are free again, and its threshold is the default. -/
def disable (registry : Registry) (name : String) :
    Outcome Registry Interface.Event (Except Failure Unit) :=
  match registry.find? name with
  | none => ⟨.error (unknown name), registry, []⟩
  | some interface =>
      let vifs := registry.vifs.release interface.vif
      let mifs := registry.mifs.release interface.mif
      ⟨.ok (), { registry with vifs, mifs }.put interface.released, [.disabled name]⟩

/-- Disables every interface. -/
def reset (registry : Registry) : Registry :=
  { registry with
    interfaces := registry.interfaces.map Interface.released, vifs := .empty, mifs := .empty }

/-- Enables the interfaces of the given names, and returns how many of them could be. -/
def enableEach (registry : Registry) : List String → Outcome Registry Interface.Event Nat
  | [] => ⟨0, registry, []⟩
  | name :: rest =>
      let now := registry.enable name defaultThreshold
      let later := now.state.enableEach rest
      match now.value with
      | .ok _ => ⟨later.value + 1, later.state, now.events ++ later.events⟩
      | .error reason =>
          ⟨later.value, later.state, now.events ++ .leftDisabled name reason :: later.events⟩

/-- Enables every interface with the default threshold, in the order of names, and returns how many
of them could be. -/
def enableAll (registry : Registry) : Outcome Registry Interface.Event Nat :=
  registry.enableEach (registry.interfaces.map Interface.name)

/-- The interfaces that hold a slot, in the order of names. -/
def enabled (registry : Registry) : List Interface :=
  registry.interfaces.filter Interface.isEnabled

end Registry

end StaticMulticast
