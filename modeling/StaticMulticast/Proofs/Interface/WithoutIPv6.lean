import StaticMulticast.Proofs.Interface.History

/-!
# The registry without IPv6

`Registry.withoutIPv6` leaves out all that a registry has for IPv6. It commutes with every
operation, so the IPv4 slots and the thresholds are the same, also where the IPv6 slots have run
out.
-/

namespace StaticMulticast

/-- The interface without its IPv6 slot. -/
def Interface.withoutIPv6 (interface : Interface) : Interface :=
  { interface with mif := none }

@[simp] theorem Interface.withoutIPv6_name (interface : Interface) :
    interface.withoutIPv6.name = interface.name :=
  rfl

/-- What a line can learn of an interface, without its IPv6 slot. -/
def Forwarding.withoutIPv6 (forwarding : Forwarding) : Forwarding :=
  { forwarding with mif := none }

namespace Registry

/-- The registry as it is without IPv6: no interface holds an IPv6 slot, and none is in use. -/
def withoutIPv6 (registry : Registry) : Registry :=
  ⟨false, registry.interfaces.map Interface.withoutIPv6, registry.vifs, .empty⟩

variable (registry : Registry)

/-- The same interfaces are found. -/
theorem find?_withoutIPv6 (name : String) :
    registry.withoutIPv6.find? name = (registry.find? name).map Interface.withoutIPv6 :=
  Ordered.find?_map Interface.withoutIPv6_name name registry.interfaces

/-- A line learns the same of the interfaces, but for the IPv6 slots. -/
theorem forwarding?_withoutIPv6 (name : String) :
    registry.withoutIPv6.forwarding? name =
      (registry.forwarding? name).map Forwarding.withoutIPv6 := by
  simp only [forwarding?, find?_withoutIPv6, Option.map_map]
  rfl

/-- An interface is put in the same place. -/
theorem put_withoutIPv6 (interface : Interface) :
    registry.withoutIPv6.put interface.withoutIPv6 = (registry.put interface).withoutIPv6 := by
  simp only [put, withoutIPv6, Ordered.map_insert Interface.withoutIPv6_name]

/-! ## Operations -/

/-- An interface becomes known in the same place. -/
theorem insert_withoutIPv6 (name : String) (index : Nat) :
    registry.withoutIPv6.insert name index = (registry.insert name index).withoutIPv6 := by
  simp only [insert, find?_withoutIPv6]
  cases registry.find? name with
  | none => exact put_withoutIPv6 registry (.fresh name index)
  | some interface => exact put_withoutIPv6 registry { interface with index }

/-- Enabling an interface is the same for IPv4, whatever comes of its IPv6 slot. -/
theorem enable_withoutIPv6 (name : String) (threshold : UInt8) :
    (registry.withoutIPv6.enable name threshold).state =
      (registry.enable name threshold).state.withoutIPv6 := by
  cases hfind : registry.find? name with
  | none => simp [enable, find?_withoutIPv6, hfind]
  | some interface =>
      -- The IPv4 slot is chosen first, and from the same slots with IPv6 and without.
      cases htake : holdOrTake? interface.vif registry.vifs with
      | none =>
          have hother : holdOrTake? interface.withoutIPv6.vif registry.withoutIPv6.vifs = none :=
            htake
          simp [enable, find?_withoutIPv6, hfind, htake, hother]
      | some taken =>
          obtain ⟨vif, vifs⟩ := taken
          have hother : holdOrTake? interface.withoutIPv6.vif registry.withoutIPv6.vifs =
              some (vif, vifs) := htake
          simp only [enable, find?_withoutIPv6, hfind, Option.map_some, htake, hother]
          obtain ⟨mif, mifs, warnings⟩ := registry.chooseMif interface
          exact put_withoutIPv6 { registry with vifs, mifs }
            { interface with vif := some vif, mif, threshold }

/-- Disabling an interface is the same for IPv4. -/
theorem disable_withoutIPv6 (name : String) :
    (registry.withoutIPv6.disable name).state = (registry.disable name).state.withoutIPv6 := by
  cases hfind : registry.find? name with
  | none => simp [disable, find?_withoutIPv6, hfind]
  | some interface =>
      simp only [disable, find?_withoutIPv6, hfind, Option.map_some]
      exact put_withoutIPv6
        { registry with
          vifs := registry.vifs.release interface.vif, mifs := registry.mifs.release interface.mif }
        interface.released

/-- Disabling every interface leaves the same for IPv4. -/
theorem reset_withoutIPv6 : registry.withoutIPv6.reset = registry.reset.withoutIPv6 := by
  simp only [reset, withoutIPv6, List.map_map]
  rfl

/-- Enabling several interfaces leaves the same for IPv4. -/
theorem enableEach_withoutIPv6 (names : List String) :
    (registry.withoutIPv6.enableEach names).state =
      (registry.enableEach names).state.withoutIPv6 := by
  induction names generalizing registry with
  | nil => rfl
  | cons name rest ih =>
      rw [enableEach_cons_state, enableEach_cons_state, enable_withoutIPv6 registry name, ih]

/-- Enabling every interface leaves the same for IPv4. -/
theorem enableAll_withoutIPv6 :
    registry.withoutIPv6.enableAll.state = registry.enableAll.state.withoutIPv6 := by
  have hnames : registry.withoutIPv6.interfaces.map Interface.name =
      registry.interfaces.map Interface.name := by
    simp only [withoutIPv6, List.map_map]
    rfl
  rw [enableAll, enableAll, hnames, enableEach_withoutIPv6]

end Registry

end StaticMulticast
