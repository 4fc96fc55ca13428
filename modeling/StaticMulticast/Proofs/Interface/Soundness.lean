import StaticMulticast.Proofs.Interface.Reset

/-!
# Thresholds of interfaces

Every interface has a threshold from 1 to 255, and it is the default one while the interface holds
no slot. Each operation keeps this, if it sets no other thresholds.
-/

namespace StaticMulticast

/-- A least time to live that a packet can be asked to have: 1 to 255. -/
def IsThreshold (threshold : UInt8) : Prop :=
  1 ≤ threshold.toNat ∧ threshold.toNat ≤ 255

/-- An octet is a threshold unless it is zero. -/
theorem isThreshold_iff {threshold : UInt8} : IsThreshold threshold ↔ 1 ≤ threshold := by
  have hlt := threshold.toNat_lt
  constructor
  · exact fun h => UInt8.le_iff_toNat_le.2 h.1
  · exact fun h => ⟨UInt8.le_iff_toNat_le.1 h, by omega⟩

/-- The default threshold is one. -/
theorem isThreshold_default : IsThreshold defaultThreshold :=
  isThreshold_iff.2 (by decide)

/-- The threshold is one that an interface can have, and the default one without a slot. -/
structure Interface.Sound (interface : Interface) : Prop where
  isThreshold : IsThreshold interface.threshold
  default_of_disabled : interface.isEnabled = false → interface.threshold = defaultThreshold

/-- An interface with the default threshold is sound. -/
theorem Interface.sound_of_default {interface : Interface}
    (h : interface.threshold = defaultThreshold) : interface.Sound where
  isThreshold := h ▸ isThreshold_default
  default_of_disabled _ := h

namespace Registry

/-- Every interface is sound. -/
def Sound (registry : Registry) : Prop :=
  ∀ interface ∈ registry.interfaces, interface.Sound

variable {registry : Registry} {name : String}

/-- A line learns of no other thresholds. -/
theorem Sound.isThreshold_of_forwarding? (h : registry.Sound) {forwarding : Forwarding}
    (hfound : registry.forwarding? name = some forwarding) : IsThreshold forwarding.threshold := by
  obtain ⟨interface, hfind, rfl⟩ := Option.map_eq_some_iff.1 hfound
  exact (h interface (mem_and_name_of_find? hfind).1).isThreshold

/-- A sound interface can be put anywhere. -/
theorem Sound.put (h : registry.Sound) {changed : Interface} (hchanged : changed.Sound) :
    (registry.put changed).Sound :=
  Ordered.forall_mem_insert hchanged h

/-- Making an interface known keeps the thresholds sound. -/
theorem Sound.insert (h : registry.Sound) (name : String) (index : Nat) :
    (registry.insert name index).Sound := by
  unfold Registry.insert
  split
  · rename_i interface hfind
    have hsound := h interface (mem_and_name_of_find? hfind).1
    exact h.put ⟨hsound.isThreshold, hsound.default_of_disabled⟩
  · exact h.put (Interface.sound_of_default rfl)

/-- Interfaces that were only made known have sound thresholds. -/
theorem sound_known (ipv6 : Bool) (interfaces : List (String × Nat)) :
    (known ipv6 interfaces).Sound := by
  unfold known
  have hempty : (empty ipv6).Sound := fun interface hmem => absurd hmem List.not_mem_nil
  generalize empty ipv6 = registry at hempty
  induction interfaces generalizing registry with
  | nil => exact hempty
  | cons entry rest ih => exact ih _ (hempty.insert entry.1 entry.2)

/-- Enabling an interface keeps the thresholds sound. -/
theorem Sound.enable (h : registry.Sound) (name : String) {threshold : UInt8}
    (hthreshold : IsThreshold threshold) : (registry.enable name threshold).state.Sound := by
  obtain ⟨-, heq⟩ | ⟨interface, -, -, heq⟩ | ⟨interface, vif, vifs, -, -, heq⟩ :=
    registry.enable_cases name threshold
  · rw [heq]
    exact h
  · rw [heq]
    exact h
  · rw [heq]
    -- The interface now holds an IPv4 slot, so it is not disabled.
    exact h.put ⟨hthreshold, fun hdisabled => nomatch hdisabled⟩

/-- Disabling an interface keeps the thresholds sound. -/
theorem Sound.disable (h : registry.Sound) (name : String) :
    (registry.disable name).state.Sound := by
  obtain ⟨-, heq⟩ | ⟨interface, -, heq⟩ := registry.disable_cases name
  · rw [heq]
    exact h
  · rw [heq]
    exact h.put (Interface.sound_of_default rfl)

/-- A reset leaves sound thresholds, whatever they were. -/
theorem sound_reset (registry : Registry) : registry.reset.Sound := by
  intro interface hmem
  obtain ⟨before, -, rfl⟩ := List.mem_map.1 hmem
  exact Interface.sound_of_default rfl

end Registry

end StaticMulticast
