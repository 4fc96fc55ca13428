import StaticMulticast.Proofs.Interface.History

/-!
# Slots and their holders

What a consistent registry says of the slots of both tables: the slots in use are those that
interfaces hold, they are below the bound, and each has one holder. `slots_match_holders` states it
of every history of a registry.
-/

namespace StaticMulticast.Registry

variable {registry : Registry} {interface : Interface} {slot : Nat}

namespace Consistent

/-- A slot of the IPv6 table that an interface holds is also its slot of the IPv4 table. -/
theorem vif_of_mif (h : registry.Consistent) (hmem : interface ∈ registry.interfaces)
    (hslot : interface.mif = some slot) : interface.vif = some slot := by
  rw [h.mif_eq interface hmem] at hslot
  split at hslot
  · exact hslot
  · cases hslot

/-- An interface that is enabled keeps the slots that it has. -/
theorem slot_enabled (h : registry.Consistent) (hmem : interface ∈ registry.interfaces)
    {vif : Nat} {vifs : SlotPool}
    (htake : holdOrTake? interface.vif registry.vifs = some (vif, vifs)) {family : Address.Family}
    (hslot : interface.forwarding.slot family = some slot) (threshold : UInt8) :
    ({ interface with
        vif := some vif
        mif := if registry.ipv6 then some vif else none
        threshold } : Interface).forwarding.slot family = some slot := by
  cases family with
  | inet => exact congrArg some (eq_of_holdOrTake? htake hslot)
  | inet6 =>
      -- An IPv6 slot is held only beside the same IPv4 slot.
      have hmif : interface.mif = some slot := hslot
      have hvif : vif = slot := eq_of_holdOrTake? htake (h.vif_of_mif hmem hmif)
      rw [h.mif_eq interface hmem] at hmif
      show (if registry.ipv6 then some vif else none) = some slot
      split at hmif
      · rename_i hipv6
        rw [if_pos hipv6, hvif]
      · cases hmif

/-- The IPv4 slots in use are those that interfaces hold. -/
theorem mem_vifs_iff (h : registry.Consistent) :
    slot ∈ registry.vifs.used ↔ ∃ interface ∈ registry.interfaces, interface.vif = some slot := by
  rw [h.tracked.mem_used_iff, List.mem_filterMap]

/-- The IPv6 slots in use are those that interfaces hold. -/
theorem mem_mifs_iff (h : registry.Consistent) :
    slot ∈ registry.mifs.used ↔ ∃ interface ∈ registry.interfaces, interface.mif = some slot := by
  have hmif := h.mif_eq
  rw [h.mifs_eq]
  cases hipv6 : registry.ipv6 with
  | false =>
      constructor
      · intro hslot
        cases hslot
      · rintro ⟨interface, hmem, hslot⟩
        rw [hmif interface hmem, hipv6] at hslot
        cases hslot
  | true =>
      rw [if_pos rfl, h.mem_vifs_iff]
      refine exists_congr fun interface => and_congr_right fun hmem => ?_
      rw [hmif interface hmem, if_pos hipv6]

/-- A slot that is held is a slot of the table. -/
theorem slot_lt (h : registry.Consistent) (hmem : interface ∈ registry.interfaces)
    (hslot : interface.vif = some slot ∨ interface.mif = some slot) : slot < slotCount := by
  have hvif : interface.vif = some slot := hslot.elim id (h.vif_of_mif hmem)
  exact h.tracked.below slot (List.mem_filterMap.2 ⟨interface, hmem, hvif⟩)

/-- No two interfaces hold the same IPv4 slot. -/
theorem pairwise_vif (h : registry.Consistent) :
    registry.interfaces.Pairwise fun first second =>
      ∀ slot, ¬ (first.vif = some slot ∧ second.vif = some slot) := by
  refine (List.pairwise_filterMap.1 h.tracked.nodup).imp ?_
  intro first second hne slot hslot
  exact hne slot hslot.1 slot hslot.2 rfl

/-- No two interfaces hold the same IPv6 slot. -/
theorem pairwise_mif (h : registry.Consistent) :
    registry.interfaces.Pairwise fun first second =>
      ∀ slot, ¬ (first.mif = some slot ∧ second.mif = some slot) := by
  refine h.pairwise_vif.imp_of_mem ?_
  intro first second hfirst hsecond hne slot hslot
  exact hne slot ⟨h.vif_of_mif hfirst hslot.1, h.vif_of_mif hsecond hslot.2⟩

end Consistent

/-- After any history of a registry, the slots in use in each table are those that interfaces hold,
all are below the bound, and no two interfaces hold the same one. With IPv6 an interface holds the
same slot in both tables, without IPv6 none of the second. So in the second table there is always a
slot left for an interface that has one in the first. -/
theorem slots_match_holders (ipv6 : Bool) (actions : List Action) :
    let registry := (empty ipv6).after actions
    (∀ slot, slot ∈ registry.vifs.used ↔
      ∃ interface ∈ registry.interfaces, interface.vif = some slot) ∧
    (∀ slot, slot ∈ registry.mifs.used ↔
      ∃ interface ∈ registry.interfaces, interface.mif = some slot) ∧
    (∀ interface ∈ registry.interfaces, ∀ slot,
      interface.vif = some slot ∨ interface.mif = some slot → slot < 32) ∧
    (registry.interfaces.Pairwise fun first second =>
      ∀ slot, ¬ (first.vif = some slot ∧ second.vif = some slot)) ∧
    (registry.interfaces.Pairwise fun first second =>
      ∀ slot, ¬ (first.mif = some slot ∧ second.mif = some slot)) ∧
    (∀ interface ∈ registry.interfaces, interface.mif = if ipv6 then interface.vif else none) ∧
    ∀ action name reason, .leftWithoutIPv6 name reason ∉ (registry.act action).2 := by
  intro registry
  have h : registry.Consistent := (consistent_empty ipv6).after actions
  have hipv6 : registry.ipv6 = ipv6 := after_ipv6 _ actions
  refine ⟨fun _ => h.mem_vifs_iff, fun _ => h.mem_mifs_iff, fun _ hmem _ => h.slot_lt hmem,
    h.pairwise_vif, h.pairwise_mif, ?_, h.act_events⟩
  rw [← hipv6]
  exact h.mif_eq

end StaticMulticast.Registry
