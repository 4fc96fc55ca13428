import StaticMulticast.Proofs.Interface.Slots

/-!
# Enabling and disabling an interface

What the two operations do in a registry that came about in any way. The code searches the pool for
a slot, but what counts is which slots interfaces hold: enabling fails exactly if the interface is
unknown, or the others hold all slots, and else an interface without a slot takes the least one that
none holds (`Registry.enable_disable_effects`). Both are about one interface and leave the others
alone.
-/

namespace StaticMulticast

open Address (Family)

/-- The slot that an interface holds in the table of a family. -/
def Interface.slot (interface : Interface) (family : Family) : Option Nat :=
  interface.forwarding.slot family

namespace Registry

variable {registry : Registry} {interface : Interface} {family : Family} {name other : String}
  {slot : Nat} {threshold : UInt8}

/-- The pool of the slots of a family. -/
def pool (registry : Registry) : Family → SlotPool
  | .inet => registry.vifs
  | .inet6 => registry.mifs

/-- The interfaces of the registry can hold slots of a family. -/
def Serves (registry : Registry) : Family → Prop
  | .inet => True
  | .inet6 => registry.ipv6 = true

/-- Some interface holds the slot in the table of a family. -/
def IsHeld (registry : Registry) (family : Family) (slot : Nat) : Prop :=
  ∃ interface ∈ registry.interfaces, interface.slot family = some slot

/-- What enabling makes of an interface: in each table in use it keeps its slot, or else takes the
least slot that no interface of the registry held. -/
structure Enables (registry : Registry) (threshold : UInt8) (before after : Interface) : Prop where
  name_eq : after.name = before.name
  index_eq : after.index = before.index
  threshold_eq : after.threshold = threshold
  keeps : ∀ family slot, before.slot family = some slot → after.slot family = some slot
  takes : ∀ family, registry.Serves family → before.slot family = none →
    ∃ slot < slotCount, IsLeast {free | ¬ registry.IsHeld family free} slot ∧
      after.slot family = some slot
  unserved : ∀ family, ¬ registry.Serves family → after.slot family = none

/-! ## Names -/

/-- An interface that is known is found by its name. -/
theorem Consistent.find?_name (h : registry.Consistent) (hmem : interface ∈ registry.interfaces) :
    registry.find? interface.name = some interface :=
  Ordered.find?_key h.ordered hmem

/-- A name is not found exactly if no interface has it. -/
theorem Consistent.find?_eq_none_iff (h : registry.Consistent) :
    registry.find? name = none ↔ name ∉ registry.interfaces.map Interface.name := by
  constructor
  · intro hnone hmem
    obtain ⟨interface, hinterface, rfl⟩ := List.mem_map.1 hmem
    rw [h.find?_name hinterface] at hnone
    cases hnone
  · intro hmem
    cases hfind : registry.find? name with
    | none => rfl
    | some interface =>
        obtain ⟨hinterface, rfl⟩ := mem_and_name_of_find? hfind
        exact absurd (List.mem_map_of_mem hinterface) hmem

/-- A change to one interface and to the pools leaves what is found under other names. -/
theorem find?_put_of_ne (changed : Interface) (hne : other ≠ changed.name) (vifs mifs : SlotPool) :
    ({ registry with vifs, mifs }.put changed).find? other = registry.find? other :=
  Ordered.find?_insert_of_ne hne.symm

/-! ## Slots that are held -/

/-- The slots in use in a table are those that interfaces hold. -/
theorem Consistent.mem_used_iff (h : registry.Consistent) :
    slot ∈ (registry.pool family).used ↔ registry.IsHeld family slot := by
  cases family with
  | inet => exact h.mem_vifs_iff
  | inet6 => exact h.mem_mifs_iff

/-- A slot that is held is a slot of the table. -/
theorem Consistent.lt_of_isHeld (h : registry.Consistent) (hheld : registry.IsHeld family slot) :
    slot < slotCount := by
  obtain ⟨interface, hmem, hslot⟩ := hheld
  cases family with
  | inet => exact h.slot_lt hmem (.inl hslot)
  | inet6 => exact h.slot_lt hmem (.inr hslot)

/-- The slot that is taken is the least that no interface holds. -/
theorem Consistent.isLeast_of_take? (h : registry.Consistent) {later : SlotPool}
    (htake : (registry.pool family).take? = some (slot, later)) :
    IsLeast {free | ¬ registry.IsHeld family free} slot := by
  obtain ⟨⟨hlt, hout⟩, hleast⟩ := SlotPool.isLeast_of_take? htake
  refine ⟨mt h.mem_used_iff.2 hout, fun free hfree => ?_⟩
  by_cases hfits : free < slotCount
  · exact hleast ⟨hfits, mt h.mem_used_iff.1 hfree⟩
  · omega

/-! ## Enabling -/

/-- There is no IPv4 slot for an interface exactly if it holds none, and others hold them all. -/
theorem Consistent.holdOrTake?_eq_none_iff (h : registry.Consistent)
    (hmem : interface ∈ registry.interfaces) :
    holdOrTake? interface.vif registry.vifs = none ↔
      interface.vif = none ∧ ∀ slot < slotCount, ∃ other ∈ registry.interfaces,
        other.name ≠ interface.name ∧ other.vif = some slot := by
  cases hvif : interface.vif with
  | some slot => simp
  | none =>
      show registry.vifs.take? = none ↔ _
      rw [SlotPool.take?_eq_none_iff]
      refine ⟨fun hfull => ⟨rfl, fun slot hlt => ?_⟩, fun ⟨_, hothers⟩ slot hfree => ?_⟩
      · have hused : slot ∈ registry.vifs.used := not_not.1 fun hout => hfull slot ⟨hlt, hout⟩
        obtain ⟨other, hother, hslot⟩ := h.mem_vifs_iff.1 hused
        refine ⟨other, hother, fun hname => ?_, hslot⟩
        -- The interface itself holds no slot, so it is not the one that holds this.
        have hsame := h.find?_name hmem
        rw [← hname, h.find?_name hother, Option.some.injEq] at hsame
        rw [hsame, hvif] at hslot
        cases hslot
      · obtain ⟨other, hother, -, hslot⟩ := hothers slot hfree.1
        exact hfree.2 (h.mem_vifs_iff.2 ⟨other, hother, hslot⟩)

/-- Enabling fails for want of the interface exactly if no interface has the name. -/
theorem Consistent.enable_eq_unknown_iff (h : registry.Consistent) :
    (registry.enable name threshold).value = .error (unknown name) ↔
      name ∉ registry.interfaces.map Interface.name := by
  rw [← h.find?_eq_none_iff]
  obtain ⟨hfind, heq⟩ | ⟨interface, hfind, -, heq⟩ | ⟨interface, vif, vifs, hfind, -, heq⟩ :=
    registry.enable_cases name threshold <;> rw [heq, hfind] <;> simp [unknown]

/-- Enabling fails for want of a slot exactly if the interface is known without one, and others hold
all slots. -/
theorem Consistent.enable_eq_full_iff (h : registry.Consistent) :
    (registry.enable name threshold).value = .error (.tableFull "vif") ↔
      (∃ interface ∈ registry.interfaces, interface.name = name ∧ interface.vif = none) ∧
        ∀ slot < slotCount, ∃ other ∈ registry.interfaces,
          other.name ≠ name ∧ other.vif = some slot := by
  have hknown : ∀ interface, registry.find? name = some interface →
      ((∃ interface ∈ registry.interfaces, interface.name = name ∧ interface.vif = none) ∧
        (∀ slot < slotCount, ∃ other ∈ registry.interfaces,
          other.name ≠ name ∧ other.vif = some slot) ↔
        holdOrTake? interface.vif registry.vifs = none) := by
    intro interface hfind
    obtain ⟨hmem, rfl⟩ := mem_and_name_of_find? hfind
    rw [h.holdOrTake?_eq_none_iff hmem]
    refine and_congr_left fun _ => ⟨?_, fun hvif => ⟨interface, hmem, rfl, hvif⟩⟩
    rintro ⟨same, hsame, hname, hvif⟩
    rw [← hname, h.find?_name hsame, Option.some.injEq] at hfind
    exact hfind ▸ hvif
  obtain ⟨hfind, heq⟩ | ⟨interface, hfind, htake, heq⟩ | ⟨interface, _, _, hfind, htake, heq⟩ :=
    registry.enable_cases name threshold
  · rw [heq]
    refine ⟨fun hvalue => (nomatch hvalue), ?_⟩
    rintro ⟨⟨interface, hmem, hname, -⟩, -⟩
    exact absurd (List.mem_map.2 ⟨interface, hmem, hname⟩) (h.find?_eq_none_iff.1 hfind)
  · rw [heq, hknown interface hfind]
    exact iff_of_true rfl htake
  · rw [heq, hknown interface hfind, htake]
    exact iff_of_false (fun hvalue => nomatch hvalue) (fun hnone => nomatch hnone)

/-- What the interface is that enabling leaves. -/
theorem Consistent.enables (h : registry.Consistent) (hmem : interface ∈ registry.interfaces)
    {vif : Nat} {vifs : SlotPool}
    (htake : holdOrTake? interface.vif registry.vifs = some (vif, vifs)) :
    registry.Enables threshold interface
      { interface with
        vif := some vif, mif := if registry.ipv6 then some vif else none, threshold } where
  name_eq := rfl
  index_eq := rfl
  threshold_eq := rfl
  keeps := fun _ _ hslot => h.slot_enabled hmem htake hslot threshold
  takes := by
    intro family hserves hnone
    -- With IPv6 the pools are the same, and an interface has a slot of both or of neither.
    obtain ⟨hvif, hpool, hafter⟩ : interface.vif = none ∧ registry.pool family = registry.vifs ∧
        (⟨interface.name, interface.index, some vif,
          if registry.ipv6 then some vif else none, threshold⟩ : Interface).slot family =
            some vif := by
      cases family with
      | inet => exact ⟨hnone, rfl, rfl⟩
      | inet6 =>
          have hipv6 : registry.ipv6 = true := hserves
          have hmif : interface.mif = none := hnone
          rw [h.mif_eq interface hmem, if_pos hipv6] at hmif
          exact ⟨hmif, h.mifs_eq.trans (if_pos hipv6), if_pos hipv6⟩
    rw [hvif] at htake
    have htake : (registry.pool family).take? = some (vif, vifs) := hpool ▸ htake
    exact ⟨vif, (SlotPool.isLeast_of_take? htake).1.1, h.isLeast_of_take? htake, hafter⟩
  unserved := by
    intro family hunserved
    cases family with
    | inet => exact absurd trivial hunserved
    | inet6 => exact if_neg hunserved

/-- An interface that can be enabled is found afterwards as enabling leaves it. -/
theorem Consistent.enable_ok (h : registry.Consistent)
    (hvalue : (registry.enable name threshold).value = .ok ()) :
    ∃ before after, registry.find? name = some before ∧
      (registry.enable name threshold).state.find? name = some after ∧
      registry.Enables threshold before after := by
  obtain ⟨-, heq⟩ | ⟨interface, -, -, heq⟩ | ⟨interface, vif, vifs, hfind, htake, heq⟩ :=
    h.enable_cases name threshold
  · rw [heq] at hvalue
    cases hvalue
  · rw [heq] at hvalue
    cases hvalue
  · rw [heq]
    obtain ⟨hmem, rfl⟩ := mem_and_name_of_find? hfind
    have hafter := Ordered.find?_insert_self h.ordered
      { interface with
        vif := some vif, mif := if registry.ipv6 then some vif else none, threshold }
    exact ⟨interface, _, hfind, hafter, h.enables hmem htake⟩

/-- Enabling an interface leaves the others. -/
theorem find?_enable_of_ne (hne : other ≠ name) :
    (registry.enable name threshold).state.find? other = registry.find? other := by
  obtain ⟨-, heq⟩ | ⟨interface, -, -, heq⟩ | ⟨interface, vif, vifs, hfind, -, heq⟩ :=
    registry.enable_cases name threshold
  · rw [heq]
  · rw [heq]
  · rw [heq]
    obtain ⟨-, rfl⟩ := mem_and_name_of_find? hfind
    exact find?_put_of_ne { interface with vif := some vif, mif := _, threshold } hne _ _

/-! ## Disabling -/

/-- Disabling fails for want of the interface exactly if no interface has the name. -/
theorem Consistent.disable_eq_unknown_iff (h : registry.Consistent) :
    (registry.disable name).value = .error (unknown name) ↔
      name ∉ registry.interfaces.map Interface.name := by
  rw [← h.find?_eq_none_iff]
  obtain ⟨hfind, heq⟩ | ⟨interface, hfind, heq⟩ := registry.disable_cases name <;>
    rw [heq, hfind] <;> simp

/-- An interface that can be disabled is found afterwards as one that was never used, and the slots
that it held are free. -/
theorem Consistent.disable_ok (h : registry.Consistent)
    (hvalue : (registry.disable name).value = .ok ()) :
    ∃ before, registry.find? name = some before ∧
      (registry.disable name).state.find? name = some (.fresh before.name before.index) ∧
      ∀ family slot, before.slot family = some slot →
        ((registry.disable name).state.pool family).IsFree slot := by
  obtain ⟨-, heq⟩ | ⟨interface, hfind, heq⟩ := registry.disable_cases name
  · rw [heq] at hvalue
    cases hvalue
  · rw [heq]
    obtain ⟨hmem, rfl⟩ := mem_and_name_of_find? hfind
    refine ⟨interface, hfind, Ordered.find?_insert_self h.ordered interface.released,
      fun family slot hslot => ⟨h.lt_of_isHeld ⟨interface, hmem, hslot⟩, ?_⟩⟩
    cases family with
    | inet =>
        have hvif : interface.vif = some slot := hslot
        show slot ∉ (registry.vifs.release interface.vif).used
        rw [hvif]
        exact SlotPool.notMem_used_release _
    | inet6 =>
        have hmif : interface.mif = some slot := hslot
        show slot ∉ (registry.mifs.release interface.mif).used
        rw [hmif]
        exact SlotPool.notMem_used_release _

/-- Disabling an interface leaves the others. -/
theorem find?_disable_of_ne (hne : other ≠ name) :
    (registry.disable name).state.find? other = registry.find? other := by
  obtain ⟨-, heq⟩ | ⟨interface, hfind, heq⟩ := registry.disable_cases name
  · rw [heq]
  · rw [heq]
    obtain ⟨-, rfl⟩ := mem_and_name_of_find? hfind
    exact find?_put_of_ne interface.released hne _ _

/-! ## Any registry -/

/-- After any history of a registry, enabling fails exactly if the interface is unknown, or holds no
IPv4 slot while others hold all of them. Disabling fails exactly if the interface is unknown. An
operation that fails changes nothing. Else an interface that is enabled has the threshold and the
slots that it had, or the least that none held, and one that is disabled is as it was first known,
and its slots can be taken again. No other interface is changed. -/
theorem enable_disable_effects (ipv6 : Bool) (actions : List Action) (name : String)
    (threshold : UInt8) :
    let registry := (empty ipv6).after actions
    let names := registry.interfaces.map Interface.name
    let enabling := registry.enable name threshold
    let disabling := registry.disable name
    (enabling.value = .error (.missing ("interface " ++ name)) ↔ name ∉ names) ∧
    (enabling.value = .error (.tableFull "vif") ↔
      (∃ interface ∈ registry.interfaces, interface.name = name ∧ interface.vif = none) ∧
        ∀ slot < 32, ∃ other ∈ registry.interfaces, other.name ≠ name ∧ other.vif = some slot) ∧
    (∀ reason, enabling.value = .error reason → enabling.state = registry ∧
      (reason = .missing ("interface " ++ name) ∨ reason = .tableFull "vif")) ∧
    (enabling.value = .ok () → ∃ before after, registry.find? name = some before ∧
      enabling.state.find? name = some after ∧ registry.Enables threshold before after) ∧
    (disabling.value = .error (.missing ("interface " ++ name)) ↔ name ∉ names) ∧
    (∀ reason, disabling.value = .error reason → disabling.state = registry ∧
      reason = .missing ("interface " ++ name)) ∧
    (disabling.value = .ok () → ∃ before, registry.find? name = some before ∧
      disabling.state.find? name = some ⟨before.name, before.index, none, none, 1⟩ ∧
      ∀ family slot, before.slot family = some slot →
        (disabling.state.pool family).IsFree slot ∧ ¬ disabling.state.IsHeld family slot) ∧
    ∀ other ≠ name, enabling.state.find? other = registry.find? other ∧
      disabling.state.find? other = registry.find? other := by
  intro registry names enabling disabling
  have h : registry.Consistent := (consistent_empty ipv6).after actions
  have hlater : disabling.state.Consistent := h.disable name
  refine ⟨h.enable_eq_unknown_iff, h.enable_eq_full_iff, fun _ => enable_error, h.enable_ok,
    h.disable_eq_unknown_iff, fun _ => disable_error, fun hvalue => ?_,
    fun other hne => ⟨find?_enable_of_ne hne, find?_disable_of_ne hne⟩⟩
  obtain ⟨before, hbefore, hafter, hfree⟩ := h.disable_ok hvalue
  refine ⟨before, hbefore, hafter, fun family slot hslot => ?_⟩
  have hslotFree := hfree family slot hslot
  exact ⟨hslotFree, mt hlater.mem_used_iff.2 hslotFree.2⟩

end Registry

end StaticMulticast
