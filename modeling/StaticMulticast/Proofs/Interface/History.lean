import StaticMulticast.Interface.Registry
import StaticMulticast.Proofs.Interface.SlotPool
import StaticMulticast.Proofs.Ordered

/-!
# Histories of the interface registry

A registry starts empty and then undergoes actions, of which any may fail. `Consistent` is what all
of them keep: the interfaces are in the order of their names, the pool of IPv4 slots lists what the
interfaces hold, and the IPv6 side is a copy of the IPv4 side, or empty without IPv6. The two pools
are separate and each hands out its own lowest free slot, so the copy says that they never drift
apart.
-/

namespace StaticMulticast.Registry

/-- Something that can be done to a registry. -/
inductive Action where
  | insert (name : String) (index : Nat)
  | probe (answer : Interface.SystemAnswer)
  | enable (name : String) (threshold : UInt8)
  | disable (name : String)
  | enableAll
  | reset

/-- The state that an action leaves, whether it succeeds or fails, and the events it reports. -/
def act (registry : Registry) : Action → Registry × List Interface.Event
  | .insert name index => (registry.insert name index, [])
  | .probe answer => ((registry.probe answer).state, (registry.probe answer).events)
  | .enable name threshold =>
      ((registry.enable name threshold).state, (registry.enable name threshold).events)
  | .disable name => ((registry.disable name).state, (registry.disable name).events)
  | .enableAll => (registry.enableAll.state, registry.enableAll.events)
  | .reset => (registry.reset, [])

/-- The registry after some actions. -/
def after (registry : Registry) (actions : List Action) : Registry :=
  actions.foldl (fun current action => (current.act action).1) registry

/-- The slots of the IPv4 pool are those that interfaces hold, and the IPv6 side is a copy of the
IPv4 side, or empty without IPv6. -/
structure Consistent (registry : Registry) : Prop where
  ordered : Ordered.Ascending Interface.name registry.interfaces
  tracked : registry.vifs.Tracks (registry.interfaces.filterMap Interface.vif)
  mifs_eq : registry.mifs = if registry.ipv6 then registry.vifs else .empty
  mif_eq : ∀ interface ∈ registry.interfaces,
    interface.mif = if registry.ipv6 then interface.vif else none

variable {registry : Registry} {interface changed : Interface} {name : String}

/-- A registry without interfaces is consistent. -/
theorem consistent_empty (ipv6 : Bool) : (empty ipv6).Consistent where
  ordered := List.Pairwise.nil
  tracked := SlotPool.tracks_empty
  mifs_eq := (ite_self _).symm
  mif_eq := fun _ hmem => absurd hmem List.not_mem_nil

/-! ## The use of IPv6

No action changes whether IPv6 is used. -/

@[simp] theorem insert_ipv6 (registry : Registry) (name : String) (index : Nat) :
    (registry.insert name index).ipv6 = registry.ipv6 := by
  unfold insert
  split <;> rfl

@[simp] theorem insert_all_ipv6 (registry : Registry) (listed : List (String × Nat)) :
    (listed.foldl (fun known entry => known.insert entry.1 entry.2) registry).ipv6 =
      registry.ipv6 := by
  induction listed generalizing registry with
  | nil => rfl
  | cons entry rest ih => rw [List.foldl_cons, ih, insert_ipv6]

@[simp] theorem enable_ipv6 (registry : Registry) (name : String) (threshold : UInt8) :
    (registry.enable name threshold).state.ipv6 = registry.ipv6 := by
  unfold enable
  split
  · rfl
  · split <;> rfl

/-- Enabling several interfaces leaves what enabling the first and then the others leaves. -/
@[simp] theorem enableEach_cons_state (registry : Registry) (name : String) (rest : List String) :
    (registry.enableEach (name :: rest)).state =
      ((registry.enable name defaultThreshold).state.enableEach rest).state := by
  simp only [enableEach]
  split <;> rfl

@[simp] theorem enableEach_ipv6 (registry : Registry) (names : List String) :
    (registry.enableEach names).state.ipv6 = registry.ipv6 := by
  induction names generalizing registry with
  | nil => rfl
  | cons name rest ih => rw [enableEach_cons_state, ih, enable_ipv6]

@[simp] theorem disable_ipv6 (registry : Registry) (name : String) :
    (registry.disable name).state.ipv6 = registry.ipv6 := by
  unfold disable
  split <;> rfl

theorem act_ipv6 (registry : Registry) (action : Action) :
    (registry.act action).1.ipv6 = registry.ipv6 := by
  cases action with
  | probe answer => cases answer <;> simp [act, probe]
  | insert | enable | disable | enableAll | reset => simp [act, enableAll, reset]

theorem after_ipv6 (registry : Registry) (actions : List Action) :
    (registry.after actions).ipv6 = registry.ipv6 := by
  induction actions generalizing registry with
  | nil => rfl
  | cons action rest ih => exact (ih _).trans (act_ipv6 registry action)

/-! ## Changing one interface -/

/-- An interface that is found is known, and has the name. -/
theorem mem_and_name_of_find? (h : registry.find? name = some interface) :
    interface ∈ registry.interfaces ∧ interface.name = name :=
  Ordered.mem_and_key_of_find? h

/-- Putting an interface in the place of the one with its name leaves the others as they are. -/
theorem exists_perm_put (hordered : Ordered.Ascending Interface.name registry.interfaces)
    (hfind : registry.find? changed.name = some interface) :
    ∃ others : List Interface, registry.interfaces.Perm (interface :: others) ∧
      (registry.put changed).interfaces.Perm (changed :: others) := by
  obtain ⟨below, above, hold, hnew⟩ := Ordered.exists_insert_of_find?_eq_some hordered hfind
  refine ⟨below ++ above, ?_, ?_⟩
  · rw [hold]
    exact List.perm_middle
  · rw [put, hnew]
    exact List.perm_middle

/-- The slots that interfaces hold are those of one of them and those of the others. -/
theorem perm_held {interfaces others : List Interface} (h : interfaces.Perm (interface :: others)) :
    (interfaces.filterMap Interface.vif).Perm
      (interface.vif.toList ++ others.filterMap Interface.vif) := by
  have hperm := h.filterMap Interface.vif
  cases hvif : interface.vif <;> simpa [List.filterMap_cons, hvif] using hperm

/-- A change to one interface keeps the registry consistent if the pool follows it, and the IPv6
side follows the IPv4 side. -/
theorem Consistent.put_changed (h : registry.Consistent) (changed : Interface)
    (hfind : registry.find? changed.name = some interface) {vifs mifs : SlotPool}
    (htracked : ∀ held, registry.vifs.Tracks (interface.vif.toList ++ held) →
      vifs.Tracks (changed.vif.toList ++ held))
    (hmifs : mifs = if registry.ipv6 then vifs else .empty)
    (hmif : changed.mif = if registry.ipv6 then changed.vif else none) :
    ({ registry with vifs, mifs }.put changed).Consistent := by
  obtain ⟨others, hbefore, hafter⟩ := exists_perm_put h.ordered hfind
  refine ⟨Ordered.ascending_insert h.ordered changed, ?_, hmifs, ?_⟩
  -- For the pool it counts which slots are held, but not in which order the interfaces are.
  · exact (htracked _ (h.tracked.of_perm (perm_held hbefore))).of_perm (perm_held hafter).symm
  · intro other hother
    rcases List.mem_cons.1 (hafter.mem_iff.1 hother) with rfl | hother
    · exact hmif
    · exact h.mif_eq other (hbefore.mem_iff.2 (List.mem_cons_of_mem _ hother))

/-! ## Making interfaces known -/

/-- Making an interface known keeps the registry consistent. -/
theorem Consistent.insert (h : registry.Consistent) (name : String) (index : Nat) :
    (registry.insert name index).Consistent := by
  unfold Registry.insert
  split
  · rename_i interface hfind
    obtain ⟨hmem, hname⟩ := mem_and_name_of_find? hfind
    rw [← hname] at hfind
    exact h.put_changed { interface with index } hfind (fun _ ht => ht) h.mifs_eq
      (h.mif_eq interface hmem)
  · rename_i hfind
    have hperm : (registry.put (.fresh name index)).interfaces.Perm
        (.fresh name index :: registry.interfaces) :=
      Ordered.perm_insert_of_find?_eq_none h.ordered hfind
    -- A new interface holds nothing, so the slots that are held are the same as before.
    refine ⟨Ordered.ascending_insert h.ordered _, ?_, h.mifs_eq, ?_⟩
    · exact h.tracked.of_perm (perm_held hperm).symm
    · intro other hother
      rcases List.mem_cons.1 (hperm.mem_iff.1 hother) with rfl | hother
      · exact (ite_self _).symm
      · exact h.mif_eq other hother

/-- Making several interfaces known keeps the registry consistent. -/
theorem Consistent.insert_all (h : registry.Consistent) (listed : List (String × Nat)) :
    (listed.foldl (fun known entry => known.insert entry.1 entry.2) registry).Consistent := by
  induction listed generalizing registry with
  | nil => exact h
  | cons entry rest ih => exact ih (h.insert entry.1 entry.2)

/-- Learning the interfaces of the system keeps the registry consistent. -/
theorem Consistent.probe (h : registry.Consistent) (answer : Interface.SystemAnswer) :
    (registry.probe answer).state.Consistent := by
  cases answer with
  | error fault => exact h
  | ok entries => exact h.insert_all _

/-! ## Enabling -/

/-- A slot that is held is kept. -/
@[simp]
theorem holdOrTake?_some (slot : Nat) (pool : SlotPool) :
    holdOrTake? (some slot) pool = some (slot, pool) := rfl

/-- Without a slot, one is taken. -/
@[simp]
theorem holdOrTake?_none (pool : SlotPool) : holdOrTake? none pool = pool.take? := rfl

/-- A holder's own slot, or the one it takes, is tracked with those of the others. -/
theorem tracks_holdOrTake? {pool later : SlotPool} {own : Option Nat} {held : List Nat} {slot : Nat}
    (h : pool.Tracks (own.toList ++ held)) (htake : holdOrTake? own pool = some (slot, later)) :
    later.Tracks (slot :: held) := by
  cases own with
  | none => exact h.take? htake
  | some kept =>
      cases htake
      exact h

/-- The slot of a holder is its own, if it has one. -/
theorem eq_of_holdOrTake? {pool later : SlotPool} {own : Option Nat} {slot kept : Nat}
    (htake : holdOrTake? own pool = some (slot, later)) (hown : own = some kept) : slot = kept := by
  rw [hown] at htake
  exact (Prod.mk.inj (Option.some.inj htake)).1.symm

/-- There is a slot for a holder that has one. -/
theorem eq_none_of_holdOrTake? {pool : SlotPool} {own : Option Nat}
    (htake : holdOrTake? own pool = none) : own = none := by
  cases own with
  | none => rfl
  | some slot => cases htake

/-- In a consistent registry the IPv6 slot that an interface gets is its IPv4 slot, without IPv6 it
gets none, and in neither case is there a warning. -/
theorem Consistent.chooseMif_eq (h : registry.Consistent) (hmem : interface ∈ registry.interfaces)
    {vif : Nat} {vifs : SlotPool}
    (htake : holdOrTake? interface.vif registry.vifs = some (vif, vifs)) :
    registry.chooseMif interface =
      (if registry.ipv6 then some vif else none, if registry.ipv6 then vifs else .empty, []) := by
  have hmifs := h.mifs_eq
  have hmif := h.mif_eq interface hmem
  unfold chooseMif
  cases hipv6 : registry.ipv6 with
  | false => simp_all
  | true =>
      -- Both pools are the same, and so is the lowest slot that is free in them.
      simp only [hipv6, if_true] at hmifs hmif
      simp [hmifs, hmif, htake]

/-- What enabling comes to: the interface is not known, or there is no IPv4 slot for it, and nothing
changes; or else it holds an IPv4 slot, and the IPv6 slot that is chosen for it. -/
theorem enable_cases (registry : Registry) (name : String) (threshold : UInt8) :
    (registry.find? name = none ∧
      registry.enable name threshold = ⟨.error (unknown name), registry, []⟩) ∨
    (∃ interface, registry.find? name = some interface ∧
      holdOrTake? interface.vif registry.vifs = none ∧
      registry.enable name threshold = ⟨.error (.tableFull "vif"), registry, []⟩) ∨
    ∃ interface vif vifs, registry.find? name = some interface ∧
      holdOrTake? interface.vif registry.vifs = some (vif, vifs) ∧
      registry.enable name threshold =
        let chosen := registry.chooseMif interface
        ⟨.ok (), { registry with vifs, mifs := chosen.2.1 }.put
            { interface with vif := some vif, mif := chosen.1, threshold },
          chosen.2.2 ++ [.enabled name (some vif) chosen.1 threshold]⟩ := by
  cases hfind : registry.find? name with
  | none => exact .inl ⟨rfl, by simp [enable, hfind]⟩
  | some interface =>
      cases htake : holdOrTake? interface.vif registry.vifs with
      | none => exact .inr (.inl ⟨interface, rfl, htake, by simp [enable, hfind, htake]⟩)
      | some taken =>
          obtain ⟨vif, vifs⟩ := taken
          exact .inr (.inr ⟨interface, vif, vifs, rfl, htake, by simp [enable, hfind, htake]⟩)

/-- Enabling that fails changes nothing, and there are two ways to fail. -/
theorem enable_error {threshold : UInt8} {reason : Failure}
    (hvalue : (registry.enable name threshold).value = .error reason) :
    (registry.enable name threshold).state = registry ∧
      (reason = unknown name ∨ reason = .tableFull "vif") := by
  obtain ⟨-, heq⟩ | ⟨interface, -, -, heq⟩ | ⟨interface, vif, vifs, -, -, heq⟩ :=
    registry.enable_cases name threshold <;> rw [heq] at hvalue ⊢ <;> cases hvalue
  · exact ⟨rfl, .inl rfl⟩
  · exact ⟨rfl, .inr rfl⟩

/-- What enabling comes to in a consistent registry: the interface is not known, or there is no slot
for it, and nothing changes; or else it holds one slot number in both tables. -/
theorem Consistent.enable_cases (h : registry.Consistent) (name : String) (threshold : UInt8) :
    (registry.find? name = none ∧
      registry.enable name threshold = ⟨.error (unknown name), registry, []⟩) ∨
    (∃ interface, registry.find? name = some interface ∧
      holdOrTake? interface.vif registry.vifs = none ∧
      registry.enable name threshold = ⟨.error (.tableFull "vif"), registry, []⟩) ∨
    ∃ interface vif vifs, registry.find? name = some interface ∧
      holdOrTake? interface.vif registry.vifs = some (vif, vifs) ∧
      registry.enable name threshold =
        ⟨.ok (),
          { registry with vifs, mifs := if registry.ipv6 then vifs else .empty }.put
            { interface with
              vif := some vif, mif := if registry.ipv6 then some vif else none, threshold },
          [.enabled name (some vif) (if registry.ipv6 then some vif else none) threshold]⟩ := by
  obtain hunknown | hfull | ⟨interface, vif, vifs, hfind, htake, heq⟩ :=
    registry.enable_cases name threshold
  · exact .inl hunknown
  · exact .inr (.inl hfull)
  · have hmif := h.chooseMif_eq (mem_and_name_of_find? hfind).1 htake
    rw [hmif] at heq
    exact .inr (.inr ⟨interface, vif, vifs, hfind, htake, heq⟩)

/-- Enabling keeps the registry consistent. -/
theorem Consistent.enable (h : registry.Consistent) (name : String) (threshold : UInt8) :
    (registry.enable name threshold).state.Consistent := by
  obtain ⟨-, heq⟩ | ⟨interface, -, -, heq⟩ | ⟨interface, vif, vifs, hfind, htake, heq⟩ :=
    h.enable_cases name threshold
  · rw [heq]
    exact h
  · rw [heq]
    exact h
  · rw [heq]
    rw [← (mem_and_name_of_find? hfind).2] at hfind
    exact h.put_changed
      { interface with
        vif := some vif, mif := if registry.ipv6 then some vif else none, threshold }
      hfind (fun held ht => tracks_holdOrTake? ht htake) rfl rfl

/-- Enabling never leaves an interface without an IPv6 slot that has an IPv4 slot. -/
theorem Consistent.enable_events (h : registry.Consistent) (name : String) (threshold : UInt8)
    (left : String) (reason : Failure) :
    .leftWithoutIPv6 left reason ∉ (registry.enable name threshold).events := by
  obtain ⟨-, heq⟩ | ⟨interface, -, -, heq⟩ | ⟨interface, vif, vifs, -, -, heq⟩ :=
    h.enable_cases name threshold <;> rw [heq] <;> simp

/-- What enabling an interface keeps, enabling interfaces one after the other keeps. -/
theorem enableEach_keeps {keeps : Registry → Prop}
    (henable : ∀ registry name, keeps registry →
      keeps (registry.enable name defaultThreshold).state)
    (h : keeps registry) (names : List String) : keeps (registry.enableEach names).state := by
  induction names generalizing registry with
  | nil => exact h
  | cons name rest ih =>
      rw [enableEach_cons_state]
      exact ih (henable registry name h)

/-- Enabling interfaces one after the other keeps the registry consistent. -/
theorem Consistent.enableEach (h : registry.Consistent) (names : List String) :
    (registry.enableEach names).state.Consistent :=
  enableEach_keeps (fun _ name h => h.enable name defaultThreshold) h names

/-- Enabling interfaces one after the other leaves none without an IPv6 slot. -/
theorem Consistent.enableEach_events (h : registry.Consistent) (names : List String)
    (left : String) (reason : Failure) :
    .leftWithoutIPv6 left reason ∉ (registry.enableEach names).events := by
  induction names generalizing registry with
  | nil => simp [Registry.enableEach]
  | cons name rest ih =>
      have hnow := h.enable_events name defaultThreshold left reason
      have hlater := ih (h.enable name defaultThreshold)
      simp only [Registry.enableEach]
      split <;> simp [hnow, hlater]

/-! ## Disabling -/

/-- What disabling comes to: the interface is not known, and nothing changes; or else its slots are
given back. -/
theorem disable_cases (registry : Registry) (name : String) :
    (registry.find? name = none ∧
      registry.disable name = ⟨.error (unknown name), registry, []⟩) ∨
    ∃ interface, registry.find? name = some interface ∧
      registry.disable name =
        ⟨.ok (),
          { registry with
            vifs := registry.vifs.release interface.vif
            mifs := registry.mifs.release interface.mif }.put interface.released,
          [.disabled name]⟩ := by
  cases hfind : registry.find? name with
  | none => exact .inl ⟨rfl, by simp [disable, hfind]⟩
  | some interface => exact .inr ⟨interface, rfl, by simp [disable, hfind]⟩

/-- Disabling that fails changes nothing, and there is one way to fail. -/
theorem disable_error {reason : Failure}
    (hvalue : (registry.disable name).value = .error reason) :
    (registry.disable name).state = registry ∧ reason = unknown name := by
  obtain ⟨-, heq⟩ | ⟨interface, -, heq⟩ := registry.disable_cases name <;>
    rw [heq] at hvalue ⊢ <;> cases hvalue
  exact ⟨rfl, rfl⟩

/-- Disabling keeps the registry consistent. -/
theorem Consistent.disable (h : registry.Consistent) (name : String) :
    (registry.disable name).state.Consistent := by
  obtain ⟨-, heq⟩ | ⟨interface, hfind, heq⟩ := registry.disable_cases name
  · rw [heq]
    exact h
  · rw [heq]
    obtain ⟨hmem, hname⟩ := mem_and_name_of_find? hfind
    rw [← hname] at hfind
    refine h.put_changed interface.released hfind (fun held ht => ht.release) ?_ (ite_self _).symm
    -- With IPv6 the same slot is given back to equal pools, and without it there is none to give.
    rw [h.mifs_eq, h.mif_eq interface hmem]
    cases registry.ipv6 <;> simp [SlotPool.release]

/-- Disabling every interface keeps the registry consistent. -/
theorem Consistent.reset (h : registry.Consistent) : registry.reset.Consistent where
  ordered := List.pairwise_map.2 h.ordered
  tracked := by
    have hnone : (registry.interfaces.map Interface.released).filterMap Interface.vif = [] := by
      simp [List.filterMap_map, Function.comp_def, Interface.released]
    rw [Registry.reset, hnone]
    exact SlotPool.tracks_empty
  mifs_eq := (ite_self _).symm
  mif_eq := by
    intro interface hmem
    obtain ⟨before, -, rfl⟩ := List.mem_map.1 hmem
    exact (ite_self _).symm

/-! ## Histories -/

/-- Every action keeps the registry consistent. -/
theorem Consistent.act (h : registry.Consistent) (action : Action) :
    (registry.act action).1.Consistent := by
  cases action with
  | insert name index => exact h.insert name index
  | probe answer => exact h.probe answer
  | enable name threshold => exact h.enable name threshold
  | disable name => exact h.disable name
  | enableAll => exact h.enableEach _
  | reset => exact h.reset

/-- No action on a consistent registry leaves an interface without an IPv6 slot that has an IPv4
slot. -/
theorem Consistent.act_events (h : registry.Consistent) (action : Action) (left : String)
    (reason : Failure) : .leftWithoutIPv6 left reason ∉ (registry.act action).2 := by
  cases action with
  | insert | reset => simp [Registry.act]
  | probe answer => cases answer <;> simp [Registry.act, Registry.probe]
  | enable name threshold => exact h.enable_events name threshold left reason
  | disable name =>
      simp only [Registry.act, Registry.disable]
      split <;> simp
  | enableAll => exact h.enableEach_events _ left reason

/-- A consistent registry stays so, whatever is done to it. -/
theorem Consistent.after (h : registry.Consistent) (actions : List Action) :
    (registry.after actions).Consistent := by
  induction actions generalizing registry with
  | nil => exact h
  | cons action rest ih => exact ih (h.act action)

end StaticMulticast.Registry
