import StaticMulticast.Proofs.Interface.History

/-!
# What a reset forgets

A reset undoes whatever enabling and disabling did: it gives the registry in which the same
interfaces have only been made known. So the registry after a reset shows nothing of how the
interfaces were used before it. What it does show are the names, in their order
(`Registry.names_known_eq`).
-/

namespace StaticMulticast.Registry

/-- The registry in which the given interfaces have been made known, and nothing else was done. -/
def known (ipv6 : Bool) (interfaces : List (String × Nat)) : Registry :=
  interfaces.foldl (fun current entry => current.insert entry.1 entry.2) (empty ipv6)

/-- A registry of known interfaces is consistent. -/
theorem consistent_known (ipv6 : Bool) (interfaces : List (String × Nat)) :
    (known ipv6 interfaces).Consistent :=
  (consistent_empty ipv6).insert_all interfaces

/-! ## Names -/

/-- Making an interface known adds its name, and no other. -/
theorem mem_names_insert {registry : Registry} (h : registry.Consistent) (name : String)
    (index : Nat) (wanted : String) :
    wanted ∈ (registry.insert name index).interfaces.map Interface.name ↔
      wanted = name ∨ wanted ∈ registry.interfaces.map Interface.name := by
  unfold insert
  split
  · rename_i interface hfind
    obtain ⟨-, rfl⟩ := mem_and_name_of_find? hfind
    have hchanged : registry.find? ({ interface with index } : Interface).name = some interface :=
      hfind
    obtain ⟨others, hbefore, hafter⟩ := exists_perm_put h.ordered hchanged
    rw [(hafter.map Interface.name).mem_iff, (hbefore.map Interface.name).mem_iff]
    simp
  · rename_i hfind
    have hperm : (registry.put (.fresh name index)).interfaces.Perm
        (.fresh name index :: registry.interfaces) :=
      Ordered.perm_insert_of_find?_eq_none h.ordered hfind
    rw [(hperm.map Interface.name).mem_iff, List.map_cons, List.mem_cons]
    rfl

/-- Making several interfaces known adds their names, and no others. -/
theorem mem_names_insert_all {registry : Registry} (h : registry.Consistent)
    (listed : List (String × Nat)) (wanted : String) :
    wanted ∈ (listed.foldl (fun known entry => known.insert entry.1 entry.2)
        registry).interfaces.map Interface.name ↔
      wanted ∈ registry.interfaces.map Interface.name ∨ wanted ∈ listed.map Prod.fst := by
  induction listed generalizing registry with
  | nil => simp
  | cons entry rest ih =>
      rw [List.foldl_cons, ih (h.insert entry.1 entry.2), mem_names_insert h, List.map_cons,
        List.mem_cons, or_assoc, or_left_comm]

/-- The known interfaces have the names that were given. -/
theorem mem_names_known (ipv6 : Bool) (interfaces : List (String × Nat)) (wanted : String) :
    wanted ∈ (known ipv6 interfaces).interfaces.map Interface.name ↔
      wanted ∈ interfaces.map Prod.fst := by
  rw [known, mem_names_insert_all (consistent_empty ipv6)]
  simp [empty]

/-- Names that ascend and are those of the known interfaces are listed as the interfaces are. -/
theorem names_known_eq (ipv6 : Bool) {interfaces : List (String × Nat)} {names : List String}
    (hascending : Ordered.Ascending id names)
    (hnames : ∀ name, name ∈ names ↔ name ∈ interfaces.map Prod.fst) :
    (known ipv6 interfaces).interfaces.map Interface.name = names := by
  have hordered : Ordered.Ascending id
      ((known ipv6 interfaces).interfaces.map Interface.name) :=
    List.pairwise_map.2 (consistent_known ipv6 interfaces).ordered
  exact hordered.eq_of_mem_iff hascending fun name =>
    (mem_names_known ipv6 interfaces name).trans (hnames name).symm

/-- Interfaces that are made known from the last name to the first stand as they were given,
backwards. -/
theorem known_reverse (ipv6 : Bool) {interfaces : List (String × Nat)}
    (h : Ordered.Ascending Prod.fst interfaces) :
    known ipv6 interfaces.reverse =
      ⟨ipv6, interfaces.map fun entry => .fresh entry.1 entry.2, .empty, .empty⟩ := by
  induction interfaces with
  | nil => rfl
  | cons entry rest ih =>
      obtain ⟨hfirst, hrest⟩ := List.pairwise_cons.1 h
      have hlater : ∀ interface ∈ rest.map fun entry => Interface.fresh entry.1 entry.2,
          compare entry.1 interface.name = .lt := by
        intro interface hmem
        obtain ⟨other, hother, rfl⟩ := List.mem_map.1 hmem
        exact hfirst other hother
      have hbefore := ih hrest
      rw [known] at hbefore
      rw [List.reverse_cons, known, List.foldl_append, hbefore, List.foldl_cons, List.foldl_nil,
        insert, find?, Ordered.find?_eq_none_of_forall_lt hlater]
      exact congrArg (Registry.mk ipv6 · .empty .empty) (Ordered.insert_of_forall_lt hlater)

variable {registry : Registry} {interface : Interface}

/-! ## Nothing to forget -/

/-- A reset changes nothing exactly if no slot is in use and every interface is as it was first
known. -/
theorem reset_eq_self_iff :
    registry.reset = registry ↔
      (∀ interface ∈ registry.interfaces, interface.released = interface) ∧
        registry.vifs = .empty ∧ registry.mifs = .empty := by
  obtain ⟨ipv6, interfaces, vifs, mifs⟩ := registry
  have hmap : interfaces.map Interface.released = interfaces ↔
      ∀ interface ∈ interfaces, interface.released = interface := by
    conv => lhs; rhs; rw [← List.map_id interfaces]
    exact List.map_inj_left
  simp only [reset, mk.injEq, true_and, hmap]
  exact and_congr_right fun _ => and_congr eq_comm eq_comm

/-- A second reset finds nothing to forget. -/
theorem reset_reset (registry : Registry) : registry.reset.reset = registry.reset := by
  simp [reset, Interface.released, Function.comp_def]

/-- Making an interface known gives a reset nothing to forget. -/
theorem reset_insert_eq_self (h : registry.reset = registry) (name : String) (index : Nat) :
    (registry.insert name index).reset = registry.insert name index := by
  obtain ⟨hreleased, hvifs, hmifs⟩ := reset_eq_self_iff.1 h
  have hput : ∀ added : Interface, added.released = added →
      (registry.put added).reset = registry.put added := by
    intro added hadded
    exact reset_eq_self_iff.2 ⟨Ordered.forall_mem_insert hadded hreleased, hvifs, hmifs⟩
  unfold insert
  split
  · rename_i interface hfind
    have hinterface := hreleased interface (mem_and_name_of_find? hfind).1
    refine hput _ ?_
    rw [← hinterface]
    rfl
  · exact hput _ rfl

/-- Interfaces that were only made known hold nothing that a reset could take from them. -/
theorem reset_known (ipv6 : Bool) (interfaces : List (String × Nat)) :
    (known ipv6 interfaces).reset = known ipv6 interfaces := by
  unfold known
  have hempty : (empty ipv6).reset = empty ipv6 := rfl
  -- Of the empty registry nothing counts but that a reset leaves it as it is.
  generalize empty ipv6 = registry at hempty
  induction interfaces generalizing registry with
  | nil => exact hempty
  | cons entry rest ih => exact ih _ (reset_insert_eq_self hempty entry.1 entry.2)

/-! ## What is forgotten -/

/-- A reset forgets a change that leaves the name and the index of an interface. -/
theorem reset_put (hordered : Ordered.Ascending Interface.name registry.interfaces)
    (changed : Interface) (hfind : registry.find? changed.name = some interface)
    (hreleased : changed.released = interface.released) (vifs mifs : SlotPool) :
    ({ registry with vifs, mifs }.put changed).reset = registry.reset := by
  obtain ⟨below, above, hold, hnew⟩ := Ordered.exists_insert_of_find?_eq_some hordered hfind
  have hmap : (Ordered.insert Interface.name changed registry.interfaces).map Interface.released =
      registry.interfaces.map Interface.released := by
    rw [hnew, hold]
    simp only [List.map_append, List.map_cons, hreleased]
  simp only [reset, put, hmap]

/-- A reset forgets that an interface was enabled. -/
theorem Consistent.reset_enable (h : registry.Consistent) (name : String) (threshold : UInt8) :
    (registry.enable name threshold).state.reset = registry.reset := by
  obtain ⟨-, heq⟩ | ⟨interface, -, -, heq⟩ | ⟨interface, vif, vifs, hfind, -, heq⟩ :=
    h.enable_cases name threshold
  · rw [heq]
  · rw [heq]
  · rw [heq]
    rw [← (mem_and_name_of_find? hfind).2] at hfind
    exact reset_put h.ordered
      { interface with
        vif := some vif, mif := if registry.ipv6 then some vif else none, threshold }
      hfind rfl _ _

/-- A reset forgets that interfaces were enabled one after the other. -/
theorem Consistent.reset_enableEach (h : registry.Consistent) (names : List String) :
    (registry.enableEach names).state.reset = registry.reset := by
  induction names generalizing registry with
  | nil => rfl
  | cons name rest ih =>
      rw [enableEach_cons_state, ih (h.enable name defaultThreshold), h.reset_enable]

/-- A reset forgets that an interface was disabled. -/
theorem Consistent.reset_disable (h : registry.Consistent) (name : String) :
    (registry.disable name).state.reset = registry.reset := by
  obtain ⟨-, heq⟩ | ⟨interface, hfind, heq⟩ := registry.disable_cases name
  · rw [heq]
  · rw [heq]
    rw [← (mem_and_name_of_find? hfind).2] at hfind
    exact reset_put h.ordered interface.released hfind rfl _ _

end StaticMulticast.Registry
