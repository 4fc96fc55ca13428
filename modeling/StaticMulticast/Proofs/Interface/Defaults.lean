import StaticMulticast.Proofs.Interface.Reset
import StaticMulticast.Proofs.Interface.Slots
import StaticMulticast.Proofs.Text.Utf8

/-!
# Enabling all interfaces

What enabling one interface after the other comes to. Each is enabled in its place, so what is left
is a list of settled interfaces (`settleAll`), and what is asked about the registry is shown of that
list by induction: an interface with a slot keeps it, and those without one take the free slots
until there is none (`Registry.enableAll_effects`).
-/

namespace StaticMulticast

namespace Registry

variable {registry : Registry} {interface : Interface} {pool : SlotPool} {held : List Nat}
  {interfaces done rest : List Interface}

/-! ## Interfaces in order -/

/-- An interface with a slot in each table in use, and with the default threshold. -/
def settle (ipv6 : Bool) (slot : Nat) (interface : Interface) : Interface :=
  { interface with
    vif := some slot, mif := if ipv6 then some slot else none, threshold := defaultThreshold }

@[simp]
theorem settle_name (ipv6 : Bool) (slot : Nat) (interface : Interface) :
    (settle ipv6 slot interface).name = interface.name := rfl

@[simp]
theorem settle_vif (ipv6 : Bool) (slot : Nat) (interface : Interface) :
    (settle ipv6 slot interface).vif = some slot := rfl

/-- Interfaces after they were enabled one after the other, and the slots then in use. Each keeps
its slot or takes the lowest that is free, and stays as it is if there is none. -/
def settleAll (ipv6 : Bool) (pool : SlotPool) : List Interface → List Interface × SlotPool
  | [] => ([], pool)
  | interface :: rest =>
      match holdOrTake? interface.vif pool with
      | none =>
          let later := settleAll ipv6 pool rest
          (interface :: later.1, later.2)
      | some (slot, taken) =>
          let later := settleAll ipv6 taken rest
          (settle ipv6 slot interface :: later.1, later.2)

@[simp]
theorem settleAll_nil (ipv6 : Bool) (pool : SlotPool) : settleAll ipv6 pool [] = ([], pool) := rfl

/-- The first interface stays as it is if there is no slot for it. -/
theorem settleAll_cons_of_none (ipv6 : Bool) (htake : holdOrTake? interface.vif pool = none) :
    settleAll ipv6 pool (interface :: rest) =
      (interface :: (settleAll ipv6 pool rest).1, (settleAll ipv6 pool rest).2) := by
  rw [settleAll, htake]

/-- The first interface is settled with the slot there is for it. -/
theorem settleAll_cons_of_some (ipv6 : Bool) {slot : Nat} {taken : SlotPool}
    (htake : holdOrTake? interface.vif pool = some (slot, taken)) :
    settleAll ipv6 pool (interface :: rest) =
      (settle ipv6 slot interface :: (settleAll ipv6 taken rest).1,
        (settleAll ipv6 taken rest).2) := by
  rw [settleAll, htake]

/-- An interface with a slot is settled with that. -/
theorem settleAll_cons_of_held (ipv6 : Bool) {slot : Nat} (hvif : interface.vif = some slot) :
    settleAll ipv6 pool (interface :: rest) =
      (settle ipv6 slot interface :: (settleAll ipv6 pool rest).1,
        (settleAll ipv6 pool rest).2) :=
  settleAll_cons_of_some ipv6 (by rw [hvif, holdOrTake?_some])

/-- An interface without a slot stays as it is if there is none free. -/
theorem settleAll_cons_of_full (ipv6 : Bool) (hvif : interface.vif = none)
    (hfull : pool.take? = none) :
    settleAll ipv6 pool (interface :: rest) =
      (interface :: (settleAll ipv6 pool rest).1, (settleAll ipv6 pool rest).2) :=
  settleAll_cons_of_none ipv6 (by rw [hvif, holdOrTake?_none, hfull])

/-- An interface without a slot is settled with the one it takes. -/
theorem settleAll_cons_of_taken (ipv6 : Bool) {slot : Nat} {taken : SlotPool}
    (hvif : interface.vif = none) (htake : pool.take? = some (slot, taken)) :
    settleAll ipv6 pool (interface :: rest) =
      (settle ipv6 slot interface :: (settleAll ipv6 taken rest).1,
        (settleAll ipv6 taken rest).2) :=
  settleAll_cons_of_some ipv6 (by rw [hvif, holdOrTake?_none, htake])

/-- An interface in the middle of the others is enabled in its place, or there is no slot. -/
theorem Consistent.enable_middle (h : registry.Consistent)
    (hinterfaces : registry.interfaces = done ++ interface :: rest) :
    (holdOrTake? interface.vif registry.vifs = none ∧
      registry.enable interface.name defaultThreshold =
        ⟨.error (.tableFull "vif"), registry, []⟩) ∨
    ∃ slot taken, holdOrTake? interface.vif registry.vifs = some (slot, taken) ∧
      registry.enable interface.name defaultThreshold =
        ⟨.ok (),
          ⟨registry.ipv6, done ++ settle registry.ipv6 slot interface :: rest, taken,
            if registry.ipv6 then taken else .empty⟩,
          [.enabled interface.name (some slot) (if registry.ipv6 then some slot else none)
            defaultThreshold]⟩ := by
  have hordered := h.ordered
  rw [hinterfaces] at hordered
  have hfound : registry.find? interface.name = some interface := by
    refine Ordered.find?_key h.ordered ?_
    rw [hinterfaces]
    exact List.mem_append_right done List.mem_cons_self
  obtain ⟨hfind, -⟩ | ⟨same, hfind, htake, heq⟩ | ⟨same, slot, taken, hfind, htake, heq⟩ :=
    h.enable_cases interface.name defaultThreshold
  · rw [hfound] at hfind
    cases hfind
  · obtain rfl : interface = same := Option.some.inj (hfound.symm.trans hfind)
    exact .inl ⟨htake, heq⟩
  · obtain rfl : interface = same := Option.some.inj (hfound.symm.trans hfind)
    have hplace := Ordered.insert_middle hordered (settle registry.ipv6 slot interface) rfl
    refine .inr ⟨slot, taken, htake, heq.trans ?_⟩
    simp only [put, hinterfaces]
    rw [← hplace]
    rfl

/-- Enabling interfaces one after the other, from some place on, settles these. It counts those that
have a slot then, and warns of the others. -/
theorem Consistent.enableEach_settleAll (h : registry.Consistent)
    (hinterfaces : registry.interfaces = done ++ rest) :
    let settled := settleAll registry.ipv6 registry.vifs rest
    let enabling := registry.enableEach (rest.map Interface.name)
    enabling.state =
      ⟨registry.ipv6, done ++ settled.1, settled.2, if registry.ipv6 then settled.2 else .empty⟩ ∧
    enabling.value = settled.1.countP (·.vif.isSome) ∧
    enabling.events.filter (·.record.level = .warning) =
      (settled.1.filter (·.vif.isNone)).map fun left =>
        .leftDisabled left.name (.tableFull "vif") := by
  induction rest generalizing registry done with
  | nil =>
      refine ⟨?_, rfl, rfl⟩
      show registry = _
      obtain ⟨ipv6, interfaces, vifs, mifs⟩ := registry
      obtain rfl : mifs = if ipv6 then vifs else .empty := h.mifs_eq
      obtain rfl : interfaces = done ++ [] := hinterfaces
      rfl
  | cons interface rest ih =>
      obtain ⟨htake, heq⟩ | ⟨slot, taken, htake, heq⟩ := h.enable_middle hinterfaces
      · have hdone : registry.interfaces = (done ++ [interface]) ++ rest := by
          rw [hinterfaces, List.append_assoc, List.singleton_append]
        obtain ⟨hstate, hvalue, hevents⟩ := ih h hdone
        have hvif : interface.vif = none := eq_none_of_holdOrTake? htake
        simp only [List.map_cons, Registry.enableEach, heq, settleAll_cons_of_none _ htake, hstate,
          hvalue]
        refine ⟨by simp, by simp [hvif], ?_⟩
        rw [List.nil_append, List.filter_cons_of_pos (by rfl), hevents]
        simp [hvif]
      · have hlater := h.enable interface.name defaultThreshold
        rw [heq] at hlater
        have hdone : done ++ settle registry.ipv6 slot interface :: rest =
            (done ++ [settle registry.ipv6 slot interface]) ++ rest := by
          rw [List.append_assoc, List.singleton_append]
        obtain ⟨hstate, hvalue, hevents⟩ := ih hlater hdone
        simp only [List.map_cons, Registry.enableEach, heq, settleAll_cons_of_some _ htake, hstate,
          hvalue]
        refine ⟨by simp, by rw [List.countP_cons_of_pos rfl], ?_⟩
        have hquiet : ¬ (Interface.Event.enabled interface.name (some slot)
            (if registry.ipv6 then some slot else none) defaultThreshold).record.level =
              .warning := by
          simp [Interface.Event.record]
        rw [List.singleton_append, List.filter_cons_of_neg (by simpa using hquiet), hevents]
        simp

/-! ## What becomes of the interfaces -/

/-- Settling leaves the names. -/
theorem map_name_settleAll (ipv6 : Bool) (pool : SlotPool) (interfaces : List Interface) :
    (settleAll ipv6 pool interfaces).1.map Interface.name = interfaces.map Interface.name := by
  induction interfaces generalizing pool with
  | nil => rfl
  | cons interface rest ih =>
      cases htake : holdOrTake? interface.vif pool with
      | none => simp [settleAll_cons_of_none ipv6 htake, ih]
      | some taken =>
          obtain ⟨slot, later⟩ := taken
          simp [settleAll_cons_of_some ipv6 htake, ih]

/-- An interface that was settled has the default threshold, if it has a slot. -/
theorem threshold_of_mem_settleAll {ipv6 : Bool}
    (hmem : interface ∈ (settleAll ipv6 pool interfaces).1)
    (hvif : interface.vif.isSome = true) : interface.threshold = defaultThreshold := by
  induction interfaces generalizing pool with
  | nil => cases hmem
  | cons first rest ih =>
      cases htake : holdOrTake? first.vif pool with
      | none =>
          rw [settleAll_cons_of_none ipv6 htake] at hmem
          rcases List.mem_cons.1 hmem with rfl | hmem
          · rw [eq_none_of_holdOrTake? htake] at hvif
            cases hvif
          · exact ih hmem
      | some taken =>
          obtain ⟨slot, later⟩ := taken
          rw [settleAll_cons_of_some ipv6 htake] at hmem
          rcases List.mem_cons.1 hmem with rfl | hmem
          · rfl
          · exact ih hmem

/-- An interface with a slot is settled with that. -/
theorem settle_mem_settleAll {ipv6 : Bool} {slot : Nat} (hmem : interface ∈ interfaces)
    (hvif : interface.vif = some slot) :
    settle ipv6 slot interface ∈ (settleAll ipv6 pool interfaces).1 := by
  induction interfaces generalizing pool with
  | nil => cases hmem
  | cons first rest ih =>
      rcases List.mem_cons.1 hmem with rfl | hmem
      · rw [settleAll_cons_of_held ipv6 hvif]
        exact List.mem_cons_self
      · cases htake : holdOrTake? first.vif pool with
        | none =>
            rw [settleAll_cons_of_none ipv6 htake]
            exact List.mem_cons_of_mem _ (ih hmem)
        | some taken =>
            obtain ⟨own, later⟩ := taken
            rw [settleAll_cons_of_some ipv6 htake]
            exact List.mem_cons_of_mem _ (ih hmem)

/-- Of the interfaces without a slot, those are left that come after as many as there are free
slots. -/
theorem left_settleAll (ipv6 : Bool) (h : pool.Tracks held) (interfaces : List Interface) :
    (settleAll ipv6 pool interfaces).1.filter (·.vif.isNone) =
      (interfaces.filter (·.vif.isNone)).drop (slotCount - held.length) := by
  induction interfaces generalizing pool held with
  | nil => simp
  | cons interface rest ih =>
      cases hvif : interface.vif with
      | some slot => simp [settleAll_cons_of_held ipv6 hvif, hvif, ih h]
      | none =>
          cases htake : pool.take? with
          | none =>
              have hfull := h.take?_eq_none_iff_length.1 htake
              have hnone : slotCount - held.length = 0 := by omega
              simp [settleAll_cons_of_full ipv6 hvif htake, hvif, ih h, hnone]
          | some taken =>
              obtain ⟨slot, later⟩ := taken
              have hlater := h.take? htake
              have hroom : held.length < slotCount := by
                refine Nat.lt_of_not_le fun hfull => ?_
                rw [h.take?_eq_none_iff_length.2 hfull] at htake
                cases htake
              have hone : slotCount - held.length = slotCount - (slot :: held).length + 1 := by
                simp only [List.length_cons]
                omega
              rw [hone]
              simp [settleAll_cons_of_taken ipv6 hvif htake, hvif, ih hlater]

/-- While no slot is free, none is taken. -/
theorem pool_settleAll_of_full (ipv6 : Bool) (hfull : pool.take? = none)
    (interfaces : List Interface) : (settleAll ipv6 pool interfaces).2 = pool := by
  induction interfaces with
  | nil => rfl
  | cons interface rest ih =>
      cases hvif : interface.vif with
      | none => rw [settleAll_cons_of_full ipv6 hvif hfull, ih]
      | some slot => rw [settleAll_cons_of_held ipv6 hvif, ih]

/-- An interface is left without a slot only if none is free in the end. -/
theorem take?_settleAll_of_left {ipv6 : Bool}
    (hmem : interface ∈ (settleAll ipv6 pool interfaces).1) (hvif : interface.vif = none) :
    (settleAll ipv6 pool interfaces).2.take? = none := by
  induction interfaces generalizing pool with
  | nil => cases hmem
  | cons first rest ih =>
      cases htake : holdOrTake? first.vif pool with
      | none =>
          rw [settleAll_cons_of_none ipv6 htake] at hmem ⊢
          rcases List.mem_cons.1 hmem with rfl | hmem
          · have hfull : pool.take? = none := by rwa [hvif] at htake
            rw [pool_settleAll_of_full ipv6 hfull]
            exact hfull
          · exact ih hmem
      | some taken =>
          obtain ⟨slot, later⟩ := taken
          rw [settleAll_cons_of_some ipv6 htake] at hmem ⊢
          rcases List.mem_cons.1 hmem with rfl | hmem
          · cases hvif
          · exact ih hmem

/-- Interfaces that were settled before stay as they are, if there is no slot for the others. -/
theorem settleAll_eq_self {ipv6 : Bool}
    (hsettled : ∀ interface ∈ interfaces, ∀ slot, interface.vif = some slot →
      settle ipv6 slot interface = interface)
    (hleft : ∀ interface ∈ interfaces, interface.vif = none → pool.take? = none) :
    settleAll ipv6 pool interfaces = (interfaces, pool) := by
  induction interfaces with
  | nil => rfl
  | cons interface rest ih =>
      obtain ⟨hfirst, hrest⟩ := List.forall_mem_cons.1 hsettled
      obtain ⟨hfirstLeft, hrestLeft⟩ := List.forall_mem_cons.1 hleft
      cases hvif : interface.vif with
      | none => rw [settleAll_cons_of_full ipv6 hvif (hfirstLeft hvif), ih hrest hrestLeft]
      | some slot =>
          rw [settleAll_cons_of_held ipv6 hvif, ih hrest hrestLeft, hfirst slot hvif]

/-- If no interface has a slot and the first slots are in use, the interfaces get the next ones, in
their order. -/
theorem getElem?_settleAll_range (ipv6 : Bool) {count position : Nat}
    (hnone : ∀ interface ∈ interfaces, interface.vif = none)
    (hfits : count + position < slotCount) :
    (settleAll ipv6 ⟨List.range count⟩ interfaces).1[position]? =
      interfaces[position]?.map (settle ipv6 (count + position)) := by
  induction interfaces generalizing count position with
  | nil => simp
  | cons interface rest ih =>
      obtain ⟨hfirst, hrest⟩ := List.forall_mem_cons.1 hnone
      rw [settleAll_cons_of_taken ipv6 hfirst
        (SlotPool.take?_range (show count < slotCount by omega))]
      cases position with
      | zero => rfl
      | succ position =>
          simp only [List.getElem?_cons_succ]
          rw [ih hrest (by omega), Nat.add_right_comm]
          rfl

/-! ## All interfaces -/

/-- An interface is enabled if it has an IPv4 slot, as it has no other without one. -/
theorem Consistent.isEnabled_eq (h : registry.Consistent) (hmem : interface ∈ registry.interfaces) :
    interface.isEnabled = interface.vif.isSome := by
  rw [Interface.isEnabled, h.mif_eq interface hmem]
  split <;> simp

/-- The interfaces without a slot are those that are not enabled. -/
theorem Consistent.filter_disabled (h : registry.Consistent) :
    (registry.interfaces.filter fun interface => !interface.isEnabled) =
      registry.interfaces.filter (·.vif.isNone) := by
  refine List.filter_congr fun interface hmem => ?_
  rw [h.isEnabled_eq hmem]
  cases interface.vif <;> rfl

/-- As many interfaces are enabled as have a slot. -/
theorem Consistent.length_enabled (h : registry.Consistent) :
    registry.enabled.length = registry.interfaces.countP (·.vif.isSome) := by
  rw [enabled, List.countP_eq_length_filter]
  exact congrArg List.length (List.filter_congr fun interface hmem => h.isEnabled_eq hmem)

/-- Each interface has a slot or has none. -/
theorem length_eq_countP_add (interfaces : List Interface) :
    interfaces.length =
      interfaces.countP (·.vif.isSome) + (interfaces.filter (·.vif.isNone)).length := by
  rw [List.length_eq_countP_add_countP (·.vif.isSome), ← List.countP_eq_length_filter]
  congr 2
  funext interface
  cases interface.vif <;> rfl

/-- Enabling all interfaces leaves as many with a slot as there are interfaces, or else slots. -/
theorem Consistent.countP_settleAll (h : registry.Consistent) :
    (settleAll registry.ipv6 registry.vifs registry.interfaces).1.countP (·.vif.isSome) =
      min registry.interfaces.length slotCount := by
  have hbefore := length_eq_countP_add registry.interfaces
  have hafter := length_eq_countP_add
    (settleAll registry.ipv6 registry.vifs registry.interfaces).1
  have hlength := congrArg List.length
    (map_name_settleAll registry.ipv6 registry.vifs registry.interfaces)
  have hheld := h.tracked.length_le
  rw [List.length_map, List.length_map] at hlength
  rw [left_settleAll registry.ipv6 h.tracked, List.length_drop, hlength] at hafter
  rw [List.length_filterMap_eq_countP] at hheld hafter
  omega

/-- Enabling interfaces that were never used gives them the slots in their order. -/
theorem Consistent.enableAll_unused (h : registry.Consistent) (hreset : registry.reset = registry)
    {position : Nat} (hfits : position < slotCount) :
    registry.enableAll.state.interfaces[position]? =
      registry.interfaces[position]?.map (settle registry.ipv6 position) := by
  obtain ⟨hreleased, hvifs, -⟩ := reset_eq_self_iff.1 hreset
  obtain ⟨hstate, -, -⟩ := h.enableEach_settleAll (List.nil_append registry.interfaces).symm
  have hnone : ∀ interface ∈ registry.interfaces, interface.vif = none :=
    fun interface hmem => hreleased interface hmem ▸ rfl
  have hrange := getElem?_settleAll_range registry.ipv6 hnone
    (show 0 + position < slotCount by omega)
  rw [Nat.zero_add] at hrange
  rw [enableAll, hstate, List.nil_append, hvifs]
  exact hrange

/-- Enabling all interfaces changes nothing if those with a slot have the default threshold, and
there is no slot for the others. -/
theorem Consistent.enableAll_eq_self (h : registry.Consistent)
    (hdefault : ∀ interface ∈ registry.interfaces, interface.vif.isSome = true →
      interface.threshold = defaultThreshold)
    (hleft : ∀ interface ∈ registry.interfaces, interface.vif = none →
      registry.vifs.take? = none) : registry.enableAll.state = registry := by
  obtain ⟨hstate, -, -⟩ := h.enableEach_settleAll (List.nil_append registry.interfaces).symm
  have hsettled : ∀ interface ∈ registry.interfaces, ∀ slot, interface.vif = some slot →
      settle registry.ipv6 slot interface = interface := by
    intro interface hmem slot hvif
    rw [settle, ← hvif, ← h.mif_eq interface hmem, ← hdefault interface hmem (by simp [hvif])]
  rw [enableAll, hstate, settleAll_eq_self hsettled hleft, ← h.mifs_eq, List.nil_append]

/-- After any history of a registry, enabling all its interfaces enables as many as there are, or as
there are slots, and counts these. They have the default threshold, and those that were enabled are
otherwise as they were. The ones left are the last, in the order of the octets of their names, of
those that were not enabled, and there is one warning of each. If the interfaces were never used, or
not since a reset, they get the slots in that order. To enable all once more changes nothing. -/
theorem enableAll_effects (ipv6 : Bool) (actions : List Action) :
    let registry := (empty ipv6).after actions
    let enabling := registry.enableAll
    let later := enabling.state
    let left := later.interfaces.filter fun interface => !interface.isEnabled
    (registry.interfaces.Pairwise fun first second =>
      first.name.toUTF8.toList < second.name.toUTF8.toList) ∧
    later.interfaces.map Interface.name = registry.interfaces.map Interface.name ∧
    enabling.value = min registry.interfaces.length 32 ∧
    later.enabled.length = min registry.interfaces.length 32 ∧
    (∀ interface ∈ later.enabled, interface.threshold = defaultThreshold) ∧
    (∀ interface ∈ registry.enabled,
      { interface with threshold := defaultThreshold } ∈ later.enabled) ∧
    left <:+ registry.interfaces.filter (fun interface => !interface.isEnabled) ∧
    enabling.events.filter (·.record.level = .warning) =
      left.map (fun interface => .leftDisabled interface.name (.tableFull "vif")) ∧
    (∀ start, start = registry.reset ∨ (∃ listed, start = known ipv6 listed) →
      ∀ position < 32, start.enableAll.state.interfaces[position]? =
        start.interfaces[position]?.map fun interface =>
          ⟨interface.name, interface.index, some position, if ipv6 then some position else none,
            defaultThreshold⟩) ∧
    later.enableAll.state = later := by
  intro registry enabling later left
  have h : registry.Consistent := (consistent_empty ipv6).after actions
  have hlater : later.Consistent := h.enableEach _
  have hipv6 : registry.ipv6 = ipv6 := after_ipv6 _ actions
  obtain ⟨hstate, hvalue, hevents⟩ :=
    h.enableEach_settleAll (List.nil_append registry.interfaces).symm
  let settled := settleAll registry.ipv6 registry.vifs registry.interfaces
  have hinterfaces : later.interfaces = settled.1 := congrArg interfaces hstate
  have hleft : left = settled.1.filter (·.vif.isNone) := by
    rw [← hinterfaces]
    exact hlater.filter_disabled
  have hcount := h.countP_settleAll
  have hmem : ∀ interface, interface ∈ later.enabled ↔
      interface ∈ settled.1 ∧ interface.isEnabled = true := by
    rw [← hinterfaces]
    exact fun _ => List.mem_filter
  refine ⟨?_, ?_, ?_, ?_, ?_, ?_, ?_, ?_, ?_, ?_⟩
  · exact h.ordered.imp Text.Utf8.toUTF8_lt_of_compare
  · rw [hinterfaces, map_name_settleAll]
  · exact hvalue.trans hcount
  · rw [hlater.length_enabled, hinterfaces]
    exact hcount
  · intro interface hinterface
    obtain ⟨hsettled, henabled⟩ := (hmem interface).1 hinterface
    rw [hlater.isEnabled_eq (hinterfaces ▸ hsettled)] at henabled
    exact threshold_of_mem_settleAll hsettled henabled
  · intro interface hinterface
    obtain ⟨hknown, henabled⟩ := List.mem_filter.1 hinterface
    obtain ⟨slot, hvif⟩ := Option.isSome_iff_exists.1 (h.isEnabled_eq hknown ▸ henabled)
    have hsettle : settle registry.ipv6 slot interface =
        { interface with threshold := defaultThreshold } := by
      rw [settle, ← hvif, ← h.mif_eq interface hknown]
    rw [hmem, ← hsettle]
    exact ⟨settle_mem_settleAll hknown hvif, rfl⟩
  · rw [hleft, h.filter_disabled, left_settleAll registry.ipv6 h.tracked]
    exact List.drop_suffix _ _
  · rw [hleft]
    exact hevents
  · rintro start hstart position hfits
    have hunused : start.Consistent ∧ start.reset = start ∧ start.ipv6 = ipv6 := by
      obtain rfl | ⟨listed, rfl⟩ := hstart
      · exact ⟨h.reset, reset_reset registry, hipv6⟩
      · exact ⟨consistent_known ipv6 listed, reset_known ipv6 listed,
          insert_all_ipv6 (empty ipv6) listed⟩
    obtain ⟨hconsistent, hreset, rfl⟩ := hunused
    exact hconsistent.enableAll_unused hreset hfits
  · have hvifs : later.vifs = settled.2 := congrArg vifs hstate
    refine hlater.enableAll_eq_self (fun interface hknown hvif => ?_)
      (fun interface hknown hvif => ?_)
    · exact threshold_of_mem_settleAll (hinterfaces ▸ hknown) hvif
    · rw [hvifs]
      exact take?_settleAll_of_left (hinterfaces ▸ hknown) hvif

end Registry

end StaticMulticast
