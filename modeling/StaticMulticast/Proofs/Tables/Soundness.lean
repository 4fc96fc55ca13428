import StaticMulticast.Proofs.Configuration.Pass
import StaticMulticast.Proofs.Configuration.Validity
import StaticMulticast.Proofs.Interface.Soundness
import StaticMulticast.Proofs.Tables.Order

/-!
# What the tables can hold

Every route and every membership that the tables hold fits the kernel's tables and its own family,
and every threshold is in its range (`Tables.Sound`). An operation that a line asks for keeps this:
its addresses and lengths were checked when the line was read, its thresholds are those of sound
interfaces, and its slots are checked when it is carried out.
-/

namespace StaticMulticast

open StaticMulticast.Configuration
open StaticMulticast.Configuration.Operation (ValidOutbound)
open Address (Family)

/-! ## Routes -/

namespace Route

/-- The ways out of a route: 1 to 32, by different slots of the table, with thresholds from 1 to
255. -/
structure SoundOutbound (outbound : List Exit) : Prop where
  one_le : 1 ≤ outbound.length
  le_most : outbound.length ≤ 32
  nodup : (outbound.map Exit.slot).Nodup
  slot_lt : ∀ exit ∈ outbound, exit.slot < 32
  isThreshold : ∀ exit ∈ outbound, IsThreshold exit.threshold

/-- An IPv4 route is one for a group of 224.0.0.0/4 or a range of such groups, for packets of any
source if it is a range. -/
structure V4.Sound (route : V4) : Prop where
  isMulticast : route.group.isMulticast = true
  length_le : route.length.toNat ≤ 32
  source_eq : 0 < route.length → route.source = .unspecified
  inbound_lt : route.inbound < 32
  outbound : SoundOutbound route.outbound

/-- An IPv6 route is one for a group of ff00::/8. -/
structure V6.Sound (route : V6) : Prop where
  isMulticast : route.group.isMulticast = true
  inbound_lt : route.inbound < 32
  outbound : SoundOutbound route.outbound

/-- Ways out by sound interfaces are sound if the kernel has their slots. -/
theorem SoundOutbound.of_valid {registry : Registry} (hregistry : registry.Sound)
    {family : Family} {outbound : List Exit}
    (hvalid : ValidOutbound registry.forwarding? family outbound)
    (hslots : ∀ exit ∈ outbound, exit.slot < 32) : SoundOutbound outbound where
  one_le := hvalid.one_le
  le_most := hvalid.le_most
  nodup := hvalid.nodup
  slot_lt := hslots
  isThreshold exit hexit := by
    obtain ⟨name, forwarding, -, hfound, -, hthreshold⟩ := hvalid.leadsTo exit hexit
    rw [← hthreshold]
    exact hregistry.isThreshold_of_forwarding? hfound

variable {settings : Settings} {registry : Registry}

/-- An IPv4 route that a line asks for is sound if the kernel has its slots. -/
theorem V4.sound_of_valid (hregistry : registry.Sound) {route : V4}
    (hvalid : (Operation.addV4 route).Valid settings registry.forwarding?)
    (hslots : refusedSlot? "vif" route.inbound route.outbound = none) : route.Sound := by
  obtain ⟨-, hmulticast, hlength, hsource, houtbound⟩ := hvalid
  obtain ⟨hinbound, hslots⟩ := refusedSlot?_eq_none_iff.1 hslots
  exact ⟨hmulticast, UInt8.le_iff_toNat_le.1 hlength, hsource, hinbound,
    .of_valid hregistry houtbound hslots⟩

/-- An IPv6 route that a line asks for is sound if the kernel has its slots. -/
theorem V6.sound_of_valid (hregistry : registry.Sound) {route : V6}
    (hvalid : (Operation.addV6 route).Valid settings registry.forwarding?)
    (hslots : refusedSlot? "mif" route.inbound route.outbound = none) : route.Sound := by
  obtain ⟨-, -, hmulticast, houtbound⟩ := hvalid
  obtain ⟨hinbound, hslots⟩ := refusedSlot?_eq_none_iff.1 hslots
  exact ⟨hmulticast, hinbound, .of_valid hregistry houtbound hslots⟩

end Route

/-! ## Memberships -/

/-- The group of a membership is a multicast address, and a source is that of an IPv4 group and an
IPv4 address too. -/
structure Membership.Sound (membership : Membership) : Prop where
  isMulticast : match membership.group with
    | .v4 group => group.isMulticast = true
    | .v6 group => group.isMulticast = true
  source_v4 : ∀ source, membership.source = some source →
    membership.family = .inet ∧ source.family = .inet

/-- A membership that a line asks for is sound. -/
theorem Membership.sound_of_valid {settings : Settings} {lookup : Lookup} {membership : Membership}
    (h : (Operation.join membership).Valid settings lookup) : membership.Sound := by
  obtain ⟨name, source, group⟩ := membership
  obtain ⟨-, ⟨address, rfl, hmulticast, hsource⟩ | ⟨-, address, rfl, hmulticast, rfl⟩⟩ := h
  · refine ⟨hmulticast, fun found hfound => ⟨rfl, ?_⟩⟩
    obtain rfl | ⟨sender, rfl⟩ := hsource
    · cases hfound
    · cases hfound
      rfl
  · exact ⟨hmulticast, fun found hfound => nomatch hfound⟩

/-! ## Operations -/

/-- An operation that a line asks for is valid. -/
theorem Configuration.Operation.AskedFor.valid {settings : Settings} {lookup : Lookup}
    {operation : Operation} (h : operation.AskedFor settings lookup) :
    operation.Valid settings lookup := by
  obtain ⟨line, hline⟩ := h
  simp only [Line.operation] at hline
  split at hline
  · cases hline
  · obtain ⟨statement, hread, hstatement⟩ := Operation.ofLine_eq_ok_iff.1 hline
    exact Operation.valid_of_ofStatement (Statement.valid_of_read hread) hstatement

namespace Tables

/-- All that the tables hold is sound, and the routes and memberships are known by their own
keys. -/
structure Sound (tables : Tables) : Prop where
  sorted : tables.Sorted
  registry : tables.registry.Sound
  v4 : ∀ route ∈ tables.routes.v4, route.Sound
  v6 : ∀ route ∈ tables.routes.v6, route.Sound
  joined : ∀ membership ∈ tables.groups.joined, membership.Sound

variable {tables : Tables}

/-- Empty tables over a sound registry are sound. -/
theorem sound_initial {registry : Registry} (h : registry.Sound) : (initial registry).Sound where
  sorted := sorted_initial registry
  registry := h
  v4 := List.forall_mem_nil _
  v6 := List.forall_mem_nil _
  joined := List.forall_mem_nil _

/-- Enabling an interface keeps the tables sound. -/
theorem Sound.enable (h : tables.Sound) (name : String) {threshold : UInt8}
    (hthreshold : IsThreshold threshold) : (tables.perform (.enable name threshold)).state.Sound :=
  ⟨h.sorted.perform _, h.registry.enable name hthreshold, h.v4, h.v6, h.joined⟩

/-- An operation that a line asks for keeps the tables sound. -/
theorem Sound.perform (h : tables.Sound) {settings : Settings}
    (hsettings : IsThreshold settings.threshold) {operation : Operation}
    (hvalid : operation.Valid settings tables.registry.forwarding?) :
    (tables.perform operation).state.Sound := by
  have hsorted := h.sorted.perform operation
  cases operation with
  | enable name threshold =>
      refine h.enable name ?_
      obtain hone | rfl := hvalid.2
      · exact isThreshold_iff.2 hone
      · exact hsettings
  | disable name => exact ⟨hsorted, h.registry.disable name, h.v4, h.v6, h.joined⟩
  | join membership =>
      rw [perform_join_state] at hsorted ⊢
      obtain ⟨_, -, heq⟩ | ⟨-, heq⟩ := tables.groups.join_cases membership
      · rw [heq]
        exact h
      · rw [heq] at hsorted ⊢
        have hmembership := Membership.sound_of_valid hvalid
        exact ⟨hsorted, h.registry, h.v4, h.v6, Ordered.forall_mem_insert hmembership h.joined⟩
  | addV4 route =>
      rw [perform_addV4_state] at hsorted ⊢
      obtain ⟨_, -, heq⟩ | ⟨hslots, heq⟩ := tables.routes.addV4_cases route
      · rw [heq]
        exact h
      · rw [heq] at hsorted ⊢
        have hroute := Route.V4.sound_of_valid h.registry hvalid hslots
        exact ⟨hsorted, h.registry, Ordered.forall_mem_insert hroute h.v4, h.v6, h.joined⟩
  | addV6 route =>
      rw [perform_addV6_state] at hsorted ⊢
      obtain ⟨_, -, heq⟩ | ⟨hslots, heq⟩ := tables.routes.addV6_cases route
      · rw [heq]
        exact h
      · rw [heq] at hsorted ⊢
        have hroute := Route.V6.sound_of_valid h.registry hvalid hslots
        exact ⟨hsorted, h.registry, h.v4, Ordered.forall_mem_insert hroute h.v6, h.joined⟩

end Tables

end StaticMulticast
