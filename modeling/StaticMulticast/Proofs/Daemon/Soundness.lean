import StaticMulticast.Proofs.Daemon.History
import StaticMulticast.Proofs.Tables.Routes
import StaticMulticast.Proofs.Tables.Soundness

/-!
# What a daemon can come to hold

Whatever a daemon reads, in whatever order and however often, and wherever the reading fails, its
tables stay sound (`Daemon.reachable_sound`). In a route table that it fills, or that is filled in
any other way, no two IPv4 routes are for one source and one network, unless they are for a single
group and one of them has the length 0 and the other the length 32 (`Daemon.networks_apart`).
-/

namespace StaticMulticast.Daemon

/-- The tables of a daemon are sound after any steps. -/
theorem sound_after (setup : Setup) (interfaces : List (String × Nat)) (steps : List Step) :
    ((fresh setup interfaces).after steps).tables.Sound := by
  have hfresh : (fresh setup interfaces).tables.Sound :=
    Tables.sound_initial (Registry.sound_known setup.ipv6 interfaces)
  refine after_keeps ?_ ?_ ?_ rfl hfresh steps
  · exact fun _ name h => h.enable name isThreshold_default
  · exact fun _ _ h hasked => h.perform isThreshold_default hasked.valid
  · exact fun tables _ => Tables.sound_initial tables.registry.sound_reset

/-- After any steps every interface has a threshold from 1 to 255, which is the default one without
a slot; every IPv4 route and every IPv6 route is the one that is found by its own key and the only
one for its source and group, in IPv4 with its length, and is sound; and every membership is
sound. -/
theorem reachable_sound (setup : Setup) (interfaces : List (String × Nat)) (steps : List Step) :
    let tables := ((fresh setup interfaces).after steps).tables
    (∀ interface ∈ tables.registry.interfaces,
      (1 ≤ interface.threshold.toNat ∧ interface.threshold.toNat ≤ 255) ∧
        (interface.vif = none → interface.mif = none → interface.threshold = 1)) ∧
    (∀ route ∈ tables.routes.v4,
      Ordered.find? Route.V4.key route.key tables.routes.v4 = some route ∧
        (∀ other ∈ tables.routes.v4, (Route.v4 other).SameKey (.v4 route) → other = route) ∧
        route.Sound) ∧
    (∀ route ∈ tables.routes.v6,
      Ordered.find? Route.V6.key route.key tables.routes.v6 = some route ∧
        (∀ other ∈ tables.routes.v6, (Route.v6 other).SameKey (.v6 route) → other = route) ∧
        route.Sound) ∧
    ∀ membership ∈ tables.groups.joined, membership.Sound := by
  intro tables
  have hsound : tables.Sound := sound_after setup interfaces steps
  have hsorted : tables.routes.Sorted := ⟨hsound.sorted.v4, hsound.sorted.v6⟩
  refine ⟨fun interface hmem => ?_, fun route hmem => ?_, fun route hmem => ?_, hsound.joined⟩
  · have hinterface := hsound.registry interface hmem
    refine ⟨hinterface.isThreshold, fun hvif hmif => hinterface.default_of_disabled ?_⟩
    simp [Interface.isEnabled, hvif, hmif]
  · refine ⟨Ordered.find?_key hsorted.v4 hmem, fun other hother hsame => ?_, hsound.v4 route hmem⟩
    exact Route.v4.inj (hsorted.eq_of_sameKey (Route.Table.mem_routes_v4.2 hother)
      (Route.Table.mem_routes_v4.2 hmem) hsame)
  · refine ⟨Ordered.find?_key hsorted.v6 hmem, fun other hother hsame => ?_, hsound.v6 route hmem⟩
    exact Route.v6.inj (hsorted.eq_of_sameKey (Route.Table.mem_routes_v6.2 hother)
      (Route.Table.mem_routes_v6.2 hmem) hsame)

/-! ## Networks -/

/-- In a route table after any additions of routes with lengths up to 32 and removals of all routes,
and in that of a daemon after any steps, two IPv4 routes are for one source and one network only if
one has the length 0 and the other the length 32, and in that of a daemon only if they are for any
source. A route that is added takes the place of the one for its source and its network, unless
their lengths are these two. -/
theorem networks_apart :
    (∀ history : List Route.Action,
      (∀ route : Route.V4, .add (.v4 route) ∈ history → route.length.toNat ≤ 32) →
        (Route.Table.empty.after history).NetworksApart) ∧
    ∀ (setup : Setup) (interfaces : List (String × Nat)) (steps : List Step),
      let table := ((fresh setup interfaces).after steps).tables.routes
      table.NetworksApart ∧
        ∀ first ∈ table.v4, ∀ second ∈ table.v4, first ≠ second → first.SameNetwork second →
          first.source = .unspecified := by
  constructor
  · intro history hlengths
    exact (Route.Table.sorted_empty.after history).networksApart
      (Route.Table.forall_mem_after hlengths)
  · intro setup interfaces steps table
    have hsound := sound_after setup interfaces steps
    have hsorted : table.Sorted := ⟨hsound.sorted.v4, hsound.sorted.v6⟩
    have hapart : table.NetworksApart :=
      hsorted.networksApart fun route hroute => (hsound.v4 route hroute).length_le
    refine ⟨hapart, fun first hfirst second hsecond hne hsame => ?_⟩
    -- One of the two has the length 32, and a route with a length is for any source.
    obtain ⟨-, hfull⟩ | ⟨hfull, -⟩ := hapart.lengths first hfirst second hsecond hne hsame
    · rw [hsame.1]
      exact (hsound.v4 second hsecond).source_eq (by rw [hfull]; decide)
    · exact (hsound.v4 first hfirst).source_eq (by rw [hfull]; decide)

/-- A route without a length and one with the length 32 stand side by side for one group. A further
one with the length 32 takes the place of the latter alone. -/
theorem networks_apart_two_routes :
    let single : Route.V4 := ⟨0, .unspecified, ⟨239, 1, 1, 1⟩, 0, [⟨1, 1⟩]⟩
    let full : Route.V4 := ⟨0, .unspecified, ⟨239, 1, 1, 1⟩, 32, [⟨2, 1⟩]⟩
    let later : Route.V4 := ⟨0, .unspecified, ⟨239, 1, 1, 1⟩, 32, [⟨3, 1⟩]⟩
    let table := Route.Table.empty.after [.add (.v4 single), .add (.v4 full)]
    let changed := (table.addV4 later).state
    Route.SingleLengths single.length full.length ∧
      single ∈ changed.v4 ∧ full ∉ changed.v4 ∧ later ∈ changed.v4 := by
  intro single full later table changed
  have hlengths : ∀ route : Route.V4,
      .add (.v4 route) ∈ [Route.Action.add (.v4 single), .add (.v4 full)] →
        route.length.toNat ≤ 32 := by
    intro route hroute
    simp only [List.mem_cons, Route.Action.add.injEq, Route.v4.injEq, List.not_mem_nil,
      or_false] at hroute
    obtain rfl | rfl := hroute <;> decide
  obtain ⟨hapart, hreplaces⟩ := networks_apart.1 _ hlengths
  have hchanged := hreplaces later (by decide) (by decide)
  refine ⟨hapart single (by decide) full (by decide) (by decide) (by decide), ?_, ?_, ?_⟩
  · exact (hchanged single (by decide)).2 (.inr (by decide))
  · exact mt (hchanged full (by decide)).1 (by decide)
  · exact (hchanged later (by decide)).2 (.inl rfl)

/-- A group with the length 32 and the same group without a length are one network, for which both
routes stand in the table. -/
theorem two_routes_of_one_network :
    let single : Route.V4 := ⟨0, .unspecified, ⟨239, 1, 1, 1⟩, 0, [⟨1, 1⟩]⟩
    let full : Route.V4 := ⟨0, .unspecified, ⟨239, 1, 1, 1⟩, 32, [⟨2, 1⟩]⟩
    let table := Route.Table.empty.after [.add (.v4 single), .add (.v4 full)]
    (single.length.toNat ≤ 32 ∧ full.length.toNat ≤ 32) ∧
      (single ∈ table.v4 ∧ full ∈ table.v4 ∧ single ≠ full) ∧
      single.source = full.source ∧ single.network = full.network ∧
      single.outbound ≠ full.outbound := by
  decide

end StaticMulticast.Daemon
