import StaticMulticast.Proofs.Daemon.History
import StaticMulticast.Proofs.Tables.WithoutIPv6

/-!
# A daemon without IPv6

Whether a daemon uses IPv6 makes no difference to what it does for IPv4. Leaving out all that it has
for IPv6 commutes with every step, so a daemon without IPv6 always is what is left of one with IPv6
(`Daemon.ipv4_independent_of_ipv6`).
-/

namespace StaticMulticast

open Address (Family)
open CommandLine (Options)

/-! ## The same choices without IPv6 -/

/-- The same choices, but without IPv6. -/
def Setup.withoutIPv6 (setup : Setup) : Setup :=
  { setup with ipv6 := false }

/-- To ask for no IPv6 changes no other choice. -/
theorem Setup.ofOptions_noIPv6 (options : Options) (noIPv6 : Bool) :
    ofOptions { options with noIPv6 } =
      (ofOptions options).map fun setup => { setup with ipv6 := !noIPv6 } := by
  unfold ofOptions
  split <;> rfl

/-- The same interfaces become known. -/
theorem Registry.known_withoutIPv6 (ipv6 : Bool) (interfaces : List (String × Nat)) :
    known false interfaces = (known ipv6 interfaces).withoutIPv6 := by
  unfold known
  have hempty : empty false = (empty ipv6).withoutIPv6 := rfl
  rw [hempty]
  generalize empty ipv6 = registry
  induction interfaces generalizing registry with
  | nil => rfl
  | cons entry rest ih => rw [List.foldl_cons, List.foldl_cons, insert_withoutIPv6, ih]

namespace Daemon

/-- The daemon as it is without IPv6. -/
def withoutIPv6 (daemon : Daemon) : Daemon :=
  ⟨daemon.setup.withoutIPv6, daemon.tables.withoutIPv6⟩

/-- New daemons differ in IPv6 alone. -/
theorem fresh_withoutIPv6 (setup : Setup) (interfaces : List (String × Nat)) :
    fresh setup.withoutIPv6 interfaces = (fresh setup interfaces).withoutIPv6 :=
  congrArg (initial setup.withoutIPv6) (Registry.known_withoutIPv6 setup.ipv6 interfaces)

/-! ## Steps -/

variable {daemon : Daemon}

/-- Enabling what is enabled by default leaves the same for IPv4. -/
theorem enableByDefault_withoutIPv6 (daemon : Daemon) :
    daemon.withoutIPv6.enableByDefault.state = daemon.enableByDefault.state.withoutIPv6 := by
  unfold enableByDefault
  have hwanted : daemon.withoutIPv6.setup.enablesByDefault = daemon.setup.enablesByDefault := rfl
  rw [hwanted]
  split
  · exact congrArg (fun registry => mk daemon.setup.withoutIPv6
      ⟨registry, daemon.tables.routes.withoutIPv6, daemon.tables.groups.withoutIPv6⟩)
      daemon.tables.registry.enableAll_withoutIPv6
  · rfl

/-- Reading the configuration leaves the same for IPv4. -/
theorem load_withoutIPv6 (hsorted : daemon.tables.Sorted) (environment : Host.Environment) :
    (daemon.withoutIPv6.load environment).state = (daemon.load environment).state.withoutIPv6 :=
  congrArg (mk daemon.setup.withoutIPv6)
    (Tables.load_withoutIPv6 _ daemon.setup.settings (fun _ => rfl) environment
      daemon.setup.configFile hsorted)

/-- Forgetting leaves the same for IPv4. -/
theorem forget_withoutIPv6 (daemon : Daemon) :
    daemon.withoutIPv6.forget.state = daemon.forget.state.withoutIPv6 :=
  congrArg (initial daemon.setup.withoutIPv6) daemon.tables.registry.reset_withoutIPv6

/-- Enabling what is enabled by default leaves the tables sorted. -/
theorem sorted_enableByDefault (hsorted : daemon.tables.Sorted) :
    daemon.enableByDefault.state.tables.Sorted :=
  enableByDefault_keeps (fun _ _ h => h.perform _) hsorted

/-- A step leaves the tables sorted. -/
theorem sorted_step (hsorted : daemon.tables.Sorted) (taken : Step) :
    (daemon.step taken).tables.Sorted := by
  refine step_keeps ?_ ?_ ?_ rfl hsorted taken
  · exact fun _ name h => h.perform (.enable name defaultThreshold)
  · exact fun _ operation h _ => h.perform operation
  · exact fun tables _ => Tables.sorted_initial tables.registry.reset

/-- A step leaves the same for IPv4. -/
theorem step_withoutIPv6 (hsorted : daemon.tables.Sorted) (taken : Step) :
    daemon.withoutIPv6.step taken = (daemon.step taken).withoutIPv6 := by
  cases taken with
  | enableByDefault => exact enableByDefault_withoutIPv6 daemon
  | load environment => exact load_withoutIPv6 hsorted environment
  | reload environment =>
      have hforgotten : daemon.forget.state.tables.Sorted := Tables.sorted_initial _
      show (daemon.withoutIPv6.reload environment).state =
        (daemon.reload environment).state.withoutIPv6
      rw [reload_state, reload_state, forget_withoutIPv6, enableByDefault_withoutIPv6,
        load_withoutIPv6 (sorted_enableByDefault hforgotten)]

/-- Any steps leave the same for IPv4. -/
theorem after_withoutIPv6 (hsorted : daemon.tables.Sorted) (steps : List Step) :
    daemon.withoutIPv6.after steps = (daemon.after steps).withoutIPv6 := by
  induction steps generalizing daemon with
  | nil => rfl
  | cons taken rest ih =>
      have hnext := ih (sorted_step hsorted taken)
      rw [← step_withoutIPv6 hsorted taken] at hnext
      exact hnext

/-- What can be seen of an interface by those who only use IPv4. -/
def ipv4View (interface : Interface) : String × Nat × Option Nat × UInt8 :=
  (interface.name, interface.index, interface.vif, interface.threshold)

/-- Options that differ only in whether IPv6 is asked not to be used make daemons that differ only
in whether IPv6 is used. Two such daemons agree after any steps on the name, the index, the IPv4 slot
and the threshold of every interface, on the IPv4 routes, and on the memberships in IPv4 groups. The
one without IPv6 then has no IPv6 slot in use, no IPv6 route and no membership in an IPv6 group. -/
theorem ipv4_independent_of_ipv6 (setup : Setup) (interfaces : List (String × Nat))
    (steps : List Step) :
    (∀ (options : Options) (noIPv6 : Bool), Setup.ofOptions { options with noIPv6 } =
      (Setup.ofOptions options).map fun setup => { setup with ipv6 := !noIPv6 }) ∧
    let using6 := ((fresh { setup with ipv6 := true } interfaces).after steps).tables
    let without := ((fresh { setup with ipv6 := false } interfaces).after steps).tables
    (without.registry.interfaces.map ipv4View = using6.registry.interfaces.map ipv4View ∧
      without.routes.v4 = using6.routes.v4 ∧
      without.groups.joined.filter (fun membership => membership.family = .inet) =
        using6.groups.joined.filter (fun membership => membership.family = .inet)) ∧
    (∀ interface ∈ without.registry.interfaces, interface.mif = none) ∧
      without.registry.mifs = .empty ∧ without.routes.v6 = [] ∧
      ∀ membership ∈ without.groups.joined, membership.family = .inet := by
  refine ⟨Setup.ofOptions_noIPv6, ?_⟩
  intro using6 without
  have hwithout : without = using6.withoutIPv6 := by
    have hsorted : (fresh { setup with ipv6 := true } interfaces).tables.Sorted :=
      Tables.sorted_initial _
    have hafter := after_withoutIPv6 hsorted steps
    rw [← fresh_withoutIPv6] at hafter
    exact congrArg Daemon.tables hafter
  rw [hwithout]
  refine ⟨⟨?_, rfl, ?_⟩, ?_, rfl, rfl, ?_⟩
  · simp only [Tables.withoutIPv6, Registry.withoutIPv6, List.map_map]
    rfl
  · simp only [Tables.withoutIPv6, Group.Table.withoutIPv6, List.filter_filter, Bool.and_self]
  · intro interface hmem
    obtain ⟨other, -, rfl⟩ := List.mem_map.1 hmem
    rfl
  · intro membership hmem
    exact of_decide_eq_true (List.mem_filter.1 hmem).2

end Daemon

end StaticMulticast
