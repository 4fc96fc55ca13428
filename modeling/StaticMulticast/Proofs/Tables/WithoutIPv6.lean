import StaticMulticast.Proofs.Configuration.WithoutIPv6
import StaticMulticast.Proofs.Tables.Order

/-!
# The tables without IPv6

`Tables.withoutIPv6` leaves out all that the tables have for IPv6. Operations that use IPv6 change
nothing else, and every other operation is the same on what is left. So a pass over any file leaves
the same for IPv4, whether IPv6 is available to it or not.
-/

namespace StaticMulticast

open StaticMulticast.Configuration

/-! ## Routes and groups -/

namespace Route.Table

/-- The IPv4 routes. -/
def withoutIPv6 (table : Route.Table) : Route.Table :=
  { table with v6 := [] }

/-- An IPv4 route is added in the same way. -/
theorem addV4_withoutIPv6 (table : Route.Table) (route : V4) :
    (table.withoutIPv6.addV4 route).state = (table.addV4 route).state.withoutIPv6 := by
  unfold addV4
  split <;> rfl

/-- To add an IPv6 route changes none of the IPv4 routes. -/
theorem addV6_state_withoutIPv6 (table : Route.Table) (route : V6) :
    (table.addV6 route).state.withoutIPv6 = table.withoutIPv6 := by
  obtain ⟨_, -, heq⟩ | ⟨-, heq⟩ := table.addV6_cases route
  · rw [heq]
  · rw [heq]
    rfl

end Route.Table

namespace Group.Table

/-- The memberships in IPv4 groups. -/
def withoutIPv6 (table : Group.Table) : Group.Table :=
  ⟨table.joined.filter fun membership => membership.family = .inet⟩

variable {table : Group.Table} {membership : Membership}

/-- An IPv4 group is joined in the same way. -/
theorem join_withoutIPv6 (hsorted : Ordered.Ascending id table.joined)
    (hfamily : membership.family = .inet) :
    (table.withoutIPv6.join membership).state = (table.join membership).state.withoutIPv6 := by
  have hfind : Ordered.find? id membership table.withoutIPv6.joined =
      Ordered.find? id membership table.joined := by
    refine Ordered.find?_filter ?_
    rintro other rfl
    exact decide_eq_true hfamily
  simp only [join, hfind]
  split
  · rfl
  · exact congrArg mk
      (Ordered.filter_insert_of_pos hsorted (decide_eq_true hfamily)).symm

/-- To join an IPv6 group changes none of the memberships in IPv4 groups. -/
theorem join_state_withoutIPv6 (hfamily : membership.family = .inet6) :
    (table.join membership).state.withoutIPv6 = table.withoutIPv6 := by
  obtain ⟨_, -, heq⟩ | ⟨-, heq⟩ := table.join_cases membership
  · rw [heq]
  · rw [heq]
    refine congrArg mk (Ordered.filter_insert_of_neg fun other hother => ?_)
    have hsame : other = membership := hother
    rw [hsame, hfamily]
    rfl

end Group.Table

/-! ## Operations -/

namespace Tables

/-- The tables as they are without IPv6. -/
def withoutIPv6 (tables : Tables) : Tables :=
  ⟨tables.registry.withoutIPv6, tables.routes.withoutIPv6, tables.groups.withoutIPv6⟩

variable {tables : Tables}

/-- An operation that does not use IPv6 is the same on what the tables have for IPv4. -/
theorem perform_withoutIPv6 (hsorted : tables.Sorted) {operation : Operation}
    (h : operation.usesIPv6 = false) :
    (tables.withoutIPv6.perform operation).state =
      (tables.perform operation).state.withoutIPv6 := by
  cases operation with
  | enable name threshold =>
      exact congrArg (mk · tables.routes.withoutIPv6 tables.groups.withoutIPv6)
        (Registry.enable_withoutIPv6 tables.registry name threshold)
  | disable name =>
      exact congrArg (mk · tables.routes.withoutIPv6 tables.groups.withoutIPv6)
        (Registry.disable_withoutIPv6 tables.registry name)
  | join membership =>
      have hfamily : membership.family = .inet := by
        cases hother : membership.family with
        | inet => rfl
        | inet6 => simp [Operation.usesIPv6, hother] at h
      exact congrArg (mk tables.registry.withoutIPv6 tables.routes.withoutIPv6)
        (Group.Table.join_withoutIPv6 hsorted.joined hfamily)
  | addV4 route =>
      exact congrArg (mk tables.registry.withoutIPv6 · tables.groups.withoutIPv6)
        (tables.routes.addV4_withoutIPv6 route)
  | addV6 route => cases h

/-- An operation that uses IPv6 changes nothing of what the tables have for IPv4. -/
theorem perform_state_withoutIPv6 {operation : Operation} (h : operation.usesIPv6 = true) :
    (tables.perform operation).state.withoutIPv6 = tables.withoutIPv6 := by
  cases operation with
  | enable | disable | addV4 => cases h
  | join membership =>
      have hfamily : membership.family = .inet6 := of_decide_eq_true h
      exact congrArg (mk tables.registry.withoutIPv6 tables.routes.withoutIPv6)
        (Group.Table.join_state_withoutIPv6 hfamily)
  | addV6 route =>
      exact congrArg (mk tables.registry.withoutIPv6 · tables.groups.withoutIPv6)
        (tables.routes.addV6_state_withoutIPv6 route)

/-! ## Passes -/

variable (afterwards : Tables → Outcome Tables Event (Except Failure Unit)) (settings : Settings)

/-- A line leaves the same for IPv4. -/
theorem handle_withoutIPv6 (hsorted : tables.Sorted) (number : Nat) (line : Line) :
    (Pass.handle (collaborators afterwards) settings.withoutIPv6 number line
        tables.withoutIPv6).state =
      (Pass.handle (collaborators afterwards) settings number line tables).state.withoutIPv6 := by
  have hlookup : (collaborators afterwards).lookup tables.withoutIPv6 =
      Lookup.withoutIPv6 ((collaborators afterwards).lookup tables) :=
    funext tables.registry.forwarding?_withoutIPv6
  have hline := line.narrows_operation settings ((collaborators afterwards).lookup tables)
  rw [Pass.handle_state, Pass.handle_state, hlookup]
  obtain ⟨hsame, huses⟩ | ⟨hnone, huses⟩ := hline
  · rw [hsame]
    split
    · rename_i operation hasked
      exact perform_withoutIPv6 hsorted (huses operation hasked)
    · rfl
  · rw [hnone]
    show tables.withoutIPv6 = _
    split
    · rename_i operation hasked
      exact (perform_state_withoutIPv6 (huses operation hasked)).symm
    · rfl

/-- Lines leave the same for IPv4. -/
theorem run_withoutIPv6 (hsorted : tables.Sorted) (number : Nat) (lines : List Line) :
    (Pass.run (collaborators afterwards) settings.withoutIPv6 number lines
        tables.withoutIPv6).state =
      (Pass.run (collaborators afterwards) settings number lines tables).state.withoutIPv6 := by
  induction lines generalizing number tables with
  | nil => rfl
  | cons line rest ih =>
      simp only [Pass.run, handle_withoutIPv6 afterwards settings hsorted]
      refine ih ?_ (number + 1)
      exact Pass.handle_keeps (fun _ operation h _ => h.perform operation) number line hsorted

/-- A pass over a file leaves the same for IPv4, if what is run afterwards leaves the tables
alone. -/
theorem load_withoutIPv6 (hafterwards : ∀ tables, (afterwards tables).state = tables)
    (environment : Host.Environment) (path : String) (hsorted : tables.Sorted) :
    (Pass.load (collaborators afterwards) settings.withoutIPv6 environment path
        tables.withoutIPv6).state =
      (Pass.load (collaborators afterwards) settings environment path
        tables).state.withoutIPv6 := by
  rw [Pass.load_state hafterwards, Pass.load_state hafterwards]
  cases environment.openFile path with
  | error fault => rfl
  | ok reads => exact run_withoutIPv6 afterwards settings hsorted 1 _

end Tables

end StaticMulticast
