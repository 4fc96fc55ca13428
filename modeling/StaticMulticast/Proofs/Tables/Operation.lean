import StaticMulticast.Tables

/-!
# What operations on the tables come to

An operation on the routes or the groups is refused and changes nothing, or it puts one element in
its place. Each operation on the tables changes one of them.
-/

namespace StaticMulticast

/-- What joining a group comes to: the membership is there already, and nothing changes; or else it
is put in its place. -/
theorem Group.Table.join_cases (table : Group.Table) (membership : Membership) :
    (∃ old, Ordered.find? id membership table.joined = some old ∧
      table.join membership = ⟨.error (.alreadyExists (describe membership)), table, []⟩) ∨
    (Ordered.find? id membership table.joined = none ∧
      table.join membership =
        ⟨.ok (), ⟨Ordered.insert id membership table.joined⟩, [.joined membership]⟩) := by
  cases hfind : Ordered.find? id membership table.joined with
  | some old => exact .inl ⟨old, rfl, by simp [join, hfind]⟩
  | none => exact .inr ⟨rfl, by simp [join, hfind]⟩

namespace Route

/-- The slots of a route are not refused exactly if all of them are slots of the table. -/
theorem refusedSlot?_eq_none_iff {kind : String} {inbound : Nat} {outbound : List Exit} :
    refusedSlot? kind inbound outbound = none ↔
      inbound < slotCount ∧ ∀ exit ∈ outbound, exit.slot < slotCount := by
  unfold refusedSlot?
  split
  · rename_i hout
    simp [Nat.not_lt.2 hout]
  · rename_i hin
    simp [Nat.not_le.1 hin]

/-- Slots are refused as invalid. -/
theorem invalid_of_refusedSlot? {kind : String} {inbound : Nat} {outbound : List Exit}
    {reason : Failure} (h : refusedSlot? kind inbound outbound = some reason) :
    ∃ what, reason = .invalid what := by
  unfold refusedSlot? at h
  split at h
  · exact ⟨_, (Option.some.inj h).symm⟩
  · obtain ⟨exit, -, heq⟩ := Option.map_eq_some_iff.1 h
    exact ⟨_, heq.symm⟩

namespace Table

/-- What adding an IPv4 route comes to: one of its slots is refused, and nothing changes; or else it
is put in its place. -/
theorem addV4_cases (table : Route.Table) (route : V4) :
    (∃ reason, refusedSlot? "vif" route.inbound route.outbound = some reason ∧
      table.addV4 route = ⟨.error reason, table, []⟩) ∨
    (refusedSlot? "vif" route.inbound route.outbound = none ∧
      table.addV4 route =
        ⟨.ok (), { table with v4 := Ordered.insert V4.key route table.v4 },
          [entered ((Ordered.find? V4.key route.key table.v4).map .v4) (.v4 route)]⟩) := by
  cases hslots : refusedSlot? "vif" route.inbound route.outbound with
  | some reason => exact .inl ⟨reason, rfl, by simp [addV4, hslots]⟩
  | none => exact .inr ⟨rfl, by simp [addV4, hslots]⟩

/-- What adding an IPv6 route comes to: one of its slots is refused, and nothing changes; or else it
is put in its place. -/
theorem addV6_cases (table : Route.Table) (route : V6) :
    (∃ reason, refusedSlot? "mif" route.inbound route.outbound = some reason ∧
      table.addV6 route = ⟨.error reason, table, []⟩) ∨
    (refusedSlot? "mif" route.inbound route.outbound = none ∧
      table.addV6 route =
        ⟨.ok (), { table with v6 := Ordered.insert V6.key route table.v6 },
          [entered ((Ordered.find? V6.key route.key table.v6).map .v6) (.v6 route)]⟩) := by
  cases hslots : refusedSlot? "mif" route.inbound route.outbound with
  | some reason => exact .inl ⟨reason, rfl, by simp [addV6, hslots]⟩
  | none => exact .inr ⟨rfl, by simp [addV6, hslots]⟩

end Table

end Route

attribute [ext] Tables

namespace Tables

variable (tables : Tables)

@[simp] theorem perform_join_state (membership : Membership) :
    (tables.perform (.join membership)).state =
      { tables with groups := (tables.groups.join membership).state } :=
  rfl

@[simp] theorem perform_addV4_state (route : Route.V4) :
    (tables.perform (.addV4 route)).state =
      { tables with routes := (tables.routes.addV4 route).state } :=
  rfl

@[simp] theorem perform_addV6_state (route : Route.V6) :
    (tables.perform (.addV6 route)).state =
      { tables with routes := (tables.routes.addV6 route).state } :=
  rfl

end Tables

end StaticMulticast
