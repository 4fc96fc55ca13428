import StaticMulticast.Failure
import StaticMulticast.Interface.SlotPool
import StaticMulticast.Log.Record
import StaticMulticast.Ordered
import StaticMulticast.Outcome
import StaticMulticast.Route.Basic

/-!
# The route table

The routes of both families, in the order of their keys. A new route takes the place of the one with
its key, and a route that names a slot the kernel does not have is refused.
-/

namespace StaticMulticast.Route

/-- What can happen in the route table. -/
inductive Event where
  /-- A route was added under a key that had none. -/
  | added (route : Route)
  /-- A route took the place of another. -/
  | replaced (old new : Route)
  /-- All routes were removed, this many. -/
  | flushed (count : Nat)
deriving DecidableEq, Repr

open Log in
/-- The record of an event. -/
def Event.record : Event → Record
  | .added route => ⟨.info, "added route " ++ route.text, [], some .routes⟩
  | .replaced old new =>
      ⟨.info, "replaced route " ++ old.text ++ " with " ++ new.text, [], some .routes⟩
  | .flushed count => ⟨.debug, "flushing routes", [("count", some count)], some .routes⟩

/-- The routes of each family, in the order of their keys. -/
structure Table where
  v4 : List V4
  v6 : List V6
deriving DecidableEq, Repr

/-- Why the slots of a route are refused: the inbound slot, or else the first outbound slot, is
beyond the last of the table. -/
def refusedSlot? (kind : String) (inbound : Nat) (outbound : List Exit) : Option Failure :=
  if slotCount ≤ inbound then
    some (.invalid ("inbound " ++ kind ++ " " ++ toString inbound))
  else
    (outbound.find? fun exit => slotCount ≤ exit.slot).map fun exit =>
      .invalid ("outbound " ++ kind ++ " " ++ toString exit.slot)

namespace Table

/-- A table without routes. -/
def empty : Table := ⟨[], []⟩

/-- How many routes there are. -/
def length (table : Table) : Nat :=
  table.v4.length + table.v6.length

/-- There are no routes. -/
def isEmpty (table : Table) : Bool :=
  table.length == 0

/-- The event of adding a route where `old` stood. -/
def entered (old : Option Route) (new : Route) : Event :=
  match old with
  | some old => .replaced old new
  | none => .added new

/-- Adds an IPv4 route. -/
def addV4 (table : Table) (route : V4) : Outcome Table Event (Except Failure Unit) :=
  match refusedSlot? "vif" route.inbound route.outbound with
  | some reason => ⟨.error reason, table, []⟩
  | none =>
      let old := Ordered.find? V4.key route.key table.v4
      ⟨.ok (), { table with v4 := Ordered.insert V4.key route table.v4 },
        [entered (old.map .v4) (.v4 route)]⟩

/-- Adds an IPv6 route. -/
def addV6 (table : Table) (route : V6) : Outcome Table Event (Except Failure Unit) :=
  match refusedSlot? "mif" route.inbound route.outbound with
  | some reason => ⟨.error reason, table, []⟩
  | none =>
      let old := Ordered.find? V6.key route.key table.v6
      ⟨.ok (), { table with v6 := Ordered.insert V6.key route table.v6 },
        [entered (old.map .v6) (.v6 route)]⟩

/-- Removes all routes. -/
def clear (table : Table) : Outcome Table Event Unit :=
  ⟨(), empty, [.flushed table.length]⟩

end Table

end StaticMulticast.Route
