import StaticMulticast.Failure
import StaticMulticast.Group.Basic
import StaticMulticast.Log.Record
import StaticMulticast.Ordered
import StaticMulticast.Outcome

/-!
# The joined groups

All memberships, each once and in their order. To join a group twice is a failure that changes
nothing.
-/

namespace StaticMulticast.Group

/-- What can happen to the memberships. -/
inductive Event where
  /-- A group was joined. -/
  | joined (membership : Membership)
  /-- All groups were left, this many memberships. -/
  | left (count : Nat)
deriving DecidableEq, Repr

/-- A membership with its family in front. -/
def describe (membership : Membership) : String :=
  membership.family.name ++ " group " ++ membership.text

open Log in
/-- The record of an event. -/
def Event.record : Event → Record
  | .joined membership => ⟨.info, "joined " ++ describe membership, [], some .groups⟩
  | .left count => ⟨.debug, "leaving all groups", [("count", some count)], some .groups⟩

/-- The memberships, in their order. -/
structure Table where
  joined : List Membership
deriving DecidableEq, Repr

namespace Table

/-- No memberships. -/
def empty : Table := ⟨[]⟩

/-- How many memberships there are. -/
def length (table : Table) : Nat :=
  table.joined.length

/-- There are no memberships. -/
def isEmpty (table : Table) : Bool :=
  table.joined.isEmpty

/-- Joins a group. -/
def join (table : Table) (membership : Membership) : Outcome Table Event (Except Failure Unit) :=
  match Ordered.find? id membership table.joined with
  | some _ => ⟨.error (.alreadyExists (describe membership)), table, []⟩
  | none => ⟨.ok (), ⟨Ordered.insert id membership table.joined⟩, [.joined membership]⟩

/-- Leaves all groups. -/
def clear (table : Table) : Outcome Table Event Unit :=
  ⟨(), empty, [.left table.length]⟩

end Table

end StaticMulticast.Group
