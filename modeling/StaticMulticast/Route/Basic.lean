import StaticMulticast.Address.Basic

/-!
# Multicast routes

A route takes the packets from a source to a group that come in by one slot, and sends them out by
others. An IPv4 route may stand for a whole range of groups, given by a prefix length. A length of
zero stands for the one group, like the length 32.
-/

namespace StaticMulticast.Route

open StaticMulticast.Address (rangeText)

/-- A way out: a slot, and the threshold of the interface that holds it. -/
structure Exit where
  slot : Nat
  threshold : UInt8
deriving DecidableEq, Repr

/-- The ways out of a route as one text. -/
def Exit.listText (exits : List Exit) : String :=
  let texts := exits.map fun exit => toString exit.slot ++ ":" ++ toString exit.threshold.toNat
  "[" ++ String.intercalate ", " texts ++ "]"

/-- An IPv4 route. -/
structure V4 where
  inbound : Nat
  source : Address.V4
  group : Address.V4
  length : UInt8
  outbound : List Exit
deriving DecidableEq, Repr

/-- An IPv6 route. -/
structure V6 where
  inbound : Nat
  source : Address.V6
  group : Address.V6
  outbound : List Exit
deriving DecidableEq, Repr

/-- What an IPv4 route is known by. -/
structure V4.Key where
  source : Address.V4
  group : Address.V4
  length : UInt8
deriving DecidableEq, Repr

/-- Keys are ordered by source, then group, then length. -/
instance : Ord V4.Key where
  compare left right :=
    (compare left.source right.source).then
      ((compare left.group right.group).then (compare left.length.toNat right.length.toNat))

/-- What an IPv6 route is known by. -/
structure V6.Key where
  source : Address.V6
  group : Address.V6
deriving DecidableEq, Repr

/-- Keys are ordered by source, then group. -/
instance : Ord V6.Key where
  compare left right := (compare left.source right.source).then (compare left.group right.group)

/-- The key of an IPv4 route. -/
def V4.key (route : V4) : V4.Key := ⟨route.source, route.group, route.length⟩

/-- The key of an IPv6 route. -/
def V6.key (route : V6) : V6.Key := ⟨route.source, route.group⟩

/-- An IPv4 route as one text. -/
def V4.text (route : V4) : String :=
  "(" ++ route.source.text ++ ", " ++ rangeText route.group route.length ++ ") vif " ++
    toString route.inbound ++ " -> " ++ Exit.listText route.outbound

/-- An IPv6 route as one text. -/
def V6.text (route : V6) : String :=
  "(" ++ route.source.text ++ ", " ++ route.group.text ++ ") mif " ++
    toString route.inbound ++ " -> " ++ Exit.listText route.outbound

end StaticMulticast.Route

namespace StaticMulticast

/-- A route of either family. -/
inductive Route where
  | v4 (route : Route.V4)
  | v6 (route : Route.V6)
deriving DecidableEq, Repr

/-- A route as one text. -/
def Route.text : Route → String
  | .v4 route => route.text
  | .v6 route => route.text

end StaticMulticast
