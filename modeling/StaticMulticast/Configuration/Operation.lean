import StaticMulticast.Configuration.Statement
import StaticMulticast.Group.Basic
import StaticMulticast.Route.Basic

/-!
# Operations

A statement becomes an operation once its addresses can be read and its names belong to interfaces
that can forward. A statement about IPv6 becomes none while that family is not available.
-/

namespace StaticMulticast.Configuration

open Address (Family readV4 readV6 readGroupV4 readGroupV6 readLengthV4 splitLength)

/-- What the daemon does for a line. -/
inductive Operation where
  | enable (interface : String) (threshold : UInt8)
  | disable (interface : String)
  | join (membership : Membership)
  | addV4 (route : Route.V4)
  | addV6 (route : Route.V6)
deriving DecidableEq, Repr

/-- What is known of the interface of a name. -/
abbrev Lookup := String → Option Forwarding

namespace Operation

/-- The value that was read, or else the rejection that `reject` gives. -/
def accept {Reason Value : Type} (reject : Rejection) (read : Except Reason Value) :
    Except Rejection Value :=
  read.mapError fun _ => reject

/-! ## Memberships -/

/-- The membership that a statement about an IPv4 group asks for. -/
def joinV4 (interface : String) (source : Option String) (group : String) :
    Except Rejection Operation := do
  let source ← match source with
    | none => pure none
    | some text => some <$> accept (.invalidSource .inet text) (readV4 text)
  let group ← accept (.invalidGroup .inet group) (readGroupV4 group)
  pure (.join ⟨interface, source.map .v4, .v4 group⟩)

/-- The membership that a statement about an IPv6 group asks for. It is always for any source. -/
def joinV6 (interface : String) (group : String) : Except Rejection Operation := do
  let group ← accept (.invalidGroup .inet6 group) (readGroupV6 group)
  pure (.join ⟨interface, none, .v6 group⟩)

/-! ## Ways out -/

/-- The way out by the interface of a name, if it holds a slot of the family. -/
def exit? (lookup : Lookup) (family : Family) (name : String) : Option Route.Exit :=
  (lookup name).bind fun forwarding =>
    (forwarding.slot family).map fun slot => ⟨slot, forwarding.threshold⟩

/-- The ways out with different slots. Of those with one slot, the first is kept. -/
def distinct : List Route.Exit → List Route.Exit
  | [] => []
  | exit :: rest => exit :: (distinct rest).filter fun other => other.slot != exit.slot

/-- The ways out by the interfaces of the given names. -/
def exits (lookup : Lookup) (family : Family) (names : List String) : List Route.Exit :=
  distinct (names.filterMap (exit? lookup family))

/-- The remark on a name, where packets come in by the slot `inbound` of the interface
`inboundName`. -/
def outboundNote? (lookup : Lookup) (family : Family) (inbound : Nat) (inboundName name : String) :
    Option Note :=
  match exit? lookup family name with
  | none => some (.invalidOutbound family name)
  | some exit =>
      if exit.slot = inbound then some (.outboundIsInbound family name inboundName) else none

/-! ## Routes -/

/-- The slot that packets come in by. -/
def inboundSlot (lookup : Lookup) (family : Family) (name : String) : Except Rejection Nat :=
  match exit? lookup family name with
  | some exit => .ok exit.slot
  | none => .error (.invalidInbound family name)

/-- The group and the prefix length of an IPv4 route. A length can be given only for packets of any
source. -/
def groupRange (source : Address.V4) (text : String) : Except Rejection (Address.V4 × UInt8) := do
  let (group, length) := splitLength text
  let length ← match length with
    | none => pure 0
    | some length =>
        if source = .unspecified then accept (.invalidLength text) (readLengthV4 length)
        else .error .rangeWithSource
  let group ← accept (.invalidGroup .inet group) (readGroupV4 group)
  pure (group, length)

/-- The IPv4 route that a statement asks for, still without ways out. -/
def entryV4 (lookup : Lookup) (inbound : String) (source : Option String) (group : String) :
    Except Rejection Route.V4 := do
  let slot ← inboundSlot lookup .inet inbound
  let source ← match source with
    | none => pure Address.V4.unspecified
    | some text => accept (.invalidSource .inet text) (readV4 text)
  let (group, length) ← groupRange source group
  pure ⟨slot, source, group, length, []⟩

/-- The IPv6 route that a statement asks for, still without ways out. It must have a source. -/
def entryV6 (lookup : Lookup) (inbound : String) (source : Option String) (group : String) :
    Except Rejection Route.V6 := do
  let slot ← inboundSlot lookup .inet6 inbound
  let source ← match source with
    | none => .error (.missingSource .inet6)
    | some text => accept (.invalidSource .inet6 text) (readV6 text)
  let group ← accept (.invalidGroup .inet6 group) (readGroupV6 group)
  pure ⟨slot, source, group, []⟩

/-- Completes a route with its ways out, of which there must be at least one. -/
def complete (lookup : Lookup) (family : Family) (inbound : Nat) (inboundName : String)
    (names : List String) (build : List Route.Exit → Operation) : Reading (Option Operation) :=
  let found := exits lookup family names
  ⟨names.filterMap (outboundNote? lookup family inbound inboundName),
    if found.isEmpty then .error (.noOutbound family) else .ok (some (build found))⟩

/-- A line that is ignored for want of IPv6. -/
def ignored : Reading (Option Operation) := ⟨[.ipv6Disabled], .ok none⟩

/-- The operation that a statement asks for. -/
def ofStatement (settings : Settings) (lookup : Lookup) : Statement → Reading (Option Operation)
  | .interface name true threshold => ⟨[], .ok (some (.enable name threshold))⟩
  | .interface name false _ => ⟨[], .ok (some (.disable name))⟩
  | .membership interface source group =>
      match Family.ofText group with
      | .inet => ⟨[], (joinV4 interface source group).map some⟩
      | .inet6 =>
          if settings.ipv6 then
            ⟨if source.isSome then [.sourceIgnored] else [], (joinV6 interface group).map some⟩
          else ignored
  | .route inbound source group outbound =>
      match Family.ofText group with
      | .inet =>
          match entryV4 lookup inbound source group with
          | .error reason => ⟨[], .error reason⟩
          | .ok route =>
              complete lookup .inet route.inbound inbound outbound fun outbound =>
                .addV4 { route with outbound }
      | .inet6 =>
          if settings.ipv6 then
            match entryV6 lookup inbound source group with
            | .error reason => ⟨[], .error reason⟩
            | .ok route =>
                complete lookup .inet6 route.inbound inbound outbound fun outbound =>
                  .addV6 { route with outbound }
          else ignored

/-- The operation that a line asks for. -/
def ofLine (settings : Settings) (lookup : Lookup) (line : String) : Reading (Option Operation) :=
  let read := Statement.read settings line
  match read.result with
  | .error reason => ⟨read.notes, .error reason⟩
  | .ok none => ⟨read.notes, .ok none⟩
  | .ok (some statement) =>
      let resolved := ofStatement settings lookup statement
      ⟨read.notes ++ resolved.notes, resolved.result⟩

end Operation

end StaticMulticast.Configuration
