import StaticMulticast.Address.Family
import StaticMulticast.Address.V6
import StaticMulticast.Text.Decimal

/-!
# Addresses, multicast groups and prefix lengths

Addresses of either family in one type, the readers that say why a text is no address, and the
`ADDRESS/LENGTH` form of a range of IPv4 groups.
-/

namespace StaticMulticast

open Address (Family V4 V6)

/-- An address of either family. -/
inductive Address where
  | v4 (address : V4)
  | v6 (address : V6)
deriving DecidableEq, Repr

namespace Address

/-- Every IPv4 address comes before every IPv6 address. -/
instance : Ord Address where
  compare
    | .v4 left, .v4 right => compare left right
    | .v4 _, .v6 _ => .lt
    | .v6 _, .v4 _ => .gt
    | .v6 left, .v6 right => compare left right

/-- The family of an address. -/
def family : Address → Family
  | .v4 _ => .inet
  | .v6 _ => .inet6

/-- The address in its usual form. -/
def text : Address → String
  | .v4 address => address.text
  | .v6 address => address.text

/-- Why a text is not what it should be. -/
inductive Invalid where
  /-- The text is no address of the family. -/
  | address (family : Family) (text : String)
  /-- The text is an address, but of no group. -/
  | notMulticast (text : String)
  /-- The text is no prefix length of an IPv4 address. -/
  | prefixLength (text : String)
deriving DecidableEq, Repr

/-- The reason in words. -/
def Invalid.message : Invalid → String
  | .address family text => "invalid " ++ family.name ++ " address: " ++ text
  | .notMulticast text => text ++ " is not a multicast address"
  | .prefixLength text => "invalid prefix length: " ++ text

/-- Reads an IPv4 address. -/
def readV4 (text : String) : Except Invalid V4 :=
  match V4.ofText? text with
  | some address => .ok address
  | none => .error (.address .inet text)

/-- Reads an IPv6 address. -/
def readV6 (text : String) : Except Invalid V6 :=
  match V6.ofText? text with
  | some address => .ok address
  | none => .error (.address .inet6 text)

/-- Reads an IPv4 address that must be that of a group. -/
def readGroupV4 (text : String) : Except Invalid V4 :=
  match readV4 text with
  | .error reason => .error reason
  | .ok address => if address.isMulticast then .ok address else .error (.notMulticast text)

/-- Reads an IPv6 address that must be that of a group. -/
def readGroupV6 (text : String) : Except Invalid V6 :=
  match readV6 text with
  | .error reason => .error reason
  | .ok address => if address.isMulticast then .ok address else .error (.notMulticast text)

/-- The parts of a text before and after its first slash. Without a slash there is no second
part. -/
def splitLength (text : String) : String × Option String :=
  let characters := text.toList
  let before := characters.takeWhile (· != '/')
  match characters.dropWhile (· != '/') with
  | [] => (text, none)
  | _ :: after => (String.ofList before, some (String.ofList after))

/-- Reads the prefix length of an IPv4 address: a number of one octet, from 0 to 32. -/
def readLengthV4 (text : String) : Except Invalid UInt8 :=
  match Text.Decimal.unsigned? 255 text.toList with
  | some length =>
      if length ≤ 32 then .ok (UInt8.ofNat length) else .error (.prefixLength text)
  | none => .error (.prefixLength text)

/-- How many leading bits of an IPv4 group address are fixed. A length of 0, or one longer than the
address, means the single group. -/
def fixedBits (length : UInt8) : Nat :=
  if length = 0 || 32 < length then 32 else length.toNat

/-- An IPv4 group address and its fixed bits, as one text. -/
def rangeText (group : V4) (length : UInt8) : String :=
  group.text ++ "/" ++ toString (fixedBits length)

end Address

end StaticMulticast
