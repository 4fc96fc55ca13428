import StaticMulticast.Address.Family
import StaticMulticast.Configuration.Clause
import StaticMulticast.Log.Record

/-!
# Notes on a configuration line

Things worth a remark in a line that is not rejected for them.
-/

namespace StaticMulticast.Configuration

open Address (Family)

/-- A remark on a line. -/
inductive Note where
  /-- The threshold is a number, but no threshold. The one set so far stays. -/
  | thresholdOutOfRange (number : Int) (current : UInt8)
  /-- The threshold is no number. -/
  | thresholdUnreadable (text : String)
  /-- The word is no keyword. -/
  | unknownKeyword (word : String)
  /-- The line is about IPv6, which is not available. -/
  | ipv6Disabled
  /-- The line gives a source for an IPv6 group, which is not used. -/
  | sourceIgnored
  /-- The interface to send out by holds no slot of the family. -/
  | invalidOutbound (family : Family) (name : String)
  /-- The interface to send out by is the one that packets come in by. -/
  | outboundIsInbound (family : Family) (name inbound : String)
deriving DecidableEq, Repr

namespace Note

/-- How grave a remark is. -/
def level : Note → Log.Level
  | .thresholdUnreadable _ => .debug
  | .unknownKeyword _ => .debug
  | _ => .warning

/-- A remark in words. -/
def message : Note → String
  | .thresholdOutOfRange number current =>
      "TTL threshold " ++ toString number ++ " out of range 1-255, using " ++
        toString current.toNat ++ "."
  | .thresholdUnreadable text => "ignoring unparseable TTL threshold " ++ text
  | .unknownKeyword word => "ignoring unknown keyword " ++ word
  | .ipv6Disabled => "Ignored, IPv6 disabled."
  | .sourceIgnored => "IPv6 is not (yet) supported for Source Specific Multicast."
  | .invalidOutbound family name => "Invalid outbound " ++ family.name ++ " interface: " ++ name
  | .outboundIsInbound family name inbound =>
      "Same outbound " ++ family.name ++ " interface (" ++ name ++ ") as inbound (" ++ inbound ++
        ")?"

/-- The remark that a clause calls for, where the content are those set before it. -/
def ofClause? (content : Content) : Clause → Option Note
  | .valued .threshold (some text) =>
      match ThresholdReading.ofText text with
      | .set _ => none
      | .outOfRange number => some (.thresholdOutOfRange number content.threshold)
      | .unreadable => some (.thresholdUnreadable text)
  | .unknown word => some (.unknownKeyword word)
  | _ => none

/-- The remarks that the clauses of a line call for. -/
def ofClauses (content : Content) : List Clause → List Note
  | [] => []
  | clause :: rest => (ofClause? content clause).toList ++ ofClauses (content.apply clause) rest

end Note

end StaticMulticast.Configuration
