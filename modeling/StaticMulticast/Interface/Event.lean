import StaticMulticast.Failure
import StaticMulticast.Interface.Basic
import StaticMulticast.Log.Record

/-!
# Events of the interface registry
-/

namespace StaticMulticast

/-- What can happen in the interface registry. -/
inductive Interface.Event where
  /-- The system has an interface of this name and index. -/
  | found (name : String) (index : Nat)
  /-- An interface that is enabled for IPv4 could not be enabled for IPv6. -/
  | leftWithoutIPv6 (name : String) (reason : Failure)
  /-- An interface was enabled, and now holds these slots. -/
  | enabled (name : String) (vif mif : Option Nat) (threshold : UInt8)
  /-- An interface that should be enabled by default could not be. -/
  | leftDisabled (name : String) (reason : Failure)
  /-- An interface was disabled. -/
  | disabled (name : String)
deriving DecidableEq, Repr

open Log in
/-- The record of an event. -/
def Interface.Event.record : Interface.Event → Record
  | .found name index =>
      ⟨.debug, "found interface " ++ name, [("ifindex", some index)], some .interfaces⟩
  | .leftWithoutIPv6 name reason =>
      ⟨.warning, "no IPv6 slot for " ++ name ++ ": " ++ reason.message, [], some .interfaces⟩
  | .enabled name vif mif threshold =>
      ⟨.info, "enabled " ++ name,
        [("vif", vif), ("mif", mif), ("threshold", some threshold.toNat)], some .interfaces⟩
  | .leftDisabled name reason =>
      ⟨.warning, "unable to enable " ++ name ++ ": " ++ reason.message, [], some .interfaces⟩
  | .disabled name => ⟨.info, "disabled " ++ name, [], some .interfaces⟩

end StaticMulticast
