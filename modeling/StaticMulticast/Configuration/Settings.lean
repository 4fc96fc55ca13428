import StaticMulticast.Interface.Basic

/-!
# Settings of a pass over the configuration
-/

namespace StaticMulticast.Configuration

/-- What a pass over the configuration takes as given: whether an interface is enabled that a line
names without saying so, the threshold it then gets, and whether IPv6 is available. -/
structure Settings where
  defaultEnable : Bool := true
  threshold : UInt8 := defaultThreshold
  ipv6 : Bool := true
deriving DecidableEq, Repr

end StaticMulticast.Configuration
