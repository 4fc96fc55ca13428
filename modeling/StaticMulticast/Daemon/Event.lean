import StaticMulticast.Group.Basic
import StaticMulticast.Interface.Event
import StaticMulticast.Route.Basic

/-!
# Events of the daemon

What the daemon reports in its own name: how it starts and ends, and the state that it comes to.
-/

namespace StaticMulticast

/-- What can happen to the daemon as a whole. -/
inductive Daemon.Event where
  /-- The system has this many interfaces. -/
  | found (count : Nat)
  /-- The interfaces of the system could not be learned. -/
  | undiscovered (reason : Failure)
  /-- This many interfaces were enabled by default. -/
  | enabledByDefault (count : Nat)
  /-- Some lines of the configuration had no effect. -/
  | hadErrors (path : String) (rejected failed : Nat)
  /-- The configuration could not be read to its end. -/
  | unreadable (path : String) (reason : Failure)
  /-- The configuration is in effect: so many enabled interfaces, routes and groups. -/
  | loaded (interfaces routes groups : Nat)
  /-- There is this enabled interface. -/
  | enabled (interface : Interface)
  /-- There is this route. -/
  | installed (route : Route)
  /-- There is this membership. -/
  | joined (membership : Membership)
  /-- There are neither routes nor memberships. -/
  | nothingConfigured
  /-- The configuration is about to be read again. -/
  | reloading (path : String)
  /-- No more signals will come. -/
  | handlerGone
  /-- The daemon ends. -/
  | exiting
  /-- A signal came that ends the daemon. -/
  | received (signal : Nat)
  /-- A signal came that asks to read the configuration again. -/
  | reloadRequested
deriving DecidableEq, Repr

open Log in
/-- The record of an event. -/
def Daemon.Event.record : Daemon.Event → Record
  | .found count => ⟨.info, "found " ++ toString count ++ " interfaces", [], none⟩
  | .undiscovered reason =>
      ⟨.error, "failed to discover interfaces: " ++ reason.message, [], none⟩
  | .enabledByDefault count =>
      ⟨.info, "enabled " ++ toString count ++ " interfaces by default", [], none⟩
  | .hadErrors path rejected failed =>
      ⟨.warning, path ++ " had errors: " ++ toString rejected ++ " rejected, " ++
        toString failed ++ " failed", [], none⟩
  | .unreadable path reason =>
      ⟨.error, "failed parsing " ++ path ++ ": " ++ reason.message, [], none⟩
  | .loaded interfaces routes groups =>
      ⟨.info, "configuration loaded",
        [("interfaces", some interfaces), ("routes", some routes), ("groups", some groups)], none⟩
  | .enabled interface =>
      ⟨.debug, "interface " ++ interface.name,
        [("ifindex", some interface.index), ("vif", interface.vif), ("mif", interface.mif),
          ("threshold", some interface.threshold.toNat)], none⟩
  | .installed route => ⟨.debug, "route " ++ route.text, [], none⟩
  | .joined membership => ⟨.debug, "group " ++ membership.text, [], none⟩
  | .nothingConfigured => ⟨.info, "no routes or groups configured", [], none⟩
  | .reloading path => ⟨.info, "reloading " ++ path, [], none⟩
  | .handlerGone => ⟨.info, "signal handler shut down", [], none⟩
  | .exiting => ⟨.info, "exiting", [], none⟩
  | .received signal => ⟨.info, "received signal", [("sig", some signal)], none⟩
  | .reloadRequested => ⟨.info, "handling reload request", [], none⟩

end StaticMulticast
