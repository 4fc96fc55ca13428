import StaticMulticast.Configuration.Event
import StaticMulticast.Daemon.Event
import StaticMulticast.Group.Table
import StaticMulticast.Route.Table
import StaticMulticast.Daemon.Script

/-!
# Events

Everything that the daemon and its parts can report.
-/

namespace StaticMulticast

/-- An event of any part. -/
inductive Event where
  | interfaces (event : Interface.Event)
  | routes (event : Route.Event)
  | groups (event : Group.Event)
  | configuration (event : Configuration.Event)
  | script (event : Script.Event)
  | daemon (event : Daemon.Event)
deriving DecidableEq, Repr

/-- The record of an event. -/
def Event.record : Event → Log.Record
  | .interfaces event => event.record
  | .routes event => event.record
  | .groups event => event.record
  | .configuration event => event.record
  | .script event => event.record
  | .daemon event => event.record

end StaticMulticast
