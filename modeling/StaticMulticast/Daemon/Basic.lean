import StaticMulticast.CommandLine.Setup
import StaticMulticast.Tables

/-!
# The daemon

The daemon enables all interfaces unless it is told not to, reads its configuration file, and reads
it again on demand. To read it again, it first forgets everything but which interfaces there are.
-/

namespace StaticMulticast

/-- The daemon's choices and its tables. -/
structure Daemon where
  setup : Setup
  tables : Tables
deriving DecidableEq, Repr

namespace Daemon

/-- What an operation of the daemon comes to. -/
abbrev Result := Outcome Daemon StaticMulticast.Event Unit

/-- The daemon over the given interfaces, before anything is enabled. -/
def initial (setup : Setup) (registry : Registry) : Daemon :=
  ⟨setup, .initial registry⟩

/-- Enables every interface, unless that is not wanted. -/
def enableByDefault (daemon : Daemon) : Result :=
  if daemon.setup.enablesByDefault then
    let enabled := daemon.tables.onRegistry daemon.tables.registry.enableAll
    ⟨(), { daemon with tables := enabled.state },
      enabled.events ++ [.daemon (.enabledByDefault enabled.value)]⟩
  else ⟨(), daemon, []⟩

/-- Everything there is to tell about the state. -/
def stateEvents (daemon : Daemon) : List StaticMulticast.Event :=
  let tables := daemon.tables
  let nothing := tables.routes.isEmpty && tables.groups.isEmpty
  (tables.registry.enabled.map fun interface => .daemon (.enabled interface)) ++
    (tables.routes.v4.map fun route => .daemon (.installed (.v4 route))) ++
    (tables.routes.v6.map fun route => .daemon (.installed (.v6 route))) ++
    (tables.groups.joined.map fun membership => .daemon (.joined membership)) ++
    if nothing then [.daemon .nothingConfigured] else []

/-- What is reported of a file that was read. -/
def loadEvents (path : String) :
    Except Failure Configuration.LoadResult → List StaticMulticast.Event
  | .error reason => [.daemon (.unreadable path reason)]
  | .ok (.parsed summary) =>
      if 0 < summary.rejected + summary.failed then
        [.daemon (.hadErrors path summary.rejected summary.failed)]
      else []
  | .ok _ => []

/-- The size of the state. -/
def loadedEvent (tables : Tables) : StaticMulticast.Event :=
  .daemon (.loaded tables.registry.enabled.length tables.routes.length tables.groups.length)

/-- Reads the configuration file. -/
def load (environment : Host.Environment) (daemon : Daemon) : Result :=
  let setup := daemon.setup
  let collaborators := Tables.collaborators (Tables.scriptAfterwards environment setup.script)
  let loaded := Configuration.Pass.load collaborators setup.settings environment
    setup.configFile daemon.tables
  let later := { daemon with tables := loaded.state }
  ⟨(), later,
    loaded.events ++ loadEvents setup.configFile loaded.value ++
      loadedEvent loaded.state :: later.stateEvents⟩

/-- Forgets the routes, the groups and the slots of the interfaces. -/
def forget (daemon : Daemon) : Result :=
  let routes := daemon.tables.routes.clear
  let groups := daemon.tables.groups.clear
  ⟨(), { daemon with tables := ⟨daemon.tables.registry.reset, routes.state, groups.state⟩ },
    routes.events.map .routes ++ groups.events.map .groups⟩

/-- Reads the configuration file as if for the first time. -/
def reload (environment : Host.Environment) (daemon : Daemon) : Result :=
  let forgotten := daemon.forget
  let enabled := forgotten.state.enableByDefault
  let loaded := enabled.state.load environment
  ⟨(), loaded.state,
    .daemon (.reloading daemon.setup.configFile) :: forgotten.events ++ enabled.events ++
      loaded.events⟩

end Daemon

end StaticMulticast
