import StaticMulticast.Configuration.Pass
import StaticMulticast.Interface.Registry

/-!
# The tables

The three tables that the configuration fills: the interfaces, the routes and the groups. They are
the collaborators of the passes that the daemon makes.
-/

namespace StaticMulticast

open StaticMulticast.Configuration (Operation Collaborators)

/-- The interfaces, routes and memberships. -/
structure Tables where
  registry : Registry
  routes : Route.Table
  groups : Group.Table
deriving DecidableEq, Repr

namespace Tables

/-- The tables before the first pass, over the given interfaces. -/
def initial (registry : Registry) : Tables := ⟨registry, .empty, .empty⟩

variable {Value : Type}

/-- The outcome of an operation on the interfaces, as one on the tables. -/
def onRegistry (tables : Tables) (outcome : Outcome Registry Interface.Event Value) :
    Outcome Tables Event Value :=
  outcome.lift (fun registry => { tables with registry }) .interfaces

/-- The outcome of an operation on the routes, as one on the tables. -/
def onRoutes (tables : Tables) (outcome : Outcome Route.Table Route.Event Value) :
    Outcome Tables Event Value :=
  outcome.lift (fun routes => { tables with routes }) .routes

/-- The outcome of an operation on the groups, as one on the tables. -/
def onGroups (tables : Tables) (outcome : Outcome Group.Table Group.Event Value) :
    Outcome Tables Event Value :=
  outcome.lift (fun groups => { tables with groups }) .groups

/-- Carries out the operation of a line. -/
def perform (tables : Tables) : Operation → Outcome Tables Event (Except Failure Unit)
  | .enable name threshold => tables.onRegistry (tables.registry.enable name threshold)
  | .disable name => tables.onRegistry (tables.registry.disable name)
  | .join membership => tables.onGroups (tables.groups.join membership)
  | .addV4 route => tables.onRoutes (tables.routes.addV4 route)
  | .addV6 route => tables.onRoutes (tables.routes.addV6 route)

/-- The tables as collaborators of a pass, with what is run after the last line of a file. -/
def collaborators (afterwards : Tables → Outcome Tables Event (Except Failure Unit)) :
    Collaborators Tables where
  lookup tables := tables.registry.forwarding?
  perform := perform
  afterwards := afterwards

/-- Nothing is run after the last line. -/
def nothingAfterwards (tables : Tables) : Outcome Tables Event (Except Failure Unit) :=
  ⟨.ok (), tables, []⟩

/-- The script is run after the last line. -/
def scriptAfterwards (environment : Host.Environment) (script : Option String) (tables : Tables) :
    Outcome Tables Event (Except Failure Unit) :=
  ⟨Script.run environment script, tables, [.script (Script.event script)]⟩

end Tables

end StaticMulticast
