/-!
# Log records

A record is what the log keeps of an event: how grave it is, a message in words, the values that
belong to it, and the part of the daemon that it comes from.
-/

namespace StaticMulticast.Log

/-- How grave a record is. -/
inductive Level where
  | debug
  | info
  | warning
  | error
deriving DecidableEq, Repr

/-- The level as it appears in a log for people. -/
def Level.name : Level → String
  | .debug => "DEBG"
  | .info => "INFO"
  | .warning => "WARN"
  | .error => "ERRO"

/-- The level as it appears in a log for programs. -/
def Level.rank : Level → Nat
  | .debug => 20
  | .info => 30
  | .warning => 40
  | .error => 50

/-- A part of the daemon with records of its own. -/
inductive Origin where
  | configuration
  | interfaces
  | routes
  | groups
  | script
deriving DecidableEq, Repr

/-- The part as it appears in the log. -/
def Origin.name : Origin → String
  | .configuration => "conf"
  | .interfaces => "iface"
  | .routes => "mroute"
  | .groups => "mcgroup"
  | .script => "script"

/-- A number that belongs to a record, or its absence. -/
abbrev Field := String × Option Nat

/-- A log record. The daemon's own records have no origin. -/
structure Record where
  level : Level
  message : String
  fields : List Field
  origin : Option Origin
deriving DecidableEq, Repr

end StaticMulticast.Log
