import StaticMulticast.Address.Family
import StaticMulticast.Failure

/-!
# Rejected configuration lines

Why a line is dropped: it cannot be read, it does not say all that its command needs, or what it
says does not fit the interfaces there are.
-/

namespace StaticMulticast.Configuration

open Address (Family)

/-- The longest line that is read, in octets without the end of the line. -/
def longestLine : Nat := 512

/-- How many outbound interfaces a line may name. -/
def mostOutbound : Nat := 32

/-- What a line does, by its first word. -/
inductive Command where
  | interface
  | membership
  | route
deriving DecidableEq, Repr

/-- The command that is spelled as the given word. -/
def Command.ofWord? (word : String) : Option Command :=
  if word = "mgroup" then some .membership
  else if word = "ssmgroup" then some .membership
  else if word = "mroute" then some .route
  else if word = "phyint" then some .interface
  else none

/-- The command in words. -/
def Command.name : Command → String
  | .interface => "phyint"
  | .membership => "mgroup"
  | .route => "mroute"

/-- Something that a command needs. -/
inductive Part where
  | interfaceName
  | inbound
  | group
  | outbound
deriving DecidableEq, Repr

/-- The part in words. -/
def Part.name : Part → String
  | .interfaceName => "interface name"
  | .inbound => "from"
  | .group => "group"
  | .outbound => "to"

/-- Why a line is dropped without an attempt to carry it out. -/
inductive Rejection where
  | unknownCommand (word : String)
  | missing (part : Part) (command : Command)
  | tooManyOutbound
  | tooLong
  | notUtf8
  | invalidGroup (family : Family) (text : String)
  | invalidSource (family : Family) (text : String)
  | missingSource (family : Family)
  | rangeWithSource
  | invalidLength (group : String)
  | invalidInbound (family : Family) (name : String)
  | noOutbound (family : Family)
deriving DecidableEq, Repr

/-- The reason in words. -/
def Rejection.message : Rejection → String
  | .unknownCommand word => "Unknown command " ++ word ++ ", skipping."
  | .missing part command => "Missing " ++ part.name ++ " in " ++ command.name ++ " directive."
  | .tooManyOutbound =>
      "Too many outbound interfaces, at most " ++ toString mostOutbound ++ " allowed."
  | .tooLong => "Line too long, at most " ++ toString longestLine ++ " characters allowed."
  | .notUtf8 => "Line is not valid UTF-8."
  | .invalidGroup family text => "Invalid " ++ family.name ++ " multicast group: " ++ text
  | .invalidSource family text => "Invalid " ++ family.name ++ " multicast source: " ++ text
  | .missingSource family => "Invalid source " ++ family.name ++ " address: NONE"
  | .rangeWithSource => "GROUP/LEN not yet supported for source specific multicast."
  | .invalidLength group => "Invalid prefix length, " ++ group
  | .invalidInbound family name => "Invalid inbound " ++ family.name ++ " interface: " ++ name
  | .noOutbound family =>
      "No valid outbound " ++ family.name ++ " interfaces, skipping multicast route."

/-- Why a line has no effect although it is no blank one: it is rejected, or its operation fails. -/
inductive LineFault where
  | rejected (reason : Rejection)
  | failed (reason : Failure)
deriving DecidableEq, Repr

/-- The reason in words. -/
def LineFault.message : LineFault → String
  | .rejected reason => reason.message
  | .failed reason => reason.message

end StaticMulticast.Configuration
