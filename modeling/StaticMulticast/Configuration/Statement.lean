import StaticMulticast.Configuration.Note
import StaticMulticast.Configuration.Rejection
import StaticMulticast.Configuration.Word

/-!
# Statements

A line that says all its command needs is a statement, with every address and name as written. Blank
lines and lines with only a comment are none. What a statement has no use for is left out of it,
whether the line says it or not.
-/

namespace StaticMulticast.Configuration

/-- What a line asks for. -/
inductive Statement where
  | interface (name : String) (enable : Bool) (threshold : UInt8)
  | membership (interface : String) (source : Option String) (group : String)
  | route (inbound : String) (source : Option String) (group : String) (outbound : List String)
deriving DecidableEq, Repr

/-- What comes of reading a line: the remarks on the way, and the result or why there is none. -/
structure Reading (Value : Type) where
  notes : List Note
  result : Except Rejection Value

namespace Statement

/-- The value of a part that a command needs. -/
def required (command : Command) (part : Part) : Option String → Except Rejection String
  | some value => .ok value
  | none => .error (.missing part command)

/-- The statement of a command whose line says the given things. -/
def ofContent (command : Command) (content : Content) : Except Rejection Statement :=
  if mostOutbound < content.outbound.length then .error .tooManyOutbound
  else match command with
    | .interface => do
        let name ← required command .interfaceName content.inbound
        pure (.interface name content.enable content.threshold)
    | .membership => do
        let interface ← required command .inbound content.inbound
        let group ← required command .group content.group
        pure (.membership interface content.source group)
    | .route =>
        if content.outbound.isEmpty then .error (.missing .outbound command)
        else do
          let inbound ← required command .inbound content.inbound
          let group ← required command .group content.group
          pure (.route inbound content.source group content.outbound)

/-- Reads the words after the command. An interface command begins with the name of the interface,
which a later clause may change. -/
def ofWords (settings : Settings) (command : Command) (named : Option String)
    (words : List String) : Reading (Option Statement) :=
  let content := Content.initial settings named
  let clauses := Clause.read words
  ⟨Note.ofClauses content clauses, (ofContent command (content.applyAll clauses)).map some⟩

/-- Reads a line. -/
def read (settings : Settings) (line : String) : Reading (Option Statement) :=
  match words line with
  | [] => ⟨[], .ok none⟩
  | word :: words =>
      match Command.ofWord? word, words with
      | none, _ => ⟨[], .error (.unknownCommand word)⟩
      | some .interface, [] => ⟨[], .error (.missing .interfaceName .interface)⟩
      | some .interface, name :: words => ofWords settings .interface (some name) words
      | some command, words => ofWords settings command none words

end Statement

end StaticMulticast.Configuration
