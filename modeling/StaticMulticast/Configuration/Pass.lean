import StaticMulticast.Configuration.Reader
import StaticMulticast.Event
import StaticMulticast.Outcome

/-!
# Passes over the configuration

A pass reads the lines of a file one after the other and has the operation of each carried out
before the next is looked at. A line without effect is reported and left behind. Only a fault of the
file ends a pass early.
-/

namespace StaticMulticast.Configuration

/-- Those who carry out the operations of a pass: the interfaces that a line can name, what an
operation does, and what is run after the last line of a file. -/
structure Collaborators (State : Type) where
  lookup : State → Lookup
  perform : State → Operation → Outcome State StaticMulticast.Event (Except Failure Unit)
  afterwards : State → Outcome State StaticMulticast.Event (Except Failure Unit)

/-- What became of a line. A line is idle if there was nothing to do for it. -/
inductive LineResult where
  | applied
  | idle
  | dropped (fault : LineFault)
deriving DecidableEq, Repr

/-- Counts what became of lines. -/
def Summary.ofResults (results : List LineResult) : Summary where
  lines := results.length
  applied := results.countP fun result => result matches .applied
  rejected := results.countP fun result => result matches .dropped (.rejected _)
  failed := results.countP fun result => result matches .dropped (.failed _)

/-- What comes of a file. -/
inductive LoadResult where
  /-- The file was read to its end. -/
  | parsed (summary : Summary)
  /-- There is no such file. -/
  | absent
  /-- The file could not be opened. -/
  | inaccessible
deriving DecidableEq, Repr

namespace Pass

variable {State : Type}

/-- The events of the remarks on a line. -/
def noteEvents (number : Nat) (notes : List Note) : List StaticMulticast.Event :=
  notes.map fun note => .configuration (.noted number note)

/-- The event of a line without effect. -/
def dropEvent (number : Nat) (fault : LineFault) : StaticMulticast.Event :=
  .configuration (.dropped number fault)

/-- Handles the line of the given number. -/
def handle (collaborators : Collaborators State) (settings : Settings) (number : Nat) (line : Line)
    (state : State) : Outcome State StaticMulticast.Event LineResult :=
  let asked := line.operation settings (collaborators.lookup state)
  let remarks := noteEvents number asked.notes
  match asked.result with
  | .error reason =>
      let fault := .rejected reason
      ⟨.dropped fault, state, remarks ++ [dropEvent number fault]⟩
  | .ok none => ⟨.idle, state, remarks⟩
  | .ok (some operation) =>
      let performed := collaborators.perform state operation
      match performed.value with
      | .ok _ => ⟨.applied, performed.state, remarks ++ performed.events⟩
      | .error reason =>
          let fault := .failed reason
          ⟨.dropped fault, performed.state,
            remarks ++ performed.events ++ [dropEvent number fault]⟩

/-- Handles lines of which the first has the given number. -/
def run (collaborators : Collaborators State) (settings : Settings) (number : Nat) :
    List Line → State → Outcome State StaticMulticast.Event (List LineResult)
  | [], state => ⟨[], state, []⟩
  | line :: rest, state =>
      let now := handle collaborators settings number line state
      let later := run collaborators settings (number + 1) rest now.state
      ⟨now.value :: later.value, later.state, now.events ++ later.events⟩

/-- Makes a pass over data that comes in the given reads. -/
def parse (collaborators : Collaborators State) (settings : Settings) (capacity : Nat)
    (reads : List Host.Read) (state : State) :
    Outcome State StaticMulticast.Event (Except Failure Summary) :=
  let (lines, fault) := readLines capacity reads
  let handled := run collaborators settings 1 lines state
  { handled with
    value := match fault with
      | none => .ok (.ofResults handled.value)
      | some fault => .error (.io fault) }

/-- The capacity of the buffer that a file is read through. -/
def fileCapacity : Nat := 8192

/-- Makes a pass over a file, and has what is due afterwards carried out unless the reading failed.
That a file cannot be opened is no failure. -/
def load (collaborators : Collaborators State) (settings : Settings)
    (environment : Host.Environment) (path : String) (state : State) :
    Outcome State StaticMulticast.Event (Except Failure LoadResult) :=
  match environment.openFile path with
  | .error fault =>
      if fault.kind = .notFound then
        ⟨.ok .absent, state, [.configuration (.absent path), .configuration .waiting]⟩
      else
        ⟨.ok .inaccessible, state,
          [.configuration (.inaccessible path fault), .configuration .waiting]⟩
  | .ok reads =>
      let parsed := parse collaborators settings fileCapacity reads state
      match parsed.value with
      | .error reason => { parsed with value := .error reason }
      | .ok summary =>
          let afterwards := collaborators.afterwards parsed.state
          let failure := match afterwards.value with
            | .ok _ => []
            | .error reason => [.configuration (.hookFailed reason)]
          ⟨.ok (.parsed summary), afterwards.state,
            parsed.events ++ .configuration (.parsed path summary) :: afterwards.events ++ failure⟩

end Pass

end StaticMulticast.Configuration
