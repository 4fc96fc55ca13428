import StaticMulticast.Daemon.Basic

/-!
# Signals

Two threads share the work. The handler takes the delivered signals in order and sends the main
thread a message for each, until a signal comes that ends the daemon. The main thread loads the
configuration, and then does what each message asks for. A message cannot be sent once the main
thread has ended.
-/

namespace StaticMulticast

/-- A signal that the daemon has registered for. -/
inductive Signal where
  | hangup
  | interrupt
  | quit
  | terminate
deriving DecidableEq, Repr

namespace Signal

/-- The number of a signal. -/
def number : Signal → Nat
  | .hangup => 1
  | .interrupt => 2
  | .quit => 3
  | .terminate => 15

/-- The signal of a name. -/
def ofName? (name : String) : Option Signal :=
  if name = "HUP" then some .hangup
  else if name = "INT" then some .interrupt
  else if name = "QUIT" then some .quit
  else if name = "TERM" then some .terminate
  else none

/-- The signal of a number. -/
def ofNumber? (number : Nat) : Option Signal :=
  [hangup, interrupt, quit, terminate].find? fun signal => signal.number = number

/-- What the handler asks of the main thread. -/
inductive Message where
  | reload
  | exit
deriving DecidableEq, Repr

/-- The message for a signal. -/
def message : Signal → Message
  | .hangup => .reload
  | _ => .exit

/-- What the handler reports of a signal. -/
def event : Signal → StaticMulticast.Event
  | .hangup => .daemon .reloadRequested
  | signal => .daemon (.received signal.number)

/-- The state of the handler. -/
inductive Handler where
  | listening
  /-- It has sent the message to exit. -/
  | finished
  /-- A message could not be sent. -/
  | refused
deriving DecidableEq, Repr

/-- The state of the main thread. -/
inductive Phase where
  | loading
  | waiting
  | exited
deriving DecidableEq, Repr

/-- The two threads, with the signals that are delivered but not taken, and the messages that are
sent but not received. -/
structure Machine where
  daemon : Daemon
  delivered : List Signal
  handler : Handler
  queue : List Message
  phase : Phase
deriving DecidableEq, Repr

namespace Machine

/-- What a step comes to. -/
abbrev Result := Outcome Machine StaticMulticast.Event Unit

/-- The threads as they start. -/
def start (daemon : Daemon) : Machine := ⟨daemon, [], .listening, [], .loading⟩

/-- Delivers a signal. -/
def deliver (machine : Machine) (signal : Signal) : Machine :=
  { machine with delivered := machine.delivered ++ [signal] }

/-- A step of the handler, unless it has ended or has no signal to take. -/
def handlerStep (machine : Machine) : Option Result :=
  match machine.handler, machine.delivered with
  | .listening, signal :: rest =>
      let later :=
        if machine.phase = .exited then { machine with delivered := rest, handler := .refused }
        else
          { machine with
            delivered := rest
            handler := if signal.message = .exit then .finished else .listening
            queue := machine.queue ++ [signal.message] }
      some ⟨(), later, [signal.event]⟩
  | _, _ => none

/-- A step of the main thread, unless it has ended or waits for a message that can still come. -/
def mainStep (environment : Host.Environment) (machine : Machine) : Option Result :=
  match machine.phase with
  | .exited => none
  | .loading =>
      let loaded := machine.daemon.load environment
      some ⟨(), { machine with daemon := loaded.state, phase := .waiting }, loaded.events⟩
  | .waiting =>
      match machine.queue with
      | .reload :: rest =>
          let loaded := machine.daemon.reload environment
          some ⟨(), { machine with daemon := loaded.state, queue := rest }, loaded.events⟩
      | .exit :: rest =>
          some ⟨(), { machine with queue := rest, phase := .exited }, [.daemon .exiting]⟩
      | [] =>
          if machine.handler = .listening then none
          else
            some ⟨(), { machine with phase := .exited },
              [.daemon .handlerGone, .daemon .exiting]⟩

/-- Takes up to the given number of steps. -/
def repeatedly (step : Machine → Option Result) : Nat → Machine → Result
  | 0, machine => ⟨(), machine, []⟩
  | bound + 1, machine =>
      match step machine with
      | none => ⟨(), machine, []⟩
      | some now =>
          let later := repeatedly step bound now.state
          ⟨(), later.state, now.events ++ later.events⟩

/-- Lets the handler take all signals that are delivered. -/
def handleAll (machine : Machine) : Result :=
  repeatedly handlerStep machine.delivered.length machine

/-- Lets the main thread do all it can. It needs a step for each message, one to load the
configuration, and one to end. -/
def workAll (environment : Host.Environment) (machine : Machine) : Result :=
  repeatedly (mainStep environment) (machine.queue.length + 2) machine

end Machine

end Signal

end StaticMulticast
