import StaticMulticast.Signal.Machine

/-!
# The program

A whole run of the program on any computer that does what the daemon asks of its host: it reads its
command line, opens its log, learns the interfaces of the system, and then serves the signals that
come while files change.
-/

namespace StaticMulticast.Program

open CommandLine (Options UsageFault)
open Host (Platform)

/-- The name and the version of the program. -/
def banner : String := "mcrouted 0.1.0"

/-- A log file that cannot be opened. -/
structure LogFault where
  path : String
  fault : Host.Fault
deriving DecidableEq, Repr

/-- The fault in words, without its cause. -/
def LogFault.message (fault : LogFault) : String :=
  "opening log file " ++ fault.path

section Logging

variable {Computer LogFile : Type} [Platform Computer LogFile]

/-- Opens the log file, if the log is to go to one. The log goes to the output if it is not. -/
def openLog (computer : Computer) :
    Option String → Except LogFault (Option LogFile × Computer)
  | none => .ok (none, computer)
  | some path =>
      match Platform.openLog computer path with
      | .ok (opened, computer) => .ok (some opened, computer)
      | .error fault => .error ⟨path, fault⟩

/-- Writes octets to the log. -/
def writeLog (log : Option LogFile) (octets : List UInt8) (computer : Computer) : Computer :=
  match log with
  | none => Platform.print computer octets
  | some opened => Platform.append computer opened octets

end Logging

/-- Records as they stand in the log. -/
def logOctets (format : Log.Format) (records : List Log.Record) : List UInt8 :=
  (String.join (records.map fun record => record.entry format)).toUTF8.toList

/-- Why the program ends before it does anything. -/
inductive StartFault where
  | usage (fault : UsageFault)
  | setup (reason : Failure)
  | log (fault : LogFault)
deriving DecidableEq, Repr

namespace StartFault

/-- The program was only asked about itself. -/
def isQuestion : StartFault → Bool
  | .usage .helpWanted => true
  | .usage .versionWanted => true
  | _ => false

/-- The exit code. -/
def exitCode (fault : StartFault) : Nat :=
  if fault.isQuestion then 0 else 1

/-- The fault as it is reported when the program ends, if it is not about the command line. -/
def report? : StartFault → Option String
  | .usage _ => none
  | .setup reason => some ("Error: " ++ reason.message ++ "\n")
  | .log fault =>
      some ("Error: " ++ fault.message ++ "\n\nCaused by:\n    " ++ fault.fault.message ++ "\n")

/-- The first line of the answer to a question about the program. -/
def answer? (fault : StartFault) : Option String :=
  if fault.isQuestion then some banner else none

end StartFault

/-- Reads the command line. -/
def configure (arguments : List String) : Except StartFault Setup :=
  match Options.read arguments with
  | .error fault => .error (.usage fault)
  | .ok options => (Setup.ofOptions options).mapError .setup

/-- The events of learning the interfaces of the computer. -/
def probeEvents : Except Failure Nat → List Event
  | .ok count => [.daemon (.found count)]
  | .error reason => [.daemon (.undiscovered reason)]

/-- Learns the interfaces of the system and enables them unless that is not wanted. -/
def prepare (setup : Setup) (answer : Interface.SystemAnswer) :
    Outcome Daemon Event Unit :=
  let probed := (Registry.empty setup.ipv6).probe answer
  let enabled := (Daemon.initial setup probed.state).enableByDefault
  ⟨(), enabled.state,
    probed.events.map .interfaces ++ probeEvents probed.value ++ enabled.events⟩

variable {Computer LogFile : Type} [Platform Computer LogFile]

/-! ## Scripts -/

/-- The events up to the start of a script, and the path of the script. -/
def upToScript : List Event → Option (List Event × String)
  | [] => none
  | event :: rest =>
      match event with
      | .script (.running path) => some ([event], path)
      | _ => (upToScript rest).map fun (before, path) => (event :: before, path)

/-- What an operation comes to on a computer that its script changes. The operation is looked at
twice, since nothing before the script depends on it. Its events are reported as they happen, so
that the script finds those before it in the log. -/
def settle {State : Type} (report : List Event → Computer → Computer) (computer : Computer)
    (operate : Host.Environment → Outcome State Event Unit) :
    Outcome State Event Unit × Computer :=
  let planned := operate ⟨Platform.openFile computer, fun _ => .ok (.code 0)⟩
  match upToScript planned.events with
  | none => (planned, report planned.events computer)
  | some (before, path) =>
      let reported := report before computer
      let ended := Platform.run reported path
      let outcome := operate ⟨Platform.openFile computer, fun _ => ended.map (·.1)⟩
      let later := match ended with
        | .ok (_, later) => later
        | .error _ => reported
      (outcome, report (outcome.events.drop before.length) later)

/-! ## Running -/

/-- What happens to the program from outside. -/
inductive Stimulus where
  | signal (signal : Signal)
  | change (action : Host.FileAction)
deriving DecidableEq, Repr

/-- A run: the host, where the log goes to, the two threads, and the events that each has reported.
A signal that the program has not registered for can end it at any time. -/
structure Run (Computer LogFile : Type) where
  computer : Computer
  log : Option LogFile
  machine : Signal.Machine
  mainEvents : List Event
  signalEvents : List Event
  isKilled : Bool := false

namespace Run

/-- Writes events to the log. -/
def report (run : Run Computer LogFile) (events : List Event) (computer : Computer) : Computer :=
  writeLog run.log (logOctets run.machine.daemon.setup.logFormat (events.map Event.record)) computer

/-- A signal comes, and the handler takes it. -/
def receive (run : Run Computer LogFile) (signal : Signal) : Run Computer LogFile :=
  let handled := (run.machine.deliver signal).handleAll
  { run with
    machine := handled.state
    computer := run.report handled.events run.computer
    signalEvents := run.signalEvents ++ handled.events }

/-- Takes the signals that a script has sent. -/
def takeSignals (run : Run Computer LogFile) : Run Computer LogFile :=
  let (numbers, computer) := Platform.takeSignals run.computer
  let isFatal (number : Nat) : Bool :=
    (Signal.ofNumber? number).isNone && Host.signalIsFatal number
  let received := (numbers.filterMap Signal.ofNumber?).foldl receive { run with computer }
  { received with isKilled := run.isKilled || numbers.any isFatal }

/-- The main thread does all it can, and so does the handler with the signals that come meanwhile.
The bound is on the number of steps. -/
def work : Nat → Run Computer LogFile → Run Computer LogFile
  | 0, run => run
  | bound + 1, run =>
      if run.isKilled || (run.machine.mainStep Host.Environment.empty).isNone then run
      else
        let (worked, computer) := settle run.report run.computer fun environment =>
          (run.machine.mainStep environment).getD ⟨(), run.machine, []⟩
        work bound
          { run with
            computer, machine := worked.state
            mainEvents := run.mainEvents ++ worked.events }.takeSignals

/-- A bound on the steps that the main thread takes before it waits. -/
def mostSteps : Nat := 1000

/-- Something happens, and both threads do all they can before the next thing happens. -/
def meet (run : Run Computer LogFile) : Stimulus → Run Computer LogFile
  | .change action => { run with computer := Platform.change run.computer action }
  | .signal signal => if run.isKilled then run else work mostSteps (run.receive signal)

/-- The program has started, and has loaded its configuration. -/
def start (setup : Setup) (log : Option LogFile) (computer : Computer)
    (answer : Interface.SystemAnswer) : Run Computer LogFile :=
  let prepared := prepare setup answer
  let run : Run Computer LogFile :=
    ⟨computer, log, .start prepared.state, prepared.events, [], false⟩
  work mostSteps { run with computer := run.report prepared.events computer }

/-- The exit code, which is that of success, once the main thread has ended. -/
def exitCode? (run : Run Computer LogFile) : Option Nat :=
  if run.machine.phase = .exited then some 0 else none

end Run

/-- Runs the program on a host. -/
def run (arguments : List String) (computer : Computer) (answer : Interface.SystemAnswer)
    (stimuli : List Stimulus) : Except StartFault (Run Computer LogFile) := do
  let setup ← configure arguments
  let (log, computer) ← (openLog computer setup.logFile).mapError .log
  pure (stimuli.foldl Run.meet (Run.start setup log computer answer))

end StaticMulticast.Program
