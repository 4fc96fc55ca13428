import StaticMulticast.Host.Interpreter
import StaticMulticast.Host.Process.Variable

/-!
# What processes can do

They look at files, carry out tasks, meet at queues and find programs.
-/

/-!
## Looking at files

What a process can learn about what stands at the end of a path. It may read and write all files.
-/

namespace StaticMulticast.Host

/-- What stands at the end of a path. -/
structure Found where
  location : Location
  entry : Entry
  /-- Its node, if it is a file or a directory. -/
  node : Option Node
deriving DecidableEq, Repr

namespace Found

/-- It is a directory. -/
def isDirectory (found : Found) : Bool :=
  found.entry.isDirectory

/-- It is a link. -/
def isLink (found : Found) : Bool :=
  match found.entry with
  | .link _ => true
  | _ => false

/-- It is a device of its own. -/
def isDevice (found : Found) : Bool :=
  match found.entry with
  | .device (.descriptor _) | .device (.queue _) => false
  | .device _ => true
  | _ => false

/-- It is a queue. -/
def isQueue (found : Found) : Bool :=
  match found.entry with
  | .device (.queue _) => true
  | _ => false

/-- It is neither a directory nor a device. -/
def isPlain (found : Found) : Bool :=
  match found.entry with
  | .file _ | .program _ => true
  | _ => false

/-- The number of octets that it is told to hold. -/
def size (found : Found) : Nat :=
  match found.entry, found.node with
  | .directory _, _ => 0x1000
  | .link target, _ => target.utf8ByteSize
  | .program _, _ => 0x20000
  | .file _, some node => node.octets.length
  | _, _ => 0

/-- It is not empty. -/
def hasContent (found : Found) : Bool :=
  found.size != 0 && !found.isLink

/-- The rights at it. -/
def mode (found : Found) : Nat :=
  match found.entry, found.node with
  | _, some node => node.mode
  | .link _, _ => 0x1FF
  | .program _, _ => Node.passable
  | .device _, _ => 0x1B6
  | _, _ => Node.ordinary

/-- The time of its last change. -/
def time (found : Found) : Int :=
  (found.node.map Node.time).getD Computer.beginning

/-- It can be run, or passed through. -/
def isRunnable (found : Found) : Bool :=
  match found.entry with
  | .directory _ | .program _ => true
  | .file _ => found.node.any Node.isExecutable
  | _ => false

end Found

namespace Action

/-- What stands at the end of a path. Whether a link there is to be followed is given first. -/
def find? (through : Bool) (path : String) : Action (Option Found) := do
  let files ← files
  match files.locate through (← process).working (pathOf path) with
  | .error _ => pure none
  | .ok location =>
      match files.get? location with
      | none => pure none
      | some (.device (.descriptor number)) => do
          let isOpen := ((← process).descriptors.lookup number).isSome
          pure (if isOpen then some ⟨location, .device (.descriptor number), none⟩ else none)
      | some entry => pure (some ⟨location, entry, entry.node?.bind files.node?⟩)

end Action

end StaticMulticast.Host

/-!
## Tasks

What processes do refers to itself: a command holds commands, and a program starts programs. So what
there is to do is given as a task, and every part of the shell takes what carries out tasks as an
argument. A child of a process has a process of its own, and the world goes on from where it left
it.
-/

namespace StaticMulticast.Host

open Shell (Command)

/-- A program of the system that is about to run, with its arguments. -/
structure Launch where
  program : String
  /-- The name by which it was called. -/
  called : String
  arguments : List String
deriving DecidableEq, Repr

/-- Where a command stands. -/
structure Context where
  /-- A command around it asks whether it fails. -/
  isAsked : Bool := false
  /-- The process has nothing to do after it. -/
  isLast : Bool := false
deriving DecidableEq, Repr

/-- Something to do for a process. -/
inductive Task where
  | command (context : Context) (command : Command)
  /-- Runs the text of a script in the same shell. It is told on which line the text stands. -/
  | script (context : Context) (line : Nat) (text : String)
  /-- Becomes another program. It ends the process. -/
  | launch (launch : Launch)

/-- What carries out tasks. -/
abbrev Runner := Task → Action Unit

/-- What a shell keeps when it is copied to run some of its commands: its traps have no effect
there, unless options want some of them to, but signals without effect stay without it. -/
def Process.asSubshell (process : Process) : Process :=
  let isKept (trap : String × String) : Bool :=
    trap.2.isEmpty ||
      (trap.1 = "ERR" && process.options.keepsFailureTrap) ||
      ((trap.1 = "DEBUG" || trap.1 = "RETURN") && process.options.keepsStepTrap)
  { process with traps := process.traps.filter isKept, copies := process.copies + 1 }

namespace Action

/-! ## Signals -/

/-- A waiting job gets a signal, which ends it if it has no provision for it. -/
def signalJob (target signal : Nat) : Action Unit := do
  match (← world).jobs.find? fun job => job.process.number = target with
  | some job =>
      if signalIsFatal signal && !job.process.passedOver.contains signal then
        modifyWorld fun world =>
          { world with
            jobs := world.jobs.filter fun other => other.process.number != target
            living := world.living.filter (· != target)
            ended := (target, .signal signal) :: world.ended }
  | none =>
      modifyWorld fun world => { world with pending := world.pending ++ [(target, signal)] }

/-- Sends a signal to a process. Number zero only asks whether there is such a process. -/
def send (target signal : Nat) : Action Bool := do
  if target = ownerNumber then
    if signal != 0 then
      modifyWorld fun world => { world with signals := world.signals ++ [signal] }
    pure true
  else if (← world).living.contains target then do
    if signal != 0 then signalJob target signal
    pure true
  else pure false

/-- The name that a trap for a signal has. -/
def signalName (signal : Nat) : String :=
  (signalNames.lookup signal).getD (toString signal)

/-- Runs the action of a trap, after which the status is the one from before. In the extended
language only the trap for the end keeps that status for an exit. It is told whether the trap is for
commands, on whose lines it then runs. -/
def runTrapAction (again : Runner) (isFinal isOfCommand : Bool) (status : Nat) (action : String) :
    Action Unit := do
  let before := (← process).beforeTrap
  let keeps := isFinal || !(← isExtended)
  modifyProcess fun process =>
    { process with status, beforeTrap := if keeps then some status else before }
  let line := (← process).line
  match ← attempt (again (.script { } (if isOfCommand then line else 1) action)) with
  | .error (.fails status) => throw (.exits status)
  | .error jump => throw jump
  | .ok _ => pure ()
  modifyProcess fun process => { process with status, line, beforeTrap := before }

/-- The signal that a shell of the extended language passes over, unless there is a trap for it. -/
def quitSignal : Nat := 3

/-- Takes the signals that have been sent to this process. -/
def takeSignals (again : Runner) : Action Unit := do
  let number := (← process).number
  let mine := (← world).pending.filter fun other => other.1 = number
  if !mine.isEmpty then
    modifyWorld fun world =>
      { world with pending := world.pending.filter fun other => other.1 != number }
    mine.forM fun (_, signal) => do
      let process ← process
      if process.passedOver.contains signal then pure ()
      else match process.traps.lookup (signalName signal) with
      | some action => runTrapAction again false false process.status action
      | none =>
          let isOverlooked := process.dialect = .extended && signal = quitSignal
          if signalIsFatal signal && !isOverlooked then throw (.killed signal)

/-! ## Children -/

/-- How a process ends that ends in this way. -/
def endOf : Except Jump Unit → Process → ExitStatus
  | .error (.exits status), _ => .code (status % 256)
  | .error (.killed signal), _ => .signal signal
  | .error (.fails status), _ => .code (status % 256)
  | .error (.abandons status), _ => .code (status % 256)
  | _, process => .code (process.status % 256)

/-- Lets a new process be the one that runs, and gives the old one. -/
def enterChild : Action Process := do
  let parent ← process
  let number := (← world).nextProcess
  modifyWorld fun world =>
    { world with
      nextProcess := number + 1
      moments := world.moments + 1
      living := number :: world.living }
  modifyProcess fun process => { process with number, parent := parent.number }
  pure parent

/-- Lets the old process run again, since its child has ended. -/
def leaveChild (parent : Process) : Action Unit := do
  let number := (← process).number
  modifyWorld fun world => { world with living := world.living.filter (· != number) }
  modifyProcess fun _ => parent

/-- Does something in a child of the process, and tells how the child ends. -/
def inChild (body : Action Unit) : Action ExitStatus := do
  let parent ← enterChild
  let result ← attempt body
  let status := endOf result (← process)
  leaveChild parent
  pure status

/-- The status that a process leaves to the one that has started it. -/
def statusOf : ExitStatus → Nat
  | .code number => number % 256
  | .signal number => 128 + number

/-- Ends a shell: the trap for its end runs, which can change the status. -/
def finishShell (again : Runner) (result : Except Jump Unit) : Action Unit := do
  let process ← process
  let status := endOf result process
  let runsTrap : Bool := match status with
    | .code _ => true
    | .signal signal => process.dialect = .extended && [1, 2, 15].contains signal
  match process.traps.lookup "EXIT" with
  | some action =>
      if runsTrap then do
        modifyProcess fun process =>
          { process with
            level := 0
            traps := process.traps.filter fun trap => trap.1 != "EXIT" }
        runTrapAction again true false (statusOf status) action
  | none => pure ()
  match status with
  | .code code => throw (.exits code)
  | .signal signal => throw (.killed signal)

/-- Runs something in a copy of the shell. -/
def inSubshell (again : Runner) (body : Action Unit) : Action ExitStatus := do
  let status ← inChild do
    modifyProcess Process.asSubshell
    finishShell again (← attempt body)
  takeSignals again
  pure status

/-! ## Output of commands -/

/-- Runs something in a copy of the shell, and takes what it writes. -/
def capture (again : Runner) (body : Action Unit) : Action (List UInt8 × ExitStatus) := do
  let (reading, writing) ← makePipe
  let status ← inSubshell again do
    setDescriptor 1 (some writing)
    body
  match (← world).openFiles[reading]? with
  | some file => do
      let octets ← available file
      advance reading file octets.length
      pure (octets, status)
  | none => pure ([], status)

/-! ## Jobs -/

/-- Lets a command wait in the background, and gives the number of its process. It is given the text
of the command if it is a job of the shell, and told whether it reads what the shell reads. -/
def addJob (text : Option String) (keepsInput : Bool) (command : Command) : Action Nat := do
  let parent ← enterChild
  if !keepsInput then
    let nothing ← addOpenFile { stream := .empty }
    setDescriptor 0 (some nothing)
  modifyProcess Process.asSubshell
  let process ← process
  modifyWorld fun world =>
    { world with jobs := world.jobs ++ [⟨process, command, world.clock⟩] }
  let place := (parent.jobs.map Started.place).foldl max 0 + 1
  let started := text.toList.map fun text => ⟨place, process.number, text⟩
  modifyProcess fun _ =>
    { parent with
      lastJob := some process.number
      children := process.number :: parent.children
      jobs := started ++ parent.jobs }
  pure process.number

/-- Runs a job to its end, beside what has been done since it could run. -/
def runJob (again : Runner) (job : Job) : Action Unit := do
  let parent ← process
  let now := (← world).clock
  modifyProcess fun _ => job.process
  modifyWorld fun world =>
    { world with
      clock := job.start
      jobs := world.jobs.filter fun other => other.process.number != job.process.number }
  let result ← attempt do
    takeSignals again
    finishShell again (← attempt (again (.command { isLast := true } job.command)))
  let status := endOf result (← process)
  modifyWorld fun world =>
    { world with
      clock := max now world.clock
      living := world.living.filter (· != job.process.number)
      ended := (job.process.number, status) :: world.ended }
  modifyProcess fun _ => parent

/-- Runs the jobs of a process. -/
def runJobs (again : Runner) (number : Nat) : Action Unit := do
  let jobs := (← world).jobs.filter fun job => job.process.parent = number
  jobs.forM (runJob again)

/-- Runs the jobs that come to their end before a time. The others have not begun to run. -/
def runJobsUntil (again : Runner) (time : Nat) : Action Unit := do
  let jobs := (← world).jobs
  jobs.forM fun job => do
    let before ← get
    runJob again job
    if time < (← world).clock then set before

/-- Runs all jobs, and those that they leave, as far as they do not wait for later. The bound is on
how often jobs leave jobs. -/
def leaveJobs (again : Runner) : Nat → Action Unit
  | 0 => pure ()
  | bound + 1 => do
      modifyWorld fun world => { world with horizon := some world.clock }
      let jobs := (← world).jobs
      jobs.forM (runJob again)
      if !jobs.isEmpty then leaveJobs again bound

/-! ## Time -/

/-- Lets time pass up to a moment, unless a signal that is sent before it ends the process. The
bound is on the number of such signals. -/
def passTime (again : Runner) (time : Nat) : Nat → Action Unit
  | 0 => pure ()
  | bound + 1 => do
      let now := (← world).clock
      let due := ((← process).limits.filter fun limit => now < limit.time && limit.time ≤ time)
      let first := due.foldl (fun (first : Option Limit) limit =>
        if first.any fun first => first.time ≤ limit.time then first else some limit) none
      let moment := (first.map Limit.time).getD time
      if (← world).horizon.any (· < moment) then throw (.killed 9)
      runJobsUntil again moment
      modifyWorld fun world => { world with clock := moment }
      match first with
      | none => pure ()
      | some limit => do
          let _ ← send limit.target limit.signal
          let own := (← process).number
          if own != limit.target then
            let _ ← send own limit.signal
          takeSignals again
          passTime again time bound

/-- Waits for some time. -/
def sleep (again : Runner) (duration : Nat) : Action Unit := do
  passTime again ((← world).clock + duration) ((← process).limits.length + 1)

end Action

end StaticMulticast.Host

/-!
## Meeting at queues

A process that opens a queue waits until another one opens its other side. Those in the background
get to run for that. If none of them is there, the process waits until a signal ends it.
-/

namespace StaticMulticast.Host.Action

/-- The node of the queue at the end of a path, if there is one. -/
def queueAt? (path : String) : Action (Option Nat) := do
  pure (match (← find? true path).map Found.entry with
    | some (.device (.queue node)) => some node
    | _ => none)

/-- A descriptor of the process leads to a queue. -/
def holdsQueue (node : Nat) : Action Bool := do
  let files := (← world).openFiles
  pure ((← process).descriptors.any fun (_, number) =>
    files[number]?.any fun file => file.stream = .opened (.device (.queue node)))

/-- A time that is far away. -/
def farAway : Nat := 1000000000000000

/-- Waits until a signal ends the process. -/
def waitForever (again : Runner) : Action Unit := do
  sleep again farAway
  throw (.killed 9)

/-- Runs those in the background that are there, until a queue has octets. -/
def fillQueue (again : Runner) (node : Nat) : List Job → Action Unit
  | [] => pure ()
  | job :: rest => do
      let isThere := (← world).jobs.any fun other => other.process.number = job.process.number
      if isThere && (← nodeOctets node).isEmpty then runJob again job
      fillQueue again node rest

/-- Waits until the other side of a queue is opened too, before it is opened to read from it, or to
write to it. -/
def meetAt (again : Runner) (node : Nat) (reads : Bool) : Action Unit := do
  let jobs := (← world).jobs
  if !(← holdsQueue node) then
    if reads then do
      if (← nodeOctets node).isEmpty then do
        if jobs.isEmpty then waitForever again
        modifyWorld fun world => { world with waiting := node :: world.waiting }
        fillQueue again node jobs
        runJobsUntil again (← world).clock
        modifyWorld fun world => { world with waiting := world.waiting.erase node }
    else if jobs.isEmpty && !(← world).waiting.contains node then waitForever again

/-- Waits at the queue at the end of a path, if there is one. -/
def meetAtPath (again : Runner) (path : String) (reads : Bool) : Action Unit := do
  match ← queueAt? path with
  | some node => meetAt again node reads
  | none => pure ()

end StaticMulticast.Host.Action

/-!
## Finding programs

A path with a slash is followed; a name without one is looked for in the directories that hold
programs. A script stands for the program that its first line names, which may be a script itself.
-/

namespace StaticMulticast.Host

namespace Files

/-- What stands at the end of a path, if it may be run. The path of an interpreter may be empty, and
then leads to the working directory. -/
def runnable (files : Files) (working : Location) (path : String) : Except Fault Entry :=
  if path.isEmpty then .error .denied
  else do
    match ← files.lookup true working path with
    | .directory _ | .device _ | .link _ => .error .denied
    | .file number =>
        if (files.node? number).any Node.isExecutable then .ok (.file number) else .error .denied
    | .program name => .ok (.program name)

/-- The number of scripts that can stand for a program, one after another. -/
def longestChain : Nat := 5

/-- The program of the system that an entry stands for. The path of a script is the last argument of
its interpreter, before the arguments of the script itself. The name by which the program is called
is given first. -/
def launchEntry (files : Files) (working : Location) :
    Nat → String → String → List String → Entry → Except Fault Launch
  | level, called, path, arguments, entry =>
      match entry with
      | .program name => .ok ⟨name, called, arguments⟩
      | .file number =>
          match (files.node? number).bind fun node => Interpreter.ofOctets? node.octets with
          | none => .error .notExecutable
          | some interpreter => do
              let entry ← files.runnable working interpreter.path
              let encode := Text.Octets.encode
              let arguments :=
                (interpreter.argument.toList.map encode) ++ path :: arguments
              let path := encode interpreter.path
              match level with
              | 0 => .error .tooManyLevels
              | level + 1 => files.launchEntry working level path path arguments entry
      | _ => .error .denied

/-- The program of the system that stands at the end of a path, and is called by a name. The path,
the name and the arguments are octet texts. -/
def launchPath (files : Files) (working : Location) (called path : String)
    (arguments : List String) : Except Fault Launch := do
  let entry ← files.runnable working (Text.Octets.decode path)
  files.launchEntry working longestChain called path arguments entry

/-- The directories in which a program is looked for that is named without a slash. -/
def searched : String := "/usr/local/sbin:/usr/local/bin:/usr/sbin:/usr/bin:/sbin:/bin"

/-- The directories of a search path. An empty part stands for the working directory. -/
def directoriesOf (path : String) : List String :=
  (List.splitOnP (· == ':') path.toList).map String.ofList

/-- After these faults a program is looked for in the next directory. -/
def isPassedOver (fault : Fault) : Bool :=
  [.missing, .throughFile, .denied].contains fault

/-- Looks for a program in directories. If it is in none of them, a fault that was not only its
absence is told. The path at which the search ends is given too. -/
def search (files : Files) (working : Location) (name : String) (arguments : List String) :
    Fault → List String → String × Except Fault Launch
  | fault, [] => (name, .error fault)
  | fault, directory :: rest =>
      let path := if directory.isEmpty then name else directory ++ "/" ++ name
      match files.launchPath working name path arguments with
      | .ok launch => (path, .ok launch)
      | .error other =>
          if isPassedOver other then
            files.search working name arguments (if other = .denied then other else fault) rest
          else (path, .error other)

/-- The program of the system that a path or a name without a slash stands for, with the path at
which it is found. -/
def launch (files : Files) (working : Location) (searchPath name : String)
    (arguments : List String) : String × Except Fault Launch :=
  if name.isEmpty then (name, .error .missing)
  else if name.toList.contains '/' then (name, files.launchPath working name name arguments)
  else files.search working name arguments .missing (directoriesOf searchPath)

end Files

namespace Action

/-- The directories in which the process looks for programs. If none are told, a shell looks in the
working directory, and other programs in the usual ones. -/
def searchPath : Action String := do
  match (← binding? "PATH").bind fun binding => binding.value.text? with
  | some path => pure path
  | none => pure (if (← process).shellNumber = 0 then Files.searched else "")

/-- The program that a path or a name stands for. A file that can be run, but names no interpreter,
is a script for the shell that is given. -/
def findProgram (shell : Option String) (name : String) (arguments : List String) :
    Action (Except Fault Launch) := do
  let (path, found) :=
    (← files).launch (← process).working (← searchPath) name arguments
  match found, shell with
  | .error fault, some shell =>
      if fault = .notExecutable then pure (.ok ⟨shell, shell, path :: arguments⟩)
      else pure found
  | _, _ => pure found

end Action

end StaticMulticast.Host
