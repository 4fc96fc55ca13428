import StaticMulticast.Host.Account
import StaticMulticast.Host.Environment
import StaticMulticast.Host.Files
import StaticMulticast.Host.Shell.Run
import StaticMulticast.Host.Utility.Table

/-!
# Programs

What a computer does when a program is run from outside: how the program ends, and what it leaves
behind. A computer as it is set up first has the usual programs and directories.
-/

namespace StaticMulticast.Host

/-! ## Carrying out tasks -/

/-- The variables that programs see in the place of the functions of a shell. -/
def Process.functionBindings (process : Process) : List (String × Binding) :=
  process.functions.filterMap fun (name, body) =>
    if process.sharedFunctions.contains name then
      some (Shell.functionVariable name,
        { value := .single (Shell.functionValue body), isExported := true })
    else none

/-- Makes the process one of another program, to which it leaves its place, its descriptors and the
variables that programs can see. -/
def Process.become (process : Process) : Process :=
  { number := process.number
    parent := process.parent
    working := process.working
    descriptors := process.descriptors
    mask := process.mask
    rank := process.rank
    passedOver := process.passedOver
    limits := process.limits
    resources := process.resources
    bindings := process.functionBindings ++ process.bindings.filter fun (_, binding) =>
      match binding.value with
      | .single _ => binding.isExported
      | _ => false }

/-- Runs a program in place of the one that the process has run. -/
def runLaunch (again : Runner) (launch : Launch) : Action Unit := do
  Action.modifyProcess Process.become
  match launch.program with
  | "dash" => Shell.start again .plain launch.called launch.arguments
  | "bash" => Shell.start again .extended launch.called launch.arguments
  | name => do
      Action.modifyProcess fun process => { process with name := launch.called }
      let status ← Utility.run again name launch.arguments
      throw (.exits status)

/-- Carries out a task with the help of what carries out the tasks in it. -/
def step (again : Runner) : Task → Action Unit
  | .command context command => Shell.runCommand again context command
  | .script context line text => do
      Action.modifyProcess fun process => { process with level := process.level + 1 }
      let result ← Action.attempt (Shell.runText again context false line text)
      Action.modifyProcess fun process => { process with level := process.level - 1 }
      match result with
      | .ok _ => pure ()
      | .error jump => throw jump
  | .launch launch => runLaunch again launch

/-- Carries out a task. Tasks can be nested so deep; one that is nested deeper ends its process. -/
def perform : Nat → Runner
  | 0, _ => throw (.killed 11)
  | depth + 1, task => step (perform depth) task

/-- How deep tasks can be nested. -/
def deepest : Nat := 12000

namespace Computer

/-! ## Running a program -/

/-- The variables of the process that runs programs from outside. -/
def ownerBindings : List (String × Binding) :=
  [("PATH", Files.searched), ("HOME", "/root")].map fun (name, text) =>
    (name, { value := .single text, isExported := true })

/-- The session in which a program starts. Nothing comes to it from outside. -/
def session (computer : Computer) : Session where
  world :=
    { files := computer.files
      working := computer.working
      output := computer.output
      messages := computer.messages
      signals := computer.signals
      nextProcess := computer.nextProcess + 1
      clock := computer.clock
      moments := computer.moments + 1
      living := [computer.nextProcess]
      openFiles := #[{ stream := .empty }, { stream := .outside }, { stream := .messages }] }
  process :=
    { number := computer.nextProcess
      parent := ownerNumber
      working := computer.working
      descriptors := [(0, 0), (1, 1), (2, 2)]
      bindings := ownerBindings }

/-- Runs a program, and then what it has left in the background: how the program ends, and the
computer after it. -/
def runToEnd (computer : Computer) (launch : Launch) : ExitStatus × Computer :=
  let runner := perform deepest
  let (result, session) := (runner (.launch launch)).run computer.session
  let (_, later) := (Action.leaveJobs runner 8).run session
  (Action.endOf result session.process, later.world.toComputer)

/-- Runs the program of a path, or of a name without a slash: how it ends, and the computer after
it. -/
def run (computer : Computer) (name : String) : Except Fault (ExitStatus × Computer) :=
  if Files.hasZero name then .error .zeroInCommand
  else
    let name := Text.Octets.encode name
    match computer.files.launch computer.working Files.searched name [] with
    | (_, .error fault) => .error fault
    | (_, .ok launch) => .ok (computer.runToEnd launch)

/-- What can be read through a path. -/
def openFile (computer : Computer) (path : String) : Except Fault (List Read) :=
  (computer.files.openToRead computer.working path).map computer.files.reads

/-- The environment that a computer makes, as long as it does not change. -/
def environment (computer : Computer) : Environment :=
  ⟨computer.openFile, fun name => (computer.run name).map (·.1)⟩

/-- Changes the files. -/
def change (computer : Computer) (action : FileAction) : Computer :=
  { computer with
    files := computer.files.change computer.working computer.now action
    moments := computer.moments + 1 }

/-! ## The first computer -/

/-- The directories of a small computer. Each stands after the one that it is in. -/
def directories : List Location :=
  [[], ["boot"], ["dev"], ["dev", "fd"], ["etc"], ["home"], ["media"], ["mnt"], ["opt"], ["proc"],
    ["proc", "self"], ["proc", "self", "fd"], ["root"], ["run"], ["srv"], ["sys"], ["tmp"], ["tmp",
    "work"], ["usr"], ["usr", "bin"], ["usr", "lib"], ["usr", "local"], ["usr", "local", "bin"],
    ["usr", "local", "sbin"], ["usr", "sbin"], ["usr", "share"], ["var"], ["var", "lib"], ["var",
    "log"], ["var", "tmp"]]

/-- The files of a small computer, with what they hold. -/
def texts : List (Location × String) :=
  [(["etc", "passwd"], accountText (Account.all.map Account.line)),
    (["etc", "group"], accountText (groupNumbers.map groupLine))]

/-- The links of a small computer. -/
def links : List (Location × String) :=
  [(["bin"], "usr/bin"), (["sbin"], "usr/sbin"), (["lib"], "usr/lib"),
    (["usr", "bin", "awk"], "mawk"), (["usr", "bin", "sh"], "dash")]

/-- The devices of a small computer. Those for a descriptor stand in two directories. -/
def devices : List (Location × Device) :=
  [(["dev", "null"], .sink), (["dev", "zero"], .zeros), (["dev", "full"], .full),
    (["dev", "random"], .lots), (["dev", "urandom"], .lots), (["dev", "tty"], .terminal),
    (["dev", "stdin"], .descriptor 0), (["dev", "stdout"], .descriptor 1),
    (["dev", "stderr"], .descriptor 2)] ++
  ((List.range 10 ++ Shell.substitutionDescriptors).flatMap fun number =>
    [(["dev", "fd", toString number], .descriptor number),
      (["proc", "self", "fd", toString number], .descriptor number)])

/-- The nodes of the directories of a small computer. -/
def directoryNodes : List Node :=
  directories.map fun location =>
    { mode := if location.getLast? = some "tmp" then 0x3FF else Node.passable, time := beginning }

/-- The nodes of the files of a small computer. -/
def textNodes : List Node :=
  texts.map fun (_, text) =>
    { octets := text.toUTF8.toList, mode := Node.ordinary, time := beginning }

/-- The first computer, with an empty working directory. -/
def initial : Computer where
  files :=
    { entries :=
        (directories.zipIdx.map fun (location, node) => (location, .directory node)) ++
          (texts.zipIdx.map fun ((location, _), index) =>
            (location, .file (directories.length + index))) ++
          (links.map fun (location, target) => (location, .link target)) ++
          (Utility.names.map fun name => (["usr", "bin", name], .program name)) ++
          (devices.map fun (location, device) => (location, .device device))
      nodes := (directoryNodes ++ textNodes).toArray }
  working := ["tmp", "work"]

end Computer

end StaticMulticast.Host
