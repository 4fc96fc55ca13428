import StaticMulticast.Host.ExitStatus
import StaticMulticast.Host.Files
import StaticMulticast.Host.Shell.Command
import StaticMulticast.Text.Utf8

/-!
# Processes and shells

What a process has, and the options of the shell that it may run.
-/

/-!
## Texts of octets

Programs pass octets around, whatever characters they encode. An octet text has a character for
each octet, the one whose code point is the octet, so that the functions on strings can be used.
-/

namespace StaticMulticast.Text.Octets

/-- The octet text of octets. -/
def ofList (octets : List UInt8) : String :=
  String.ofList (octets.map fun octet => Char.ofNat octet.toNat)

/-- The octets of an octet text. -/
def toList (text : String) : List UInt8 :=
  text.toList.map fun character => UInt8.ofNat character.toNat

/-- The octet text that encodes a text. -/
def encode (text : String) : String :=
  ofList text.toUTF8.toList

/-- The text that an octet text encodes. -/
def decode (text : String) : String :=
  String.ofList (Utf8.decodeLossy (toList text))

end StaticMulticast.Text.Octets

/-!
## Processes

What a process has for itself, and the world that processes share. A process that starts another one
waits for it, so at any time one process runs; those in the background wait until they are asked
for.
-/

namespace StaticMulticast.Host

open Shell (Dialect Command)

/-! ## Values -/

/-- The value of a variable. -/
inductive Value where
  /-- The name is known, but has no value. -/
  | absent
  | single (text : String)
  /-- A list by numbers, in increasing order. -/
  | list (members : List (Nat × String))
  /-- A list by names. -/
  | table (members : List (String × String))
deriving DecidableEq, Repr

/-- The case in which a variable keeps letters. -/
inductive Casing where
  | upper
  | lower
  /-- The first letter is great, and the others are small. -/
  | capital
deriving DecidableEq, Repr

/-- A variable: its value, whether programs that are started can see it, whether it can be changed,
and whether it is a number. -/
structure Binding where
  value : Value
  isExported : Bool := false
  isFixed : Bool := false
  isNumber : Bool := false
  /-- The value is the name of the variable that is meant. -/
  isReference : Bool := false
  casing : Option Casing := none
  /-- Nothing has been put into the list yet. -/
  isBare : Bool := false
  /-- The variable has a mark that has no effect. -/
  isMarked : Bool := false
deriving DecidableEq, Repr

/-! ## Processes -/

/-- The options of a shell that change how commands run. -/
structure Options where
  /-- A command that fails ends the script. -/
  stopsOnFailure : Bool := false
  /-- Commands are read, but not run. -/
  isIdle : Bool := false
  /-- A parameter without a value must not be used. -/
  needsValues : Bool := false
  /-- Patterns of file names are not replaced. -/
  keepsPatterns : Bool := false
  /-- A file that is there is not replaced by output. -/
  keepsFiles : Bool := false
  /-- Variables are exported when they get a value. -/
  exportsAll : Bool := false
  /-- A pipe fails if any command in it fails. -/
  pipeFails : Bool := false
  /-- A pattern of file names that matches nothing stands for nothing. -/
  dropsPatterns : Bool := false
  /-- Functions and copies of the shell keep the trap for failures. -/
  keepsFailureTrap : Bool := false
  /-- Functions and copies of the shell keep the traps for steps and for ends of functions. -/
  keepsStepTrap : Bool := false
  /-- The last command of a pipe runs in the shell itself. -/
  keepsLast : Bool := false
  /-- Every step is told before it is taken. -/
  tracesSteps : Bool := false
  /-- The lines of a script are told when they are read. -/
  showsLines : Bool := false
  /-- The names of other options that are on. -/
  others : List String := []
  /-- The letters that tell how the shell has been started. -/
  startLetters : List Char := []
  /-- Further options that are on, by name. -/
  further : List String := []
deriving DecidableEq, Repr

/-- A time at which a signal is sent to a process, and to those that it has started. -/
structure Limit where
  time : Nat
  signal : Nat
  target : Nat
deriving DecidableEq, Repr

/-- A command that has been started in the background: its number among others, its process and its
text. -/
structure Started where
  place : Nat
  process : Nat
  text : String
deriving DecidableEq, Repr

/-- A program that has been found by its name: its path, how often it has been asked for, and whether
the working directory has changed since. -/
structure KnownProgram where
  name : String
  path : String
  count : Nat := 0
  isOld : Bool := false
deriving DecidableEq, Repr

/-- A call of a function, or the running of the text of a file, from a line of another text. -/
structure Frame where
  name : String
  line : Nat
  /-- The file in which the text stands. -/
  source : String
deriving DecidableEq, Repr

/-- A process. The descriptors lead to open files. What follows the options is only of use to a
shell: how the last command ended, the lines it reads, and the commands around the current one. -/
structure Process where
  number : Nat
  parent : Nat
  working : Location
  /-- The path by which a shell has come to its working directory. -/
  path : Option String := none
  descriptors : List (Nat × Nat)
  mask : Nat := 0x12
  /-- How far the process stands behind others. -/
  rank : Int := 0
  /-- The signals that have no effect. -/
  passedOver : List Nat := []
  limits : List Limit := []
  /-- The limits of resources that have been set: those that hold, and those up to which they can be
  raised. -/
  resources : List (Char × Option Nat × Option Nat) := []
  bindings : List (String × Binding) := []
  name : String := ""
  arguments : List String := []
  dialect : Dialect := .plain
  functions : List (String × Command) := []
  /-- The names of the functions that shells which are started can call. -/
  sharedFunctions : List String := []
  /-- The names of the functions that cannot be changed. -/
  fixedFunctions : List String := []
  /-- The commands of the shell that programs are used for instead. -/
  disabled : List String := []
  /-- The programs that have been found, the last one first. -/
  known : List KnownProgram := []
  /-- Words that stand for texts where a command can begin, the last one first. -/
  aliases : List (String × String) := []
  traps : List (String × String) := []
  options : Options := { }
  status : Nat := 0
  line : Nat := 1
  /-- The process that the script sees as its own. -/
  shellNumber : Nat := 0
  /-- The time at which the shell has started. -/
  start : Nat := 0
  lastJob : Option Nat := none
  /-- The processes that have been started in the background, the last one first. -/
  children : List Nat := []
  /-- What has been started in the background and whose end has not been told, the last one first. -/
  jobs : List Started := []
  /-- What numbers that are drawn by lot grow out of, and the last one. -/
  seed : Nat := 0
  lastLot : Nat := 0
  /-- The text of the last simple command. -/
  command : String := ""
  /-- The command of the shell that runs. -/
  running : Option String := none
  /-- How often the shell has been copied. -/
  copies : Nat := 0
  /-- How deep texts are run in texts. -/
  level : Nat := 1
  /-- The paths of the directories to go back to, the last one first. -/
  places : List String := []
  loops : Nat := 0
  calls : Nat := 0
  /-- The functions that are being called and the files that are being run, the last one first. -/
  frames : List Frame := []
  /-- The file of the script, if it has one. -/
  script : Option String := none
  /-- What stands for the file of a script that has none. -/
  textSource : String := ""
  /-- The files in which functions have been defined. -/
  functionSources : List (String × String) := []
  /-- The texts of files that are being run by the script, one in another. -/
  sourced : Nat := 0
  /-- The options to go back to when the current call ends. -/
  optionsOfCall : Option Options := none
  /-- What local variables have hidden, for each call. -/
  hidden : List (List (String × Option Binding)) := []
  /-- How the command whose output was used last has ended. -/
  outputStatus : Option Nat := none
  pipeStatus : List Nat := []
  /-- How far the options in the current argument have been read. -/
  optionOffset : Nat := 0
  /-- The status from before the trap that is running. -/
  beforeTrap : Option Nat := none
  /-- The trap for failures is running. -/
  inTrap : Bool := false
  /-- A command around the current one asks whether it fails. -/
  isAsked : Bool := false

/-- The file in which the current text stands, and else a text for the script. -/
def Process.sourceOr (process : Process) (text : String) : String :=
  match process.frames with
  | frame :: _ => frame.source
  | [] => process.script.getD text

/-- The file in which the current text stands, or the name of the shell. -/
def Process.source (process : Process) : String :=
  process.sourceOr process.name

/-! ## Open files -/

/-- Where the octets of an open file come from and go to. -/
inductive Stream where
  | opened (opened : Opened)
  /-- What is written is read in the same order. -/
  | pipe (number : Nat)
  /-- What the first process has been given to write to. -/
  | outside
  /-- What the first process has been given for messages. -/
  | messages
  /-- Nothing can be read. -/
  | empty
deriving DecidableEq, Repr

/-- An open file, with the place of the next octet to read or write. -/
structure OpenFile where
  stream : Stream
  offset : Nat := 0
  isReadable : Bool := true
  isWritable : Bool := true
  appends : Bool := false
deriving DecidableEq, Repr

/-! ## The world -/

/-- The number of the process that starts programs from outside. -/
def ownerNumber : Nat := 4194000

/-- What lasts when a program has ended: the files, what it has written to the outside, the signals
for the process that has started it, and the number of the next process. -/
structure Computer where
  files : Files
  working : Location
  output : List UInt8 := []
  messages : List UInt8 := []
  signals : List Nat := []
  nextProcess : Nat := ownerNumber + 1
  /-- The time since the beginning, in millionths of a second. Only those that wait take any. -/
  clock : Nat := 0
  /-- The number of things that have happened, which orders those of one time. -/
  moments : Nat := 0

/-- The time at which a computer begins, in millionths of a second since the year 1970. -/
def Computer.beginning : Int := 1767225600000000

/-- The time, in millionths of a second since the year 1970. -/
def Computer.now (computer : Computer) : Int :=
  Computer.beginning + Int.ofNat (computer.clock + computer.moments)

/-- A command that waits in the background, with the time since which it could run. -/
structure Job where
  process : Process
  command : Command
  start : Nat

/-- A pipe: the octets that can be read from it, of which those that have been written last stand in
parts, the last part first. -/
structure Pipe where
  octets : List UInt8 := []
  parts : List (List UInt8) := []
  /-- The octets that have been read last. -/
  passed : List UInt8 := []
  /-- The number of octets that have been written. -/
  count : Nat := 0
  /-- The number of octets that can be written as long as nobody reads. -/
  room : Option Nat := none
  /-- More octets should have been written than there was room for. -/
  isFull : Bool := false
  /-- The time at which the pipe has been made. -/
  start : Nat := 0

namespace Pipe

/-- The octets that can be read. -/
def held (pipe : Pipe) : List UInt8 :=
  if pipe.parts.isEmpty then pipe.octets else pipe.octets ++ pipe.parts.reverse.flatten

/-- Adds octets. -/
def push (pipe : Pipe) (octets : List UInt8) : Pipe :=
  { pipe with parts := octets :: pipe.parts, count := pipe.count + octets.length }

/-- Takes octets from the front. -/
def pass (pipe : Pipe) (count : Nat) : Pipe :=
  let held := pipe.held
  { pipe with octets := held.drop count, parts := [], passed := held.take count }

/-- Gives back octets that have been read last, so many of them that what is kept are whole blocks.
-/
def giveBack (pipe : Pipe) (block count : Nat) : Pipe :=
  let used := pipe.passed.length - count
  let kept := (used + block - 1) / block * block
  { pipe with
    octets := pipe.passed.drop kept ++ pipe.held
    parts := []
    passed := pipe.passed.take kept }

/-- The number of the octets that there is room for. -/
def fitting (pipe : Pipe) (octets : List UInt8) : Nat :=
  match pipe.room with
  | some room => min octets.length (room - pipe.count)
  | none => octets.length

end Pipe

/-- A lock on the node of a file, which belongs to an open file, and may let others like it be. -/
structure Lock where
  node : Nat
  file : Nat
  isShared : Bool
deriving DecidableEq, Repr

/-- What processes share. -/
structure World extends Computer where
  openFiles : Array OpenFile := #[]
  pipes : Array Pipe := #[]
  locks : List Lock := []
  /-- The queues at which processes wait to read. -/
  waiting : List Nat := []
  /-- The processes that have not ended. -/
  living : List Nat
  /-- Signals that have been sent to processes, but not been taken. -/
  pending : List (Nat × Nat) := []
  jobs : List Job := []
  /-- How processes in the background have ended. -/
  ended : List (Nat × ExitStatus) := []
  /-- No process is of interest any more that waits for a later time. -/
  horizon : Option Nat := none

/-- The world as the process sees it that runs now. -/
structure Session where
  world : World
  process : Process

/-! ## Actions -/

/-- What can end a command before its time. -/
inductive Jump where
  /-- The process ends. -/
  | exits (status : Nat)
  /-- A signal ends the process. -/
  | killed (signal : Nat)
  /-- The command is wrong, which ends a script of the plain language. -/
  | fails (status : Nat)
  /-- The line is given up. -/
  | abandons (status : Nat)
  | returns
  /-- Loops are left, so many of them. -/
  | breaks (loops : Nat)
  /-- The last of so many loops goes on with its next round. -/
  | continues (loops : Nat)
deriving DecidableEq, Repr

/-- What a process does in the world. -/
abbrev Action := ExceptT Jump (StateM Session)

namespace Action

/-- The process that runs. -/
def process : Action Process := do
  pure (← get).process

/-- Changes the process that runs. -/
def modifyProcess (change : Process → Process) : Action Unit :=
  modify fun session => { session with process := change session.process }

/-- The world. -/
def world : Action World := do
  pure (← get).world

/-- Changes the world. -/
def modifyWorld (change : World → World) : Action Unit :=
  modify fun session => { session with world := change session.world }

/-- The files. -/
def files : Action Files := do
  pure (← world).files

/-- Changes the files. -/
def modifyFiles (change : Files → Files) : Action Unit :=
  modifyWorld fun world => { world with files := change world.files }

/-- The time, in millionths of a second since the year 1970. -/
def now : Action Int := do
  pure (← world).now

/-- Changes what a file holds. -/
def modifyOctets (node : Nat) (change : List UInt8 → List UInt8) : Action Unit := do
  let time ← now
  modifyFiles fun files => files.modifyNode node fun held =>
    { held with octets := change held.octets, time }

/-- Sets the status of the last command. -/
def setStatus (status : Nat) : Action Unit :=
  modifyProcess fun process => { process with status }

/-- The language has the extensions. -/
def isExtended : Action Bool := do
  pure ((← process).dialect = .extended)

/-- Does something and finds out how it ends. -/
def attempt {Result : Type} (action : Action Result) : Action (Except Jump Result) :=
  fun session =>
    let (result, session) := action.run session
    (.ok result, session)

end Action

end StaticMulticast.Host

/-!
## The options of a shell

Every option has a name, and most have a letter as well. The two languages know different ones.
Which are on can be told in the order of their names, or by their letters.
-/

namespace StaticMulticast.Host.Options

/-- The options of the plain language, with their letters. -/
def plain : List (String × Option Char) :=
  [("errexit", some 'e'), ("noglob", some 'f'), ("ignoreeof", some 'I'), ("interactive", some 'i'),
    ("monitor", some 'm'), ("noexec", some 'n'), ("stdin", some 's'), ("xtrace", some 'x'),
    ("verbose", some 'v'), ("vi", some 'V'), ("emacs", some 'E'), ("noclobber", some 'C'),
    ("allexport", some 'a'), ("notify", some 'b'), ("nounset", some 'u'), ("privileged", some 'p'),
    ("nolog", none), ("debug", none)]

/-- The options of the extended language, with their letters. -/
def extended : List (String × Option Char) :=
  [("allexport", some 'a'), ("braceexpand", some 'B'), ("emacs", none), ("errexit", some 'e'),
    ("errtrace", some 'E'), ("functrace", some 'T'), ("hashall", some 'h'),
    ("histexpand", some 'H'), ("history", none), ("ignoreeof", none), ("interactive-comments", none),
    ("keyword", some 'k'), ("monitor", some 'm'), ("noclobber", some 'C'), ("noexec", some 'n'),
    ("noglob", some 'f'), ("nolog", none), ("notify", some 'b'), ("nounset", some 'u'),
    ("onecmd", some 't'), ("physical", some 'P'), ("pipefail", none), ("posix", none),
    ("privileged", some 'p'), ("verbose", some 'v'), ("vi", none), ("xtrace", some 'x')]

/-- The options of a language, with their letters. -/
def all (isExtended : Bool) : List (String × Option Char) :=
  if isExtended then extended else plain

/-- The letters of the extended language in the order in which they are told. The last ones belong to
the way in which the shell has been started. -/
def letterOrder : List Char := "abefhkmnptuvxBCEHPTcs".toList

/-- An option is on. -/
def isOn (options : Options) (name : String) : Bool :=
  match name with
  | "errexit" => options.stopsOnFailure
  | "noexec" => options.isIdle
  | "nounset" => options.needsValues
  | "noglob" => options.keepsPatterns
  | "noclobber" => options.keepsFiles
  | "allexport" => options.exportsAll
  | "errtrace" => options.keepsFailureTrap
  | "functrace" => options.keepsStepTrap
  | "pipefail" => options.pipeFails
  | "xtrace" => options.tracesSteps
  | "verbose" => options.showsLines
  | name => options.others.contains name

/-- Turns an option on or off. Of the two ways to edit lines only one can be on. -/
def turn (options : Options) (value : Bool) (name : String) : Options :=
  match name with
  | "errexit" => { options with stopsOnFailure := value }
  | "noexec" => { options with isIdle := value }
  | "nounset" => { options with needsValues := value }
  | "noglob" => { options with keepsPatterns := value }
  | "noclobber" => { options with keepsFiles := value }
  | "allexport" => { options with exportsAll := value }
  | "errtrace" => { options with keepsFailureTrap := value }
  | "functrace" => { options with keepsStepTrap := value }
  | "pipefail" => { options with pipeFails := value }
  | "xtrace" => { options with tracesSteps := value }
  | "verbose" => { options with showsLines := value }
  | name =>
      let isRival (other : String) : Bool :=
        value && ["vi", "emacs"].contains name && ["vi", "emacs"].contains other
      let others := options.others.filter fun other => other != name && !isRival other
      { options with others := if value then name :: others else others }

/-- Turns an option on or off that is given by name. -/
def setName (options : Options) (isExtended value : Bool) (name : String) : Option Options :=
  if (all isExtended).any fun row => row.1 = name then some (options.turn value name) else none

/-- Turns an option on or off that is given by letter. -/
def setLetter (options : Options) (isExtended value : Bool) (letter : Char) : Option Options :=
  ((all isExtended).find? fun row => row.2 = some letter).map fun row => options.turn value row.1

/-- The letters of the options that are on. The plain language tells the last one first. -/
def letters (options : Options) (isExtended : Bool) : String :=
  let on := (all isExtended).filterMap fun row => if options.isOn row.1 then row.2 else none
  String.ofList (if isExtended then
      letterOrder.filter fun letter => on.contains letter || options.startLetters.contains letter
    else on.reverse)

/-- The names of the options that are on, in order. -/
def namesOn (options : Options) (isExtended : Bool) : List String :=
  ((all isExtended).map fun row => row.1).filter options.isOn

/-! ## Further options -/

/-- The further options of the extended language. -/
def furtherNames : List String :=
  ["autocd", "assoc_expand_once", "cdable_vars", "cdspell", "checkhash", "checkjobs",
    "checkwinsize", "cmdhist", "compat31", "compat32", "compat40", "compat41", "compat42",
    "compat43", "compat44", "complete_fullquote", "direxpand", "dirspell", "dotglob", "execfail",
    "expand_aliases", "extdebug", "extglob", "extquote", "failglob", "force_fignore",
    "globasciiranges", "globskipdots", "globstar", "gnu_errfmt", "histappend", "histreedit",
    "histverify", "hostcomplete", "huponexit", "inherit_errexit", "interactive_comments",
    "lastpipe", "lithist", "localvar_inherit", "localvar_unset", "login_shell", "mailwarn",
    "no_empty_cmd_completion", "nocaseglob", "nocasematch", "noexpand_translation", "nullglob",
    "patsub_replacement", "progcomp", "progcomp_alias", "promptvars", "restricted_shell",
    "shift_verbose", "sourcepath", "varredir_close", "xpg_echo"]

/-- The further options that are on from the beginning. -/
def usualFurther : List String :=
  ["checkwinsize", "cmdhist", "complete_fullquote", "extquote", "force_fignore", "globasciiranges",
    "globskipdots", "hostcomplete", "interactive_comments", "patsub_replacement", "progcomp",
    "promptvars", "sourcepath"]

/-- The names of the further options that are on, in order. -/
def furtherOn (options : Options) : List String :=
  furtherNames.filter options.further.contains

/-- Turns a further option on or off. -/
def turnFurther (options : Options) (value : Bool) (name : String) : Options :=
  let others := options.further.filter (· != name)
  { options with
    dropsPatterns := if name = "nullglob" then value else options.dropsPatterns
    keepsLast := if name = "lastpipe" then value else options.keepsLast
    further := if value then name :: others else others }

/-- The options that are on when a shell of a language begins. -/
def usual (isExtended : Bool) : Options :=
  if isExtended then
    { others := ["braceexpand", "hashall", "interactive-comments"], further := usualFurther }
  else { }

end StaticMulticast.Host.Options
