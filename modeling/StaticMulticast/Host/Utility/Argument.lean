import StaticMulticast.Host.Utility.Start
import StaticMulticast.Text.Regular

/-!
# Programs that start programs

They lock files, set something, run the parts of a directory, or take arguments from the input.
-/

/-!
## Locks

`flock` locks a file, or one that is open already, and may run a program as long as it does. A lock
belongs to an open file, and is given back when nobody has it open any more.
-/

namespace StaticMulticast.Host.Utility

open Action

/-- The node of an open file. -/
def lockedNode? (file : OpenFile) : Option Nat :=
  match file.stream with
  | .opened (.file node) => some node
  | _ => none

/-- Another open file has a lock on a node that excludes a new one. -/
def isLockedFor (number node : Nat) (isShared : Bool) : Action Bool := do
  let held := (← process).descriptors.map fun descriptor => descriptor.2
  pure ((← world).locks.any fun lock =>
    lock.node = node && lock.file != number && held.contains lock.file &&
      !(isShared && lock.isShared))

/-- Gives a lock back. -/
def unlock (number : Nat) : Action Unit :=
  modifyWorld fun world =>
    { world with locks := world.locks.filter fun lock => lock.file != number }

/-- The descriptor by which a program keeps the lock that it is run under. -/
def lockDescriptor : Nat := 250

/-- The options of `flock`. -/
def lockOptions : List Known :=
  [⟨'s', "shared", .nothing⟩, ⟨'x', "exclusive", .nothing⟩, ⟨'e', "", .nothing⟩,
    ⟨'u', "unlock", .nothing⟩, ⟨'n', "nonblock", .nothing⟩, ⟨'n', "nb", .nothing⟩,
    ⟨'w', "timeout", .text⟩, ⟨'w', "wait", .text⟩, ⟨'E', "conflict-exit-code", .text⟩,
    ⟨'o', "close", .nothing⟩, ⟨'F', "no-fork", .nothing⟩, ⟨'c', "command", .text⟩,
    ⟨Char.ofNat 1, "verbose", .nothing⟩]

/-- Locks an open file, or waits for it, and tells whether it could be locked. -/
def lockFile (again : Runner) (given : Given) (number node : Nat) : Action Bool := do
  let isShared := given.has 's'
  let time := (given.text? 'w').bind duration?
  if ← isLockedFor number node isShared then
    if !given.has 'n' then sleep again (time.getD 1000000000000000)
    pure false
  else do
    modifyWorld fun world =>
      { world with
        locks := ⟨node, number, isShared⟩ :: world.locks.filter fun lock => lock.file != number }
    pure true

/-- Locks a file, and runs a program as long as it is locked. -/
def runFlock (again : Runner) (arguments : List String) : Action Nat := do
  let (own, rest) := arguments.span fun argument => argument.toList.head? = some '-'
  let withText := ["-w", "-E", "--timeout", "--wait", "--conflict-exit-code"]
  let rec leading : List String → List String → List String × List String
    | done, [] => (done, [])
    | done, word :: rest =>
        if word.toList.head? != some '-' then (done, word :: rest)
        else match rest with
          | text :: rest =>
              if withText.contains word then leading (done ++ [word, text]) rest
              else leading (done ++ [word]) (text :: rest)
          | [] => (done ++ [word], [])
  let (options, rest) := if own.isEmpty then ([], rest) else leading [] arguments
  match readOptions lockOptions options, rest with
  | none, _ => refuse 64 (optionFault lockOptions options)
  | some given, target :: words =>
      let conflict := ((given.text? 'E').bind String.toNat?).getD 1
      if words.isEmpty then
        match target.toNat? with
        | none => refuse 64 ("bad file descriptor: " ++ inQuotes target)
        | some descriptor =>
            match ← openFile? descriptor with
            | none => refuse 65 (target ++ ": Bad file descriptor")
            | some (number, file) =>
                if given.has 'u' then do
                  unlock number
                  pure 0
                else match lockedNode? file with
                  | none => pure 0
                  | some node => do
                      pure (if ← lockFile again given number node then 0 else conflict)
      else do
        let isDirectory := (← find? true target).any Found.isDirectory
        match ← openPath target (if isDirectory then .reading else .appending) with
        | .error fault =>
            refuse 66 ("cannot open lock file " ++ target ++ ": " ++ fault.reason)
        | .ok number => do
            let file? := (← world).openFiles[number]?
            let isLocked ← match file?.bind lockedNode? with
              | some node => lockFile again given number node
              | none => pure true
            if !isLocked then pure conflict
            else do
              let shell := (← parameter? "SHELL").getD "/bin/sh"
              let words := match words with
                | ["-c", command] | ["--command", command] => [shell, "-c", command]
                | _ => words
              let before := (← process).descriptors
              if !given.has 'o' then setDescriptor lockDescriptor (some number)
              let status ← runChild again words
              modifyProcess fun process => { process with descriptors := before }
              unlock number
              pure (match status with
                | .code 127 => 69
                | .code 126 => 69
                | _ => statusOf status)
  | some _, [] => refuse 64 "requires file descriptor, file or directory"

end StaticMulticast.Host.Utility

/-!
## Programs that set something for another program

They set a rank, a place to run at or some rights, and then become the program that their further
arguments name. What they set makes no difference to what that program does.
-/

namespace StaticMulticast.Host.Utility

open Action

/-- A program that sets something: its options, how many arguments stand in front of the name of the
other program, and what it says if that name is missing. -/
structure Setter where
  options : List Known
  fronts : Given → List String → Nat
  /-- The options after which no other program is needed. -/
  telling : List Char := []
  missing : String
  /-- It tells how to learn the right use. -/
  isHelpful : Bool := true

/-- The mark of an option that has no letter and makes no difference. -/
def plainMark : Char := Char.ofNat 1

/-- Options that are only known by their names. -/
def namedOptions (plain withText attached : List String) : List Known :=
  plain.map (fun name => ⟨plainMark, name, .nothing⟩) ++
    withText.map (fun name => ⟨plainMark, name, .text⟩) ++
    attached.map fun name => ⟨plainMark, name, .attached⟩

/-- Sets something and becomes another program. -/
def runSetter (setter : Setter) (again : Runner) (arguments : List String) : Action Nat := do
  match readLeading setter.options arguments with
  | none => refuseUse 1 (optionFault setter.options arguments)
  | some given =>
      if setter.telling.any given.has then pure 0
      else
        let words := given.operands.drop (setter.fronts given given.operands)
        if words.isEmpty then
          (if setter.isHelpful then refuseUse else refuse) 1 setter.missing
        else becomeWith (fun name fault =>
          complain ("failed to execute " ++ name ++ ": " ++ fault.reason)) again words

/-- Sets how a program is served by disks, or tells that. -/
def runIonice (again : Runner) (arguments : List String) : Action Nat := do
  let options := [⟨'c', "class", .text⟩, ⟨'n', "classdata", .text⟩, ⟨'p', "pid", .text⟩,
    ⟨'P', "pgid", .text⟩, ⟨'t', "ignore", .nothing⟩, ⟨'u', "uid", .text⟩]
  let given := (readLeading options arguments).getD { }
  let isTold := given.operands.isEmpty && (given.has 'p' || given.options.isEmpty)
  if isTold && (readLeading options arguments).isSome then answer "none: prio 0\n"
  else runSetter ⟨options, fun _ _ => 0, [], "bad usage", true⟩ again arguments

/-- Sets the turn that a program gets. -/
def chrtSetter : Setter where
  options := [⟨'a', "all-tasks", .nothing⟩, ⟨'m', "max", .nothing⟩, ⟨'p', "pid", .nothing⟩,
    ⟨'v', "verbose", .nothing⟩, ⟨'b', "batch", .nothing⟩, ⟨'d', "deadline", .nothing⟩,
    ⟨'f', "fifo", .nothing⟩, ⟨'i', "idle", .nothing⟩, ⟨'o', "other", .nothing⟩,
    ⟨'r', "rr", .nothing⟩, ⟨'R', "reset-on-fork", .nothing⟩, ⟨'T', "sched-runtime", .text⟩,
    ⟨'P', "sched-period", .text⟩, ⟨'D', "sched-deadline", .text⟩]
  fronts _ _ := 1
  telling := ['m', 'p']
  missing := "bad usage"

/-- Sets where a program runs. The first argument is a mask or, as a list, names places. -/
def runTaskset (again : Runner) (arguments : List String) : Action Nat := do
  let options : List Known := [⟨'a', "all-tasks", .nothing⟩, ⟨'p', "pid", .nothing⟩,
    ⟨'c', "cpu-list", .nothing⟩]
  let given := (readLeading options arguments).getD { }
  let isMask (letter : Char) : Bool :=
    letter.isDigit || ('a' ≤ letter.toLower && letter.toLower ≤ 'f') || letter = ','
  let isList (letter : Char) : Bool := letter.isDigit || ",-:".toList.contains letter
  let isGood (text : String) : Bool :=
    let digits := if "0x".toList.isPrefixOf text.toList then text.toList.drop 2 else text.toList
    !digits.isEmpty && digits.all (if given.has 'c' then isList else isMask)
  match given.operands with
  | mask :: _ :: _ =>
      if !given.has 'p' && !isGood mask then
        refuse 1 ("failed to parse CPU " ++ (if given.has 'c' then "list: " else "mask: ") ++ mask)
      else runSetter ⟨options, fun _ _ => 1, ['p'], "bad usage", true⟩ again arguments
  | _ => runSetter ⟨options, fun _ _ => 1, ['p'], "bad usage", true⟩ again arguments

/-- Sets the rights of a program. -/
def setprivSetter : Setter where
  options := ⟨'d', "dump", .nothing⟩ :: namedOptions
    ["nnp", "no-new-privs", "clear-groups", "keep-groups", "init-groups", "reset-env"]
    ["ambient-caps", "inh-caps", "bounding-set", "ruid", "euid", "rgid", "egid", "reuid", "regid",
      "groups", "securebits", "pdeathsig", "selinux-label", "apparmor-profile"] []
  fronts _ _ := 0
  telling := ['d']
  missing := "No program specified"
  isHelpful := false

/-- Sets what a program may use, or tells that. -/
def runPrlimit (again : Runner) (arguments : List String) : Action Nat := do
  let names := ["core", "data", "nice", "fsize", "sigpending", "memlock", "rss", "nofile",
    "msgqueue", "rtprio", "stack", "cpu", "nproc", "as", "locks", "rttime"]
  let letters := "cdefilmnqrstuvxy".toList
  let options : List Known := ([⟨'p', "pid", .text⟩, ⟨'o', "output", .text⟩] ++
    namedOptions ["noheadings", "raw", "verbose"] [] []) ++
    (letters.zip names).map fun (letter, name) => ⟨letter, name, .attached⟩
  let given := (readLeading options arguments).getD { }
  if given.operands.isEmpty && (readLeading options arguments).isSome then pure 0
  else runSetter ⟨options, fun _ _ => 0, ['p'], "bad usage", true⟩ again arguments

/-- Sets how soon a program is given up when there is no room. -/
def choomSetter : Setter where
  options := [⟨'n', "adjust", .text⟩, ⟨'p', "pid", .text⟩]
  fronts _ _ := 0
  telling := ['p']
  missing := "no PID or COMMAND specified"

/-- The machines whose names can be given. -/
def machines : List String :=
  ["linux32", "linux64", "i386", "i486", "i586", "i686", "athlon", "x86_64", "uname26"]

/-- Sets what a program takes the machine for. -/
def runSetarch (again : Runner) (arguments : List String) : Action Nat := do
  let options := knownLetters "BFILRSTXZv3" "" ++
    namedOptions ["32bit", "fdpic-funcptrs", "short-inode", "addr-compat-layout",
      "addr-no-randomize", "whole-seconds", "sticky-timeouts", "read-implies-exec", "mmap-page-zero",
      "3gb", "4gb", "uname-2.6", "list", "verbose"] [] []
  match arguments with
  | [] => refuse 1 "no architecture argument or personality flags specified"
  | first :: rest =>
      let isOption := first.toList.head? = some '-'
      if !isOption && !machines.contains first then
        refuse 1 (first ++ ": Unrecognized architecture")
      else
        let rest := if isOption then arguments else rest
        let shell := (readLeading options rest).any fun given => given.operands.isEmpty
        if shell then becomeWith reportQuoted again ["/bin/sh"]
        else runSetter ⟨options, fun _ _ => 0, [], "bad usage", true⟩ again rest

/-- Sets a world of its own for a program. -/
def unshareSetter : Setter where
  options := knownLetters "mpnuiCUTrfc" "SGRw" ++
    namedOptions ["fork", "map-root-user", "map-current-user", "map-auto", "keep-caps"]
      ["setuid", "setgid", "root", "wd", "setgroups", "propagation"]
      ["mount", "pid", "net", "uts", "ipc", "cgroup", "user", "time", "kill-child", "mount-proc"]
  fronts _ _ := 0
  missing := "bad usage"

/-- Sets the world of another process for a program. -/
def nsenterSetter : Setter where
  options := knownLetters "amuinpCUTFeZ" "tSGrw" ++
    namedOptions ["all", "preserve-credentials", "no-fork", "follow-context", "env"] ["target"]
      ["mount", "uts", "ipc", "net", "pid", "cgroup", "user", "time", "setuid", "setgid", "root",
        "wd"]
  fronts _ _ := 0
  missing := "bad usage"

end StaticMulticast.Host.Utility

/-!
## Running the parts of a directory

`run-parts` runs the programs that stand in a directory, in the order of their names. A name is only
taken if it is made of letters, digits, hyphens and underscores, or if an expression describes it.
-/

namespace StaticMulticast.Host.Utility

open Action
open StaticMulticast.Text (Regular)

namespace Part

/-- The marks of options that have no letter. -/
def mark (number : Nat) : Char := Char.ofNat number

/-- The options of `run-parts`. -/
def options : List Known :=
  [⟨'a', "arg", .text⟩, ⟨'u', "umask", .text⟩, ⟨'v', "verbose", .nothing⟩,
    ⟨'d', "debug", .nothing⟩, ⟨mark 1, "test", .nothing⟩, ⟨mark 2, "list", .nothing⟩,
    ⟨mark 3, "report", .nothing⟩, ⟨mark 4, "exit-on-error", .nothing⟩,
    ⟨mark 5, "reverse", .nothing⟩, ⟨mark 6, "regex", .text⟩, ⟨mark 7, "lsbsysinit", .nothing⟩,
    ⟨mark 8, "new-session", .nothing⟩, ⟨mark 8, "stdin", .nothing⟩,
    ⟨mark 9, "help", .nothing⟩, ⟨mark 9, "version", .nothing⟩]

/-- The name is taken. -/
def isTaken (expression : Option Regular) (name : String) : Bool :=
  match expression with
  | some expression => (Regular.search expression { text := name.toList } 0).isSome
  | none => name.toList.all fun letter => letter.isAlphanum || letter = '-' || letter = '_'

/-- Runs a program, and gives its status. What it writes can be put behind its name. -/
def runOne (again : Runner) (given : Given) (path : String) : Action Nat := do
  let words := path :: given.texts 'a'
  if given.has 'v' then
    complain ("executing " ++ String.intercalate " " words)
  if given.has (mark 3) then
    let _ ← answer (path ++ ":\n")
  match ← startChild again words with
  | .error fault => do
      complain ("failed to exec " ++ path ++ ": " ++ fault.reason)
      pure 1
  | .ok (.code 0) => pure 0
  | .ok (.code status) => do
      complain (path ++ " exited with return code " ++ toString status)
      pure status
  | .ok (.signal signal) => do
      complain (path ++ " exited because of uncaught signal " ++ toString signal)
      pure 1

/-- Runs programs, and gives the status of the last that fails. -/
def runAll (again : Runner) (given : Given) (status : Nat) : List String → Action Nat
  | [] => pure status
  | path :: rest => do
      let own ← runOne again given path
      if own != 0 && given.has (mark 4) then pure own
      else runAll again given (if own = 0 then status else own) rest

end Part

/-- Runs the programs in a directory. -/
def runParts (again : Runner) (arguments : List String) : Action Nat :=
  withOptions 1 Part.options arguments fun given => do
    let expression := (given.text? (Part.mark 6)).bind (Regular.ofText? .extended)
    match given.operands with
    | [directory] =>
        match ← find? true directory with
        | none =>
            refuse 1 ("failed to open directory " ++ directory ++ ": " ++ Fault.missing.reason)
        | some found => do
            if !found.isDirectory then
              refuse 1 ("failed to open directory " ++ directory ++ ": " ++
                Fault.throughFile.reason)
            else
              let names := ((← files).names found.location).map Text.Octets.encode
              let names := Shell.sortTexts (names.filter (Part.isTaken expression))
              let names := if given.has (Part.mark 5) then names.reverse else names
              let paths := names.map (joinPath directory)
              let plain ← paths.filterM fun path => do
                pure ((← find? true path).any Found.isPlain)
              let runnable ← plain.filterM Shell.isRunnable
              if given.has (Part.mark 2) then answer (joinLines plain)
              else if given.has (Part.mark 1) then answer (joinLines runnable)
              else Part.runAll again given 0 runnable
    | _ => refuse 1 "missing operand"

end StaticMulticast.Host.Utility

/-!
## Arguments from the input

`xargs` starts programs with the words of its input behind their arguments: as many as fit, so many
at a time, those of so many lines, or each line in the place of a mark.
-/

namespace StaticMulticast.Host.Utility

open Action

/-! ## Reading words -/

/-- A line of the input: its words. -/
abbrev WordLine := List String

/-- What has been read of the words of lines, all in reverse. -/
structure WordDraft where
  lines : List WordLine := []
  words : List String := []
  /-- The letters of a word that has been begun. -/
  word : Option (List Char) := none

namespace WordDraft

/-- Adds a letter to the word. -/
def add (draft : WordDraft) (letter : Char) : WordDraft :=
  { draft with word := some (letter :: draft.word.getD []) }

/-- Ends the word, if one has been begun. -/
def endWord (draft : WordDraft) : WordDraft :=
  match draft.word with
  | some letters =>
      { draft with words := String.ofList letters.reverse :: draft.words, word := none }
  | none => draft

/-- Ends the line, if it has any words. -/
def endLine (draft : WordDraft) : WordDraft :=
  let draft := draft.endWord
  if draft.words.isEmpty then draft
  else { draft with lines := draft.words.reverse :: draft.lines, words := [] }

/-- The lines that have been read. -/
def result (draft : WordDraft) : List WordLine :=
  draft.endLine.lines.reverse

end WordDraft

/-- Reads lines of words in which quotes and backslashes have a meaning. A line that ends with a
blank goes on with the next one. With `isWhole`, blanks in a line do not end words. What has been
read before a quote that is not closed is given with an error. The bound is on the length. -/
def readWordLines (isWhole : Bool) :
    Nat → WordDraft → List Char → List WordLine × Option String
  | 0, draft, _ => (draft.result, none)
  | _ + 1, draft, [] => (draft.result, none)
  | bound + 1, draft, letter :: rest =>
      let isBlank := letter = ' ' || letter = '\t'
      if letter = '\n' then
        if draft.word.isSome then readWordLines isWhole bound draft.endLine rest
        else readWordLines isWhole bound draft rest
      else if isBlank && (draft.word.isNone || !isWhole) then
        readWordLines isWhole bound draft.endWord rest
      else if letter = '\\' then
        match rest with
        | next :: rest => readWordLines isWhole bound (draft.add next) rest
        | [] => (draft.result, none)
      else if letter = '\'' || letter = '"' then
        let inside := rest.takeWhile fun other => other != letter && other != '\n'
        match rest.drop inside.length with
        | next :: after =>
            if next = letter then
              let begun := { draft with word := some (draft.word.getD []) }
              readWordLines isWhole bound (inside.foldl WordDraft.add begun) after
            else (draft.lines.reverse, some (unmatched letter))
        | [] => (draft.lines.reverse, some (unmatched letter))
      else readWordLines isWhole bound (draft.add letter) rest
where
  /-- The message about a quote that is not closed. -/
  unmatched (letter : Char) : String :=
    "unmatched " ++ (if letter = '"' then "double" else "single") ++
      " quote; by default quotes are special to xargs unless you use the -0 option"

/-- Words up to one that ends the input. -/
def upToEnd (ending : Option String) (lines : List WordLine) : List WordLine :=
  match ending with
  | none => lines
  | some ending =>
      let whole := lines.takeWhile fun line => !line.contains ending
      match (lines.drop whole.length).head? with
      | some line =>
          let front := line.takeWhile (· != ending)
          if front.isEmpty then whole else whole ++ [front]
      | none => whole

/-! ## Commands -/

/-- How words are put together to commands. -/
inductive Grouping where
  /-- As many as fit. -/
  | full
  | words (count : Nat)
  | lines (count : Nat)
  /-- Each in the place of a mark. -/
  | mark (text : String)

/-- Lists of so many members each. The bound is on the number of lists. -/
def groupsOf {Member : Type} (count : Nat) : Nat → List Member → List (List Member)
  | 0, _ => []
  | _ + 1, [] => []
  | bound + 1, members => members.take count :: groupsOf count bound (members.drop count)

/-- The octets that words take as arguments. -/
def roomOf (words : List String) : Nat :=
  (words.map fun word => word.utf8ByteSize + 1).foldl (· + ·) 0

/-- Cuts words into lists that fit behind others. One that does not fit alone ends the lists. -/
def fitting (most own : Nat) : List String → List String → List (List String) × Bool
  | group, [] => (if group.isEmpty then [] else [group.reverse], true)
  | group, word :: rest =>
      if own + roomOf [word] > most then (if group.isEmpty then [] else [group.reverse], false)
      else if own + roomOf (word :: group) > most then
        let (groups, fits) := fitting most own [word] rest
        (group.reverse :: groups, fits)
      else fitting most own (word :: group) rest

/-- The commands that are to run for the lines of the input, and whether all of it fits. -/
def commandsOf (grouping : Grouping) (most : Nat) (isStrict : Bool) (program : List String)
    (lines : List WordLine) : List (List String) × Bool :=
  let words := lines.flatten
  let cut (groups : List (List String)) : List (List String) × Bool :=
    let parts := groups.map fun group => fitting most (roomOf program) [] group
    let tooLong := isStrict && parts.any fun part => 1 < part.1.length
    (((parts.map fun part => part.1).flatten.map fun group => program ++ group),
      !tooLong && parts.all fun part => part.2)
  match grouping with
  | .full => cut [words]
  | .words count => cut (groupsOf count words.length words)
  | .lines count => cut ((groupsOf count lines.length lines).map List.flatten)
  | .mark text =>
      (words.map fun word => match program with
        | name :: arguments =>
            name :: arguments.map fun part => String.intercalate word (part.splitOn text)
        | [] => [], true)

/-- An argument as it is told, in quotes if it has unusual letters. -/
def toldArgument (text : String) : String :=
  let isUsual (letter : Char) : Bool := letter.isAlphanum || "%+,-./:=@_^".toList.contains letter
  if !text.isEmpty && text.toList.all isUsual then text else inQuotes text

/-- Runs commands up to one that could not be started or that wants the others not to run. It is
given the status of those before. -/
def runCommands (again : Runner) (tells : Bool) (before : Nat) : List (List String) → Action Nat
  | [] => pure before
  | words :: rest => do
      if tells then
        let _ ← write 2 (String.intercalate " " (words.map toldArgument) ++ "\n")
      let name := words.headD ""
      match ← startChild again words with
      | .error fault => do
          complain (name ++ ": " ++ fault.reason)
          pure (startStatus fault)
      | .ok (.signal signal) => do
          complain (name ++ ": terminated by signal " ++ toString signal)
          pure 125
      | .ok (.code 255) => do
          complain (name ++ ": exited with status 255; aborting")
          pure 124
      | .ok (.code status) =>
          runCommands again tells (if status = 0 then before else 123) rest

/-! ## The program -/

/-- The options of `xargs`. -/
def argumentOptions : List Known :=
  [⟨'0', "null", .nothing⟩, ⟨'a', "arg-file", .text⟩, ⟨'d', "delimiter", .text⟩, ⟨'E', "", .text⟩,
    ⟨'e', "eof", .attached⟩, ⟨'I', "", .text⟩, ⟨'i', "replace", .attached⟩, ⟨'L', "", .text⟩,
    ⟨'l', "max-lines", .attached⟩, ⟨'n', "max-args", .text⟩, ⟨'P', "max-procs", .text⟩,
    ⟨'p', "interactive", .nothing⟩, ⟨'r', "no-run-if-empty", .nothing⟩, ⟨'s', "max-chars", .text⟩,
    ⟨'t', "verbose", .nothing⟩, ⟨'x', "exit", .nothing⟩, ⟨'o', "open-tty", .nothing⟩]

/-- The number of an option, which must not be zero. -/
def countOf (letter : Char) (text : String) : Except String Nat :=
  match text.toNat? with
  | none => .error ("invalid number \"" ++ text ++ "\" for -" ++ String.singleton letter ++ " option")
  | some 0 => .error ("value 0 for -" ++ String.singleton letter ++ " option should be >= 1")
  | some number => .ok number

/-- How the options want words to be put together. The last one that says something about it counts.
-/
def groupingOf (given : Given) : Except String Grouping :=
  given.options.foldlM (fun grouping (letter, text) => do
    match letter with
    | 'n' => .words <$> countOf 'n' text
    | 'L' => .lines <$> countOf 'L' text
    | 'l' => if text.isEmpty then pure (.lines 1) else .lines <$> countOf 'l' text
    | 'I' => pure (.mark text)
    | 'i' => pure (.mark (if text.isEmpty then "\x7b\x7d" else text))
    | _ => pure grouping) .full

/-- The character that a text for a separator stands for. -/
def separatorOf (text : String) : Char :=
  match text.toList with
  | '\\' :: rest => (Shell.readEscape rest).1.headD '\n'
  | letter :: _ => letter
  | [] => Char.ofNat 0

/-- The octets that arguments can take. -/
def usualRoom : Nat := 131072

/-- Starts programs with the words of the input behind their arguments. -/
def runXargs (again : Runner) (arguments : List String) : Action Nat := do
  match readLeading argumentOptions arguments with
  | none => refuseUse 1 (optionFault argumentOptions arguments)
  | some given =>
      match groupingOf given, (given.text? 's').mapM (countOf 's') with
      | .error message, _ | _, .error message => refuseUse 1 message
      | .ok grouping, .ok most => do
          let path := (given.text? 'a').getD "-"
          match ← readOperand path with
          | .error fault =>
              refuse 1 ("Cannot open input file " ++ inQuotes path ++ ": " ++ fault.reason)
          | .ok text => do
              let separator := if given.has '0' then some (Char.ofNat 0)
                else (given.text? 'd').map separatorOf
              let ending := (given.text? 'E').orElse fun _ =>
                (given.text? 'e').filter fun text => !text.isEmpty
              let isWhole := match grouping with
                | .mark _ => true
                | _ => false
              let (lines, wrong) := match separator with
                | some mark => ((cutLines mark text).1.map fun word => [word], none)
                | none =>
                    let (lines, wrong) := readWordLines isWhole (text.length + 1) { } text.toList
                    (upToEnd ending lines, wrong)
              let program := if given.operands.isEmpty then ["echo"] else given.operands
              let isStrict := given.has 'x'
              let (commands, fits) :=
                commandsOf grouping (most.getD usualRoom) isStrict program lines
              let runsAnyway := lines.isEmpty && !given.has 'r' && !isWhole && wrong.isNone
              let commands := if runsAnyway then [program] else commands
              if given.has 'p' && !commands.isEmpty then
                refuse 1 ("failed to open /dev/tty for reading: " ++ Fault.noDevice.reason)
              else do
                let before := (← process).descriptors
                if path = "-" then
                  let nothing ← addOpenFile { stream := .empty }
                  setDescriptor 0 (some nothing)
                let status ← runCommands again (given.has 't') 0 commands
                modifyProcess fun process => { process with descriptors := before }
                match wrong with
                | some message => refuse 1 message
                | none =>
                    if fits || 124 ≤ status then pure status
                    else refuse 1 "argument line too long"

end StaticMulticast.Host.Utility
