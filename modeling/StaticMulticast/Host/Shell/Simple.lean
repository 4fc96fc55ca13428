import StaticMulticast.Host.Shell.Builtin.Control
import StaticMulticast.Host.Shell.Builtin.Check
import StaticMulticast.Host.Shell.Builtin.Known
import StaticMulticast.Host.Shell.Builtin.Signal
import StaticMulticast.Host.Shell.Builtin.Option
import StaticMulticast.Host.Shell.Builtin.Directory
import StaticMulticast.Host.Shell.Builtin.Text
import StaticMulticast.Host.Shell.Redirect

/-!
# Simple commands

A simple command is a list of words, with assignments in front of them and redirections among them.
The first word says what runs: a function, a command of the shell, or a program. Without words, only
the assignments are made.
-/

namespace StaticMulticast.Host.Shell

open Action

/-! ## The commands of the shell itself -/

/-- Tells from where the function that runs, or one of those around it, has been called. -/
def runCaller (arguments : List String) : Action Nat := do
  let { frames, script, .. } ← process
  let around := frames.tail.map (fun frame => (frame.name, frame.source)) ++
    (script.map fun script => ("main", script)).toList
  match arguments with
  | [] =>
      let line := (frames.head?.map Frame.line).getD 0
      let source := if frames.isEmpty then none else around.head?.map (·.2)
      answer (toString line ++ " " ++ source.getD "NULL" ++ "\n")
  | argument :: _ =>
      match argument.toNat? with
      | none => do
          protest (argument ++ ": invalid number")
          pure 2
      | some depth =>
          match frames[depth]?, around[depth]? with
          | some frame, some (name, source) =>
              answer (toString frame.line ++ " " ++ name ++ " " ++ source ++ "\n")
          | _, _ => pure 1

/-- Writes the times that processes have used. -/
def runTimes (arguments : List String) : Action Nat := do
  let time := if ← isExtended then "0m0.000s" else "0m0.000000s"
  let times := time ++ " " ++ time ++ "\n"
  match ← isExtended, (leadingOptions arguments).1 with
  | true, letter :: _ => refuseOption "times" ("-" ++ String.singleton letter)
  | _, _ => answer (times ++ times)

/-- Runs a command of the shell that is not about other commands. -/
def runOwn (again : Runner) (context : Context) (name : String) (arguments : List String) :
    Action Nat := do
  let checking : Checking := if ← isExtended then .extended else .plain
  let arguments ← if checking = .extended && ["[", "test", "printf", "unset", "read"].contains name
    then withPlaces again (name = "unset" || name = "read") arguments
    else pure arguments
  match name with
  | "false" => pure 1
  | "[" | "test" => runCheck checking name arguments
  | "echo" => runEcho arguments
  | "printf" => runPrintf arguments
  | "exit" => runExit arguments
  | "return" => runReturn arguments
  | "break" => runLoopJump .breaks arguments
  | "continue" => runLoopJump .continues arguments
  | "eval" => runEval again context arguments
  | "." | "source" => runSource again context arguments
  | "cd" | "chdir" => runCd arguments
  | "pwd" => runPwd arguments
  | "umask" => runUmask arguments
  | "export" => runExport arguments
  | "readonly" => runReadonly arguments
  | "local" => runLocal again arguments
  | "declare" | "typeset" => runDeclare again name arguments
  | "unset" => runUnset arguments
  | "set" => runSet arguments
  | "shopt" => runShopt arguments
  | "shift" => runShift arguments
  | "let" => runLet again arguments
  | "getopts" => runGetopts arguments
  | "read" => runRead again arguments
  | "mapfile" | "readarray" => runMapfile again arguments
  | "kill" => runKill again arguments
  | "trap" => runTrap arguments
  | "wait" => runWait again arguments
  | "type" => runType arguments
  | "hash" => runHash arguments
  | "enable" => runEnable arguments
  | "compgen" => runCompgen again arguments
  | "help" => runHelp arguments
  | "ulimit" => runUlimit arguments
  | "times" => runTimes arguments
  | "jobs" => runListJobs arguments
  | "alias" => runAlias arguments
  | "unalias" => runUnalias arguments
  | "fg" | "bg" => runResume
  | "pushd" => runPush arguments
  | "popd" => runPop arguments
  | "caller" => runCaller arguments
  | "disown" => runDisown arguments
  | "dirs" => runPlaces arguments
  | "logout" | "suspend" => pure 1
  | _ => pure 0

/-! ## Words of a command -/

/-- The commands whose arguments can be assignments. -/
def declaringCommands : List String :=
  ["export", "readonly", "local", "declare", "typeset"]

/-- The words of a command. Assignments after a command that declares variables are not cut. -/
def commandWords (again : Runner) : List Word → Action (List String)
  | [] => pure []
  | first :: rest => do
      let declares := (plainText? first).any fun name =>
        declaringCommands.contains (String.ofList name)
      let words ← (first :: rest).mapM fun word => do
        if declares && (assignment? true word).isSome then
          let (name, value) := word.span fun piece => !Expansion.isEqualsSign piece
          let front ← Expansion.textOf again name
          let rest ← Expansion.valueText again (value.drop 1)
          pure [front ++ "=" ++ rest]
        else Expansion.wordsOf again word
      pure words.flatten

/-! ## Programs -/

/-- The status of a program that cannot be started. -/
def refusal (isExtended : Bool) (fault : Fault) : Nat :=
  let absent : List Fault := if isExtended then [.missing]
    else [.missing, .throughFile, .nameTooLong, .tooManyLevels]
  if absent.contains fault then 127 else 126

/-- The shell that runs a script which names no interpreter. -/
def shellProgram (isExtended : Bool) : String :=
  if isExtended then "bash" else "dash"

/-- The file at the end of a path is a directory. -/
def isDirectoryAt (path : String) : Action Bool := do
  pure ((← find? true path).any Found.isDirectory)

/-- The path of a script whose first line names no program, if there is nothing in it that no script has.
-/
def isScript (path : String) : Action Bool := do
  let extended ← isExtended
  match ← readPath path with
  | .ok octets => pure (!isNoScript extended octets || [0x23, 0x21].isPrefixOf octets)
  | .error _ => pure true

/-- A path as it is told when the shell should have been replaced. -/
def wholePath (path : String) : Action String := do
  let working ← parameter "PWD"
  let rest := if "./".isPrefixOf path then String.ofList (path.toList.drop 2) else path
  pure (if path.toList.head? = some '/' then path else working ++ "/" ++ rest)

/-- Tells why a program at the end of a path cannot be started. -/
def refuseProgram (replaces : Bool) (path : String) (fault : Fault) : Action Unit := do
  if !(← isExtended) then complain (path ++ ": " ++ plainReason "not found" fault)
  else do
    let shown ← if replaces then wholePath path else pure path
    let isThere := (← find? true path).isSome
    let isPlain := (← find? true path).any Found.isPlain
    let fault := if ← isDirectoryAt path then .directory else fault
    if fault = .missing && isThere then
      complain (shown ++ ": cannot execute: required file not found")
    else if fault = .notExecutable then
      complain (shown ++ ": cannot execute binary file: " ++ fault.reason)
    else if fault = .denied && (← isRunnable path) && isPlain then do
      let interpreter := match ← readPath path with
        | .ok octets => ((Interpreter.ofOctets? octets).map Interpreter.path).getD ""
        | .error _ => ""
      complainBriefly ((← process).name ++ ": " ++ shown ++ ": " ++ interpreter ++
        ": bad interpreter: " ++ fault.reason)
    else do
      complain (shown ++ ": " ++ fault.reason)
      if replaces && (fault = .denied || fault = .directory) then
        complain ("exec: " ++ shown ++ ": cannot execute: " ++ fault.reason)

/-- A program is in none of the directories where it is looked for. Its status is told. -/
def refuseAbsent (replaces : Bool) (name : String) : Action Nat := do
  let extended ← isExtended
  let isFile (path : String) : Action Bool := do
    pure ((← find? true path).any Found.isPlain)
  match (← (← programPaths name).findM? isFile), extended with
  | some path, true => do
      refuseProgram replaces path .denied
      pure 126
  | some _, false => do
      complain (name ++ ": " ++ Fault.denied.reason)
      pure 127
  | none, _ => do
      if replaces then protest (name ++ ": not found")
      else complain (name ++ (if extended then ": command not found" else ": not found"))
      pure (if extended && replaces && (← isDirectoryAt name) then 126 else 127)

/-- Becomes a program, or tells the status if it cannot be started. It is given whether the program
is to replace the shell, whether it is given no variables, and by what other name it is called. A
program that replaces the shell of a script in the plain language is not looked for before it is
started. -/
def becomeProgram (again : Runner) (replaces isBare : Bool) (called : Option String)
    (name : String) (arguments : List String) : Action Nat := do
  let extended ← isExtended
  let looks := extended || !replaces
  let path? ← programPath? name
  if looks && !name.toList.contains '/' && path?.isNone then refuseAbsent replaces name
  else match ← findProgram (some (shellProgram extended)) name arguments with
  | .ok launch => do
      let path := path?.getD name
      let isOwn := launch.program = shellProgram extended && launch.arguments.head? = some path
      if isOwn && !(← isScript path) then do
        refuseProgram replaces path .notExecutable
        pure 126
      else do
        if isBare then modifyProcess fun process => { process with bindings := [] }
        else if extended then
          setBinding "_" (some { value := .single path, isExported := true })
        again (.launch { launch with called := called.getD launch.called })
        pure 0
  | .error fault => do
      refuseProgram replaces name fault
      pure (refusal extended fault)

/-- Runs a program in a process of its own, unless the process has nothing to do after it. -/
def runProgram (again : Runner) (context : Context) (name : String) (arguments : List String) :
    Action Unit := do
  if !name.toList.contains '/' then
    (← programPath? name).forM fun path => noteProgram name path 1
  if context.isLast && (← process).traps.isEmpty then do
    setStatus (← becomeProgram again false false none name arguments)
  else do
    let status ← inChild do setStatus (← becomeProgram again false false none name arguments)
    setStatus (statusOf status)
    takeSignals again

/-! ## Functions -/

/-- Runs the trap for the end of a function, if the function has come to its end. -/
def afterCall (again : Runner) (result : Except Jump Unit) : Action Unit := do
  let process ← process
  let hasEnded := match result with
    | .ok _ | .error .returns => true
    | .error _ => false
  match process.traps.lookup "RETURN" with
  | some action =>
      if hasEnded && !process.inTrap then do
        modifyProcess fun process => { process with inTrap := true }
        runTrapAction again false true process.status action
        modifyProcess fun process => { process with inTrap := false }
  | none => pure ()

/-- The number of calls in calls that the plain language allows. -/
def mostCalls : Nat := 1000

/-- Refuses another call, if there are too many already. The extended language has a variable for the
greatest number. -/
def limitCalls (name : String) : Action Unit := do
  let { calls, .. } ← process
  if ← isExtended then do
    match (← parameter "FUNCNEST").toNat? with
    | some (most + 1) =>
        if most + 1 ≤ calls then
          giveUp (name ++ ": maximum function nesting level exceeded (" ++ toString (most + 1) ++ ")")
    | _ => pure ()
  else if mostCalls ≤ calls then
    giveUp ("Maximum function recursion depth (" ++ toString mostCalls ++ ") reached")

/-- Calls a function. It has arguments and loops of its own, and only keeps traps for commands if
options want that. -/
def callFunction (again : Runner) (context : Context) (name : String) (body : Command)
    (arguments : List String) : Action Unit := do
  limitCalls name
  let caller ← process
  let isHeld (trap : String × String) : Bool :=
    (trap.1 = "ERR" && !caller.options.keepsFailureTrap) ||
      ((trap.1 = "DEBUG" || trap.1 = "RETURN") && !caller.options.keepsStepTrap)
  modifyProcess fun process =>
    { process with
      arguments
      loops := 0
      calls := process.calls + 1
      frames := ⟨name, process.line, (process.functionSources.lookup name).getD process.source⟩ ::
        process.frames
      traps := process.traps.filter fun trap => !isHeld trap
      optionsOfCall := none
      hidden := [] :: process.hidden }
  let result ← attempt (again (.command { context with isLast := false } body))
  afterCall again result
  reveal
  modifyProcess fun process =>
    let isThere (trap : String × String) : Bool :=
      process.traps.any fun other => other.1 = trap.1
    let held := caller.traps.filter fun trap => isHeld trap && !isThere trap
    { process with
      arguments := caller.arguments
      loops := caller.loops
      calls := caller.calls
      frames := caller.frames
      traps := process.traps ++ held
      options := match process.optionsOfCall with
        | some options => { options with further := process.options.further }
        | none => process.options
      optionsOfCall := caller.optionsOfCall
      optionOffset := caller.optionOffset }
  match result with
  | .ok _ | .error .returns => pure ()
  | .error jump => throw jump

/-! ## Commands by name -/

/-- Runs a command of the shell, and lets the script go on if the command is used in a wrong way. -/
def runForgiving (command : Action Nat) : Action Nat := do
  match ← attempt command with
  | .ok status => pure status
  | .error (.fails status) => pure status
  | .error jump => throw jump

/-- The options of `command`: whether a name is to be described, and how, and the words after them.
-/
def commandOptions (letters : List Char) :
    List String → Except Char (List Char × List String)
  | [] => .ok (letters, [])
  | argument :: rest =>
      match argument.toList with
      | ['-', '-'] => .ok (letters, rest)
      | '-' :: first :: others =>
          match (first :: others).find? fun letter => !(['v', 'V', 'p'].contains letter) with
          | none => commandOptions (letters ++ first :: others) rest
          | some letter => .error letter
      | _ => .ok (letters, argument :: rest)

/-- Arguments without two minus signs in front of them. -/
def withoutDashes (arguments : List String) : List String :=
  if arguments.head? = some "--" then arguments.tail else arguments

/-- How the shell becomes another program: whether without variables, by what name the program is
called, and its words. -/
structure Becoming where
  isBare : Bool := false
  /-- The program is told by a minus sign in front of its name that a session begins. -/
  isLogin : Bool := false
  called : Option String := none
  words : List String := []

/-- Reads how the shell is to become another program, in the extended language. -/
def becoming (result : Becoming) : List String → Except Char Becoming
  | [] => .ok result
  | word :: rest =>
      match word.toList with
      | ['-', '-'] => .ok { result with words := rest }
      | '-' :: letter :: letters =>
          let (flags, others) := (letter :: letters).span fun letter => letter = 'c' || letter = 'l'
          let result := { result with
            isBare := result.isBare || flags.contains 'c'
            isLogin := result.isLogin || flags.contains 'l' }
          match others, rest with
          | [], rest => becoming result rest
          | ['a'], name :: rest => becoming { result with called := some name } rest
          | 'a' :: first :: name, rest =>
              becoming { result with called := some (String.ofList (first :: name)) } rest
          | other :: _, _ => .error other
      | _ => .ok { result with words := word :: rest }

mutual

/-- Runs a command of the shell. The bound is on how often commands name other ones. -/
def runBuiltin (again : Runner) (context : Context) : Nat → String → List String → Action Nat
  | 0, _, _ => pure 1
  | bound + 1, name, arguments => do
      match name with
      | "command" => do
          match commandOptions [] arguments with
          | .error letter => asCommand name (refuseOption name ("-" ++ String.singleton letter))
          | .ok (_, []) => pure 0
          | .ok (letters, target :: rest) =>
              if letters.contains 'v' || letters.contains 'V' then do
                let names := if ← isExtended then target :: rest else [target]
                asCommand name (describeAll (letters.contains 'V') names)
              else runWithoutFunctions again context bound target rest
      | "builtin" => do
          match withoutDashes arguments with
          | [] => pure 0
          | target :: rest => do
              if ← isShellCommand target then runBuiltin again context bound target rest
              else if target.toList.head? = some '-' then
                asCommand name (refuseOption name (String.ofList (target.toList.take 2)))
              else asCommand name (misuse (target ++ ": not a shell builtin"))
      | "exec" => do
          let extended ← isExtended
          let request := if extended then becoming { } arguments
            else .ok { words := withoutDashes arguments }
          match request with
          | .error letter => asCommand name (refuseOption name ("-" ++ String.singleton letter))
          | .ok { words := [], .. } => pure 0
          | .ok { isBare, isLogin, called, words := target :: rest } => do
              let before := (← process).bindings
              let called := if isLogin then some ("-" ++ called.getD target) else called
              let status ← asCommand name
                (becomeProgram again true isBare called target rest)
              if extended && (← hasOption "execfail") then do
                modifyProcess fun process => { process with bindings := before }
                pure status
              else throw (.exits status)
      | _ => asCommand name (runOwn again context name arguments)

/-- Runs a command of the shell or a program, whatever functions there are. -/
def runWithoutFunctions (again : Runner) (context : Context) :
    Nat → String → List String → Action Nat
  | 0, _, _ => pure 1
  | bound + 1, name, arguments => do
      if (← isShellCommand name) then
        runForgiving (runBuiltin again context bound name arguments)
      else do
        runProgram again { context with isLast := false } name arguments
        pure (← process).status

end

/-- Tells the steps of a simple command. The plain language tells assignments and words together. -/
structure Teller where
  assignment : String → Action Unit
  words : List String → List String → Action Unit

/-- What tells the steps of a simple command, where messages went before its redirections. -/
def teller (again : Runner) (descriptors : List (Nat × Nat)) : Action Teller := do
  let tell := trace again descriptors
  if !(← process).options.tracesSteps then pure ⟨fun _ => pure (), fun _ _ => pure ()⟩
  else if ← isExtended then
    pure ⟨tell, fun _ words => do
      if !words.isEmpty then tell (String.intercalate " " (words.map shownWord))
      if ["export", "readonly"].contains (words.headD "") then
        words.tail.forM fun word => do
          let (name, value, adds) := nameAndValue word
          value.forM fun value => tell (assignmentText true name adds value)⟩
  else pure ⟨fun _ => pure (), fun texts words => tell (String.intercalate " " (texts ++ words))⟩

/-- Runs a simple command of words. -/
def runWords (again : Runner) (context : Context) (teller : Teller)
    (assignments : List Assignment) (name : String) (arguments : List String) : Action Unit := do
  let extended ← isExtended
  let bound := arguments.length + 4
  let tell (texts : List String) : Action Unit := teller.words texts (name :: arguments)
  let around {Result : Type} (body : Action Result) : Action Result :=
    withAssignments again teller.assignment assignments fun texts => do
      tell texts
      body
  match ← meaning name with
  | .special =>
      if extended && !(← process).options.isOn "posix" then
        if name = "exec" then do
          tell (← assignments.mapM (assign again teller.assignment))
          setStatus (← runBuiltin again context bound name arguments)
        else do setStatus (← around (runBuiltin again context bound name arguments))
      else do
        let texts ← assignments.mapM fun assignment => do
          let text ← assign again teller.assignment assignment
          if name = "exec" && !arguments.isEmpty && !extended then
            modifyBinding assignment.name fun binding => { binding with isExported := true }
          pure text
        tell texts
        setStatus (← runBuiltin again context bound name arguments)
  | .regular => do
      setStatus (← runForgiving (around (runBuiltin again context bound name arguments)))
  | .function body => around (callFunction again context name body arguments)
  | .program => around (runProgram again context name arguments)

/-- Lets a command run with redirections, after which the descriptors lead to where they did before,
unless it is to keep them. It is told whether all redirections could be made. -/
def withRedirected (again : Runner) (redirections : List Redirection) (keeps : Bool)
    (body : Action Unit) : Action Bool := do
  if redirections.isEmpty then do
    body
    pure true
  else do
    let before := (← process).descriptors
    let lasts := redirections.any Redirection.isLasting && !(← hasOption "varredir_close")
    let isKept (descriptor : Nat × Nat) : Bool := lasts && 10 ≤ descriptor.1
    let restore : Action Unit := modifyProcess fun process =>
      { process with
        descriptors := process.descriptors.filter isKept ++
          before.filter fun descriptor => !isKept descriptor }
    match ← attempt (redirectAll again redirections) with
    | .error jump => do
        restore
        throw jump
    | .ok false => do
        restore
        pure false
    | .ok true => do
        let result ← attempt body
        if !keeps then restore
        match result with
        | .ok _ => pure true
        | .error jump => throw jump

/-- The command makes the redirections of the shell itself. -/
def keepsRedirections (words : List String) : Bool :=
  match words with
  | ["exec"] | ["exec", "--"] | ["command", "exec"] => true
  | _ => false

/-- Closes the descriptors for commands that have been opened since. -/
def closeSubstitutions (before : Process) : Action Unit :=
  modifyProcess fun process =>
    { process with
      descriptors := process.descriptors.filter fun descriptor =>
        !substitutionDescriptors.contains descriptor.1 ||
          (before.descriptors.lookup descriptor.1).isSome }

/-- Runs the trap for steps. -/
def beforeStep (again : Runner) : Action Unit := do
  let process ← process
  match process.traps.lookup "DEBUG" with
  | some action =>
      if !process.inTrap then do
        modifyProcess fun process => { process with inTrap := true }
        runTrapAction again false true process.status action
        modifyProcess fun process => { process with inTrap := false }
  | none => pure ()

/-- Notes the line and the text of a command that is about to run, and runs the trap for steps. -/
def beforeCommand (again : Runner) (origin : Origin) : Action Unit := do
  modifyProcess fun process =>
    if process.inTrap then { process with line := origin.line }
    else { process with line := origin.line, command := origin.text }
  beforeStep again

/-- Runs a simple command. -/
def runSimple (again : Runner) (context : Context) (origin : Origin)
    (assignments : List Assignment) (words : List Word) (redirections : List Redirection) :
    Action Unit := do
  beforeCommand again origin
  let before ← process
  modifyProcess fun process =>
    { process with
      outputStatus := none
      isAsked := context.isAsked
      running := if process.dialect = .extended then none else process.running }
  let isKeyed := before.options.isOn "keyword"
  let assignments := assignments ++
    if isKeyed then words.filterMap (assignment? true) else []
  let words ← commandWords again
    (if isKeyed then words.filter fun word => (assignment? true word).isNone else words)
  let teller ← teller again before.descriptors
  let isEarly := assignments.isEmpty && (← isExtended)
  if isEarly then teller.words [] words
  let teller := if isEarly then { teller with words := fun _ _ => pure () } else teller
  let result ← attempt (withRedirected again redirections (keepsRedirections words) do
    match words with
    | [] => do
        let texts ← assignments.mapM (assign again teller.assignment)
        teller.words texts []
        setStatus ((← process).outputStatus.getD 0)
    | name :: arguments => runWords again context teller assignments name arguments)
  let extended ← isExtended
  modifyProcess fun process => { process with running := before.running }
  if extended then setText "_" (words.getLast?.getD "")
  match result with
  | .error jump => throw jump
  | .ok made => do
      closeSubstitutions before
      if !made then do
        setStatus (if extended then 1 else 2)
        if !extended && (words.head?).any specialCommands.contains then throw (.fails 2)

end StaticMulticast.Host.Shell
