import StaticMulticast.Host.Shell.Builtin.Condition
import StaticMulticast.Host.Shell.Simple

/-!
# The shell

How commands run, and the shell as a program.
-/

/-!
## Running commands

A command runs in a process, which it changes, and leaves a status. A part of a pipe, a command in
parentheses and a command in the background run in a copy of the process. A script is run line by
line, as it is read.
-/

namespace StaticMulticast.Host.Shell

open Action

/-! ## The end of a command -/

/-- Runs the trap for a command that has failed, and gives up the script if that is wanted. A
failure does not count where a command around it asks for it. -/
def afterCommand (again : Runner) (context : Context) : Action Unit := do
  let process ← process
  if process.dialect = .extended then
    modifyProcess fun process => { process with pipeStatus := [process.status] }
  if process.status != 0 && !context.isAsked then do
    match process.traps.lookup "ERR" with
    | some action =>
        if !process.inTrap then do
          modifyProcess fun process => { process with inTrap := true }
          runTrapAction again false true process.status action
          modifyProcess fun process => { process with inTrap := false }
    | none => pure ()
    if (← Action.process).options.stopsOnFailure then throw (.exits process.status)

/-! ## Loops -/

/-- A bound on the rounds of a loop. -/
def mostRounds : Nat := 100000

/-- Whether a loop goes on after a round that has ended in this way. -/
def goesOn : Except Jump Unit → Action Bool
  | .ok _ => pure true
  | .error (.continues loops) => if loops ≤ 1 then pure true else throw (.continues (loops - 1))
  | .error (.breaks loops) => if loops ≤ 1 then pure false else throw (.breaks (loops - 1))
  | .error jump => throw jump

/-- Runs the body of a loop in a round, and tells whether the loop goes on. -/
def runRound (again : Runner) (context : Context) (body : Command) : Action Bool := do
  goesOn (← attempt (again (.command { context with isLast := false } body)))

/-- The time that a round takes, by the number of rounds that may still follow. Only rounds of a loop
that has gone on for long are taken to need any. -/
def roundTime (left : Nat) : Nat :=
  if mostRounds - 5000 < left then 0
  else if mostRounds - 20000 < left then 1000
  else if mostRounds - 50000 < left then 10000
  else 100000

/-- Runs rounds as long as they ask for another one. A round is given the status of the loop so far.
A loop that goes on too long goes on for ever. -/
def runRounds (again : Runner) (round : Nat → Action (Bool × Nat)) : Nat → Nat → Action Nat
  | 0, status => do
      waitForever again
      pure status
  | bound + 1, status => do
      let (goesOn, status) ← round status
      if goesOn then do
        if roundTime bound != 0 then sleep again (roundTime bound)
        runRounds again round bound status
      else pure status

/-- Runs a loop, which leaves a status. -/
def runLoop (loop : Action Nat) : Action Unit := do
  let loops := (← process).loops
  modifyProcess fun process => { process with loops := loops + 1 }
  let result ← attempt loop
  modifyProcess fun process => { process with loops }
  match result with
  | .ok status => setStatus status
  | .error jump => throw jump

/-- A round of a loop with a condition. -/
def conditionRound (again : Runner) (context : Context) (isNegated : Bool)
    (condition body : Command) (status : Nat) : Action (Bool × Nat) := do
  match ← attempt (again (.command { isAsked := true } condition)) with
  | .ok _ =>
      if ((← process).status = 0) = isNegated then pure (false, status)
      else do
        let goesOn ← runRound again context body
        pure (goesOn, (← process).status)
  | result => do
      let goesOn ← goesOn result
      pure (goesOn, (← process).status)

/-- Runs a loop with a head for each of the texts. -/
def runEach (again : Runner) (context : Context) (head name : String) (body : Command)
    (status : Nat) : List String → Action Nat
  | [] => pure status
  | text :: rest => do
      beforeStep again
      traceHere again head
      if !(← tryChange (setLoopText name text)) then pure 1
      else if ← runRound again context body then
        runEach again context head name body (← process).status rest
      else pure (← process).status
where
  /-- Gives the variable of a loop a text. A reference then stands for the variable of that name. -/
  setLoopText (name text : String) : Action Unit := do
    match ← ownBinding? name with
    | some binding =>
        if binding.isReference then
          setOwnBinding name (some { binding with value := .single text })
        else setText name text
    | none => setText name text

/-- The result of a calculation in a loop. One that stands for nothing is true. -/
def loopResult (again : Runner) (expression : List Piece) : Action (Option Int) := do
  let text ← Expansion.textOf again expression
  if text.toList.all Calculation.isBlank then pure (some 1)
  else do
    let shown := String.ofList (text.toList.dropWhile Calculation.isBlank)
    traceHere again ("(( " ++ shown ++ " ))")
    Expansion.tried (asCommand "((" (Expansion.calculateWithin again text))

/-- A round of a loop with calculations. -/
def countedRound (again : Runner) (context : Context) (test step : List Piece) (body : Command)
    (status : Nat) : Action (Bool × Nat) := do
  match ← loopResult again test with
  | none => pure (false, 1)
  | some value =>
      if value = 0 then pure (false, status)
      else do
        let goesOn ← runRound again context body
        let status := (← process).status
        if goesOn then do
          match ← loopResult again step with
          | some _ => pure (true, status)
          | none => pure (false, 1)
        else pure (false, status)

/-! ## Menus -/

/-- The lines in which words are offered, each with its number. -/
def menuLines (texts : List String) : String :=
  let width := (toString texts.length).length
  String.join (texts.mapIdx fun index text =>
    let number := toString (index + 1)
    String.ofList (List.replicate (width - number.length) ' ') ++ number ++ ") " ++ text ++ "\n")

/-- A round of a loop in which words are offered. A line with the number of a word chooses it, and an
empty line wants the words to be offered again. -/
def menuRound (again : Runner) (context : Context) (name : String) (texts : List String)
    (body : Command) (_status : Nat) : Action (Bool × Nat) := do
  if texts.isEmpty then pure (false, 0)
  else do
    if (← parameter "REPLY").isEmpty then
      let _ ← write 2 (menuLines texts)
    let _ ← write 2 ((← parameter? "PS3").getD "#? ")
    let octets ← match ← readLine 0 0xA with
      | .ok octets => pure octets
      | .error _ => pure []
    if octets.isEmpty then do
      let _ ← answer "\n"
      pure (false, 1)
    else do
      let line := if octets.getLast? = some 0xA then octets.dropLast else octets
      let reply := Text.Octets.ofList line
      setText "REPLY" reply
      if reply.isEmpty then pure (true, 0)
      else do
        let chosen := match (number? true reply).map Int.toNat with
          | some (index + 1) => texts[index]?.getD ""
          | _ => ""
        setText name chosen
        let goesOn ← runRound again context body
        pure (goesOn, (← process).status)

/-! ## Commands beside the script -/

/-- Starts a command that runs beside the script, and keeps the descriptors to write to it and to read
from it. -/
def startPartner (name text : String) (body : Command) : Action Unit := do
  let (reading, itsWriting) ← makePipe
  let (itsReading, writing) ← makePipe
  let before := (← process).descriptors
  setDescriptor 0 (some itsReading)
  setDescriptor 1 (some itsWriting)
  let number ← addJob (some ("coproc " ++ name ++ " " ++ text)) true body
  modifyProcess fun process => { process with descriptors := before }
  setDescriptor 63 (some reading)
  setDescriptor 60 (some writing)
  setValue name (.list [(0, "63"), (1, "60")])
  setText (name ++ "_PID") (toString number)
  setStatus 0

/-! ## Time -/

/-- Seconds with so many digits behind the point, for a number of millionths. -/
def secondsText (digits millionths : Nat) : String :=
  Text.Fraction.fixed digits (millionths / 1000000)

/-- A time in minutes and seconds. -/
def minutesText (digits millionths : Nat) : String :=
  toString (millionths / 60000000) ++ "m" ++ secondsText digits (millionths % 60000000) ++ "s"

/-- What a format says about a time. The bound is on its length. -/
def timeText (time : Nat) : Nat → List Char → List Char
  | 0, _ => []
  | bound + 1, text =>
      match text with
      | '%' :: '%' :: rest => '%' :: timeText time bound rest
      | '%' :: rest =>
          let (digits, rest) := rest.span Char.isDigit
          let (isLong, rest) := match rest with
            | 'l' :: rest => (true, rest)
            | rest => (false, rest)
          let count := min ((String.ofList digits).toNat?.getD 3) 6
          match rest with
          | letter :: rest =>
              let time := if letter = 'R' then time else 0
              let shown := if letter = 'P' then "0.00"
                else if isLong then minutesText count time
                else secondsText count time
              shown.toList ++ timeText time bound rest
          | [] => []
      | letter :: rest => letter :: timeText time bound rest
      | [] => []

/-- Tells how long a command has taken. -/
def tellTime (isPlain : Bool) (time : Nat) : Action Unit := do
  let format := (← parameter? "TIMEFORMAT").getD
    "\nreal\t%3lR\nuser\t%3lU\nsys\t%3lS"
  let format := if isPlain then "real %2R\nuser %2U\nsys %2S" else format
  if !format.isEmpty then
    let text := timeText time (format.length + 1) format.toList
    let _ ← write 2 (String.ofList text ++ "\n")

/-! ## Selections -/

/-- A pattern of an arm describes the text. -/
def armMatches (again : Runner) (text : String) : List Word → Action Bool
  | [] => pure false
  | pattern :: rest => do
      let letters ← Expansion.patternOf again pattern
      let pattern ← Expansion.patternWith letters
      let holds := if ← hasOption "nocasematch" then Text.Pattern.holdsFolded
        else Text.Pattern.holds
      if holds pattern text.toList then pure true
      else armMatches again text rest

/-- Runs a command, or sets the status to that of success if there is nothing to run. -/
def runOrSucceed (again : Runner) (context : Context) : Command → Action Unit
  | .sequence [] => setStatus 0
  | command => again (.command context command)

/-- Runs the arms for a text. It is given whether one has run before, and whether the next is to run
in any case, since the one before it falls through. -/
def runArms (again : Runner) (context : Context) (text : String) (hasRun falls : Bool) :
    List Arm → Action Unit
  | [] => if hasRun then pure () else setStatus 0
  | .mk _ patterns body ending :: rest => do
      let isChosen ← if falls then pure true else armMatches again text patterns
      if isChosen then do
        match ending with
        | .leave => runOrSucceed again context body
        | _ => do
            runOrSucceed again { context with isLast := false } body
            runArms again context text true (ending = .fall) rest
      else runArms again context text hasRun false rest

/-! ## Pipes -/

/-- The numbers of octets that a part of a pipe may write before the next part begins to read, one
after the other. -/
def pipeRooms : List Nat := [0x10000, 0x20000, 0x80000, 0x400000, 0x1000000]

/-- Runs a part of a pipe, and then those that read what it writes. A part that writes too much is
ended as if nobody reads it any more. If all that it has written is read, and nobody has stopped those
who read it, it should have gone on: then all of them run again from the beginning, with more room.
-/
def runPart (again : Runner) (part : Nat → Action ExitStatus) (later : Nat → Action (List Nat)) :
    List Nat → Action (List Nat)
  | [] => do
      waitForever again
      pure []
  | room :: rooms => do
      let before ← get
      let number := before.world.pipes.size
      let (reading, writing) ← makePipe
      modifyWorld fun world =>
        { world with pipes := world.pipes.modify number fun pipe => { pipe with room := some room } }
      let status ← part writing
      let statuses ← later reading
      let pipes := (← world).pipes
      let isShort := (pipes[number]?).any fun pipe => pipe.isFull && pipe.held.isEmpty
      let isCut := (pipes.toList.drop (number + 1)).any fun pipe => pipe.isFull
      if isShort && !isCut then do
        set before
        runPart again part later rooms
      else pure (statusOf status :: statuses)

/-- Runs the commands of a pipe one after the other, each with what the one before has written, and
gives their statuses. -/
def runPipe (again : Runner) (context : Context) (input : Option Nat) :
    List Command → Action (List Nat)
  | [] => pure []
  | [command] => do
      let process ← process
      if process.options.keepsLast && process.dialect = .extended then do
        let before := process.descriptors
        input.forM fun input => setDescriptor 0 (some input)
        let result ← attempt (again (.command { context with isLast := false } command))
        modifyProcess fun process => { process with descriptors := before }
        match result with
        | .ok _ => pure [(← Action.process).status]
        | .error jump => throw jump
      else do
        let status ← inSubshell again do
          input.forM fun input => setDescriptor 0 (some input)
          again (.command { context with isLast := true } command)
        pure [statusOf status]
  | command :: rest =>
      let part (writing : Nat) : Action ExitStatus := inSubshell again do
        input.forM fun input => setDescriptor 0 (some input)
        setDescriptor 1 (some writing)
        again (.command { context with isLast := true } command)
      runPart again part (fun reading => runPipe again context (some reading) rest) pipeRooms

/-- The status of a pipe: that of its last command or, if failures count, of the last that fails. -/
def pipeStatus (fails : Bool) (statuses : List Nat) : Nat :=
  let last := statuses.getLast?.getD 0
  if fails then ((statuses.reverse.find? (· != 0)).getD 0) else last

/-! ## Commands -/

/-- Runs the commands of a sequence. Only the last can be the last of the process. -/
def runSequence (again : Runner) (context : Context) : List Command → Action Unit
  | [] => pure ()
  | [command] => again (.command context command)
  | command :: rest => do
      again (.command { context with isLast := false } command)
      runSequence again context rest

/-- Runs the rest of a chain, of which each command runs only after the success or the failure of
what was before it. -/
def runChain (again : Runner) (context : Context) : List (Bool × Command) → Action Unit
  | [] => pure ()
  | (wantsSuccess, command) :: rest => do
      if ((← process).status = 0) = wantsSuccess then
        again (.command (if rest.isEmpty then context else { isAsked := true }) command)
      runChain again context rest

/-- Runs a command that is not only read. -/
def runActive (again : Runner) (context : Context) : Command → Action Unit
  | .simple origin assignments words redirections => do
      runSimple again context origin assignments words redirections
      takeSignals again
      afterCommand again context
  | .redirected _ body redirections => do
      let made ← withRedirected again redirections false
        (again (.command { context with isLast := false } body))
      if !made then do
        setStatus (if ← isExtended then 1 else 2)
        afterCommand again context
  | .subshell body => do
      let status ← inSubshell again (again (.command { context with isLast := true } body))
      setStatus (statusOf status)
      afterCommand again context
  | .group body => runActive again context body
  | .negation body => do
      again (.command { isAsked := true } body)
      setStatus (if (← process).status = 0 then 1 else 0)
  | .pipe parts => do
      let statuses ← runPipe again context none parts
      setStatus (pipeStatus (← process).options.pipeFails statuses)
      takeSignals again
      afterCommand again context
      modifyProcess fun process => { process with pipeStatus := statuses }
  | .chain first rest => do
      again (.command { isAsked := true } first)
      runChain again context rest
  | .sequence parts => runSequence again context parts
  | .background text body => do
      let _ ← addJob (some text) false body
      setStatus 0
  | .partner name text body => startPartner name text body
  | .timed isPlain body => do
      let start := (← world).clock
      again (.command { context with isLast := false } body)
      tellTime isPlain ((← world).clock - start)
  | .menu origin name words body => do
      traceHere again origin.text
      let texts ← match words with
        | none => pure (← process).arguments
        | some words => List.flatten <$> words.mapM (Expansion.wordsOf again)
      setText "REPLY" ""
      runLoop (runRounds again (menuRound again context name texts body) mostRounds 0)
  | .choice condition consequence alternative => do
      again (.command { isAsked := true } condition)
      let isChosen := (← process).status = 0
      runOrSucceed again context (if isChosen then consequence else alternative)
  | .loop isNegated condition body =>
      runLoop (runRounds again (conditionRound again context isNegated condition body) mostRounds 0)
  | .each origin name words body => do
    if !isName name.toList then do
      complain (name ++ ": not a valid identifier")
      setStatus 1
    else do
      let texts ← match words with
        | none => pure (← process).arguments
        | some words => List.flatten <$> words.mapM (Expansion.wordsOf again)
      runLoop (runEach again context origin.text name body 0 texts)
  | .counted _ start test step body => do
      match ← loopResult again start with
      | none => setStatus 1
      | some _ =>
          let round := countedRound again context test step body
          runLoop (runRounds again round mostRounds 0)
  | .selection origin word arms => do
      beforeStep again
      traceHere again origin.text
      let text ← Expansion.textOf again word
      runArms again context text false false arms
  | .definition name body => do
    if (← process).fixedFunctions.contains name then do
      complain (name ++ ": readonly function")
      setStatus 1
    else do
      modifyProcess fun process =>
        { process with
          status := 0
          functionSources := (name, process.sourceOr process.textSource) ::
            process.functionSources.filter fun other => other.1 != name
          functions :=
            (name, body) :: process.functions.filter fun function => function.1 != name }
  | .calculation _ expression => do
      beforeStep again
      let text ← Expansion.textOf again expression
      traceHere again ("(( " ++ text ++ " ))")
      let result ← Expansion.tried (asCommand "((" (Expansion.calculateWithin again text))
      setStatus (statusOfResult result)
      afterCommand again context
  | .condition _ words => do
      beforeStep again
      setStatus (← runCondition again words)
      afterCommand again context

/-- Runs a command, unless commands are only read. -/
def runCommand (again : Runner) (context : Context) (command : Command) : Action Unit := do
  if !(← process).options.isIdle then runActive again context command

/-! ## Scripts -/

/-- The words that stand for texts while a line is read. The extended language only looks for them if
that is wanted. -/
def usedAliases : Action (List (String × String)) := do
  let process ← process
  let isUsed := process.dialect = .plain || process.options.further.contains "expand_aliases" ||
    process.options.isOn "posix"
  pure (if isUsed then process.aliases else [])

/-- Tells the text that has been read, if lines are to be told. The texts that commands of the plain
language run are not told. -/
def tellLines (isWhole : Bool) (before after : List Char) : Action Unit := do
  let { options, dialect, sourced, .. } ← process
  if options.showsLines && (isWhole || dialect = .extended || 0 < sourced) then do
    let text := String.ofList (before.take (before.length - after.length))
    let needsEnd := dialect = .extended && text.toList.getLast?.any (· != '\n')
    let _ ← write 2 (if needsEnd then text ++ "\n" else text)

/-- The text is no script from here on. -/
def refuseText : Action Unit := do
  complain "Syntax error"
  if ← isExtended then setStatus 2 else throw (.fails 2)

/-- Runs the lines of a text. A line that is given up does not end the text of a whole script, nor, in
the extended language, any text that is not run in a copy of the shell. A text without commands is a
success. The bounds are on the steps of reading a line and on the number of lines. -/
def runLines (again : Runner) (context : Context) (isWhole isFirst : Bool) (steps : Nat) :
    Nat → Source → Action Unit
  | 0, _ => pure ()
  | bound + 1, source => do
      let process ← process
      let aliases ← usedAliases
      let hasChoices ← hasOption "extglob"
      let before := source.rest
      match (readNext process.dialect steps).run { source with aliases, hasChoices } with
      | none => do
          tellLines isWhole before []
          refuseText
      | some (none, _) => do
          tellLines isWhole before []
          if isFirst then setStatus 0
      | some (some commands, source) => do
          tellLines isWhole before source.rest
          let isEnd := source.rest.all fun character =>
            character = '\n' || character = ' ' || character = '\t'
          let context := if isEnd then context else { context with isLast := false }
          if isWhole || (process.dialect = .extended && process.copies = 0) then do
            match ← attempt (runSequence again context commands) with
            | .error (.abandons status) => setStatus status
            | .error jump => throw jump
            | .ok _ => pure ()
          else runSequence again context commands
          let process ← Action.process
          if isWhole && process.options.isOn "onecmd" then throw (.exits process.status)
          runLines again context isWhole false steps bound source

/-- Runs a text as commands. It is told on which line the text stands. -/
def runText (again : Runner) (context : Context) (isWhole : Bool) (line : Nat) (text : String) :
    Action Unit :=
  let letters := text.toList
  runLines again context isWhole true (readingBound letters) (letters.length + 1)
    { rest := letters, line }

end StaticMulticast.Host.Shell

/-!
## The shell as a program

A shell runs the script that its arguments name, the text that stands among them, or what it reads
from its input. The arguments after that are those of the script.
-/

namespace StaticMulticast.Host.Shell

open Action

/-- Takes over the functions of another shell from the variables in which it has left them. The plain
language only knows variables with names. -/
def takeFunctions : Action Unit := do
  let { bindings, dialect, .. } ← process
  if dialect = .plain then
    modifyProcess fun process =>
      { process with bindings := bindings.filter fun binding => isName binding.1.toList }
  else
    bindings.forM fun (variableName, binding) => do
      let name := String.ofList ((variableName.toList.drop 10).dropLast.dropLast)
      let text := name ++ " " ++ binding.value.text?.getD ""
      if variableName = functionVariable name then
        match (readNext dialect (readingBound text.toList)).run { rest := text.toList } with
        | some (some [.definition name body], _) =>
            modifyProcess fun process =>
              { process with
                functions := (name, body) :: process.functions
                sharedFunctions := name :: process.sharedFunctions
                bindings := process.bindings.filter fun other => other.1 != variableName }
        | _ => pure ()

/-- The variables that a shell has from the beginning. It is told by what name it has been called. -/
def setInitialVariables (called : String) : Action Unit := do
  let process ← process
  let own (name text : String) (isExported : Bool) : Action Unit :=
    setBinding name (some { value := .single text, isExported })
  own "IFS" " \t\n" false
  own "OPTIND" "1" false
  own "PPID" (toString process.parent) false
  let told ← parameter "PWD"
  let isTold := told.toList.head? = some '/' &&
    (← find? true told).any fun found => found.location = process.working
  let path := if isTold then told else Text.Octets.encode (Files.pathOf process.working)
  modifyProcess fun process => { process with path }
  own "PWD" path true
  if process.dialect = .extended then do
    let level := (((← parameter? "SHLVL").bind String.toNat?).getD 0) + 1
    own "SHLVL" (toString level) true
    own "OSTYPE" "linux-gnu" false
    own "HOSTTYPE" "x86_64" false
    own "MACHTYPE" "x86_64-pc-linux-gnu" false
    own "HOSTNAME" "localhost" false
    own "PS4" "+ " false
    own "_" ((← parameter? "_").getD called) false
    if (← parameter? "POSIXLY_CORRECT").isSome then
      modifyProcess fun process => { process with options := process.options.turn true "posix" }
  else do
    own "PS1" "# " false
    own "PS2" "> " false
    own "PS4" "+ " false

/-- Ends the shell, since it does not know what it has been asked for. -/
def noRequest (isExtended : Bool) (called : String) (refusal : Options.Refusal) : Action Unit := do
  let front := called ++ (if isExtended then ": " else ": 0: Illegal option ")
  match refusal with
  | .letter letter => do
      complainBriefly (front ++ "-" ++ String.singleton letter ++
        (if isExtended then ": invalid option" else ""))
      if isExtended then tellInvocation called
  | .word text => do
      complainBriefly (front ++ text ++ ": invalid option")
      tellInvocation called
  | .name name =>
      complainBriefly (if isExtended then
          front ++ "line 0: " ++ called ++ ": " ++ name ++ ": invalid option name"
        else front ++ "-o " ++ name)
  throw (.exits 2)
where
  /-- Tells how the shell of the extended language is called. -/
  tellInvocation (called : String) : Action Unit := do
    complainBriefly ("Usage:\t" ++ called ++ " [GNU long option] [option] ...\n\t" ++ called ++
      " [GNU long option] [option] script-file ...\nGNU long options:")
    ["debug", "debugger", "dump-po-strings", "dump-strings", "help", "init-file", "login",
        "noediting", "noprofile", "norc", "posix", "pretty-print", "rcfile", "restricted",
        "verbose", "version"].forM fun word => complainBriefly ("\t--" ++ word)
    complainBriefly
      "Shell options:\n\t-ilrsD or -c command or -O shopt_option\t\t(invocation only)"
    complainBriefly "\t-abefhkmnptuvxBCEHPT or -o option"

/-- Ends the shell, since it has no script to run. -/
def noScript (status : Nat) (message : String) : Action Unit := do
  complainBriefly message
  throw (.exits status)

/-- Runs the script at the end of a path. -/
def runFile (again : Runner) (called path : String) : Action Unit := do
  let extended ← isExtended
  match ← readPath path with
  | .ok octets =>
      if extended && isNoScript true octets then
        noScript 126 (path ++ ": " ++ path ++ ": cannot execute binary file")
      else runText again { } true 1 (scriptText octets)
  | .error fault =>
      if extended then
        if fault = .directory then noScript 126 (path ++ ": " ++ path ++ ": Is a directory")
        else noScript 127 (called ++ ": " ++ path ++ ": " ++ fault.reason)
      else if fault = .directory then pure ()
      else noScript 2 (called ++ ": 0: cannot open " ++ path ++ ": " ++
        plainReason "No such file" fault)

/-- Runs what the options of a shell ask for. -/
def runRequest (again : Runner) (called : String) (request : Options.Request) : Action Unit := do
  let become (name : String) (arguments : List String) : Action Unit :=
    modifyProcess fun process => { process with name, arguments }
  let isTyped := !request.isCommand && (request.isInput || request.rest.isEmpty)
  let extended ← isExtended
  let options := { request.options with
    startLetters := if request.isCommand then ['c'] else if isTyped then ['s'] else [] }
  modifyProcess fun process =>
    { process with options := if isTyped && !extended then options.turn true "stdin" else options }
  if request.isCommand then
    match request.rest with
    | [] =>
        noScript 2 (called ++ (if extended then ": -c: option requires an argument"
          else ": 0: -c requires an argument"))
    | text :: rest => do
        become (rest.headD called) rest.tail
        modifyProcess fun process => { process with textSource := "environment" }
        runText again { isLast := true } false 1 text
  else if isTyped then do
    become called request.rest
    modifyProcess fun process => { process with textSource := "main" }
    match ← readAll 0 with
    | .ok octets => runText again { } true 1 (scriptText octets)
    | .error _ => pure ()
  else do
    let script := request.rest.headD ""
    become script request.rest.tail
    modifyProcess fun process => { process with script := some script }
    runFile again called script

/-- Runs a shell. -/
def start (again : Runner) (dialect : Dialect) (called : String) (arguments : List String) :
    Action Unit := do
  let clock := (← world).clock
  modifyProcess fun process =>
    { process with dialect, shellNumber := process.number, start := clock, running := none }
  takeFunctions
  setInitialVariables called
  let isExtended := dialect = .extended
  match (Options.usual isExtended).read isExtended arguments with
  | .error refusal => noRequest isExtended called refusal
  | .ok request => finishShell again (← attempt (runRequest again called request))

end StaticMulticast.Host.Shell
