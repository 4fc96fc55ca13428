import StaticMulticast.Host.Shell.Builtin.Variable
import StaticMulticast.Text.Decimal

/-!
# Commands about other processes

Those about signals, and those about jobs.
-/

/-!
## Commands about signals

A signal is given by its number or by its name in either case of letters. `kill` sends one, and
`trap` says what is done when one comes.
-/

namespace StaticMulticast.Host.Shell

open Action

/-! ## Signals -/

/-- The signals without a name of their own, named by their distance from the first or the last of
them. -/
def distantSignals : List (Nat × String) :=
  [(34, "RTMIN")] ++
    ((List.range 15).map fun distance =>
      (35 + distance, "RTMIN+" ++ toString (distance + 1))) ++
    ((List.range 14).map fun distance =>
      (63 - distance, "RTMAX-" ++ toString (distance + 1))) ++
    [(64, "RTMAX")]

/-- The signals that can be given by name. The plain language has no name for signal 16. -/
def knownSignals (isExtended : Bool) : List (Nat × String) :=
  signalNames.filter (fun signal => isExtended || signal.1 != 16) ++ distantSignals

/-- A name of a signal without the letters that may stand in front of it. -/
def withoutSig (isExtended : Bool) (name : String) : String :=
  match name.toList with
  | 'S' :: 'I' :: 'G' :: rest => if isExtended then String.ofList rest else name
  | _ => name

/-- The signal that an argument gives. The number zero stands for no signal at all. -/
def signal? (isExtended : Bool) (argument : String) : Option Nat :=
  let upper := withoutSig isExtended (String.ofList (argument.toList.map Char.toUpper))
  match (Text.Decimal.digits? argument.toList).filter (· ≤ lastSignal) with
  | some number => some number
  | none =>
      if upper = "EXIT" && !isExtended then some 0
      else ((knownSignals isExtended).find? fun signal => signal.2 = upper).map (·.1)

/-- The signal that is sent if none is given. -/
def usualSignal : Nat := 15

/-- What `kill` is asked to do: the signal to send and the processes to send it to. -/
def readKill (isExtended : Bool) : List String → Option (Nat × List String)
  | [] => none
  | "--" :: processes => some (usualSignal, processes)
  | "-s" :: signal :: processes =>
      (signal? isExtended signal).map fun number => (number, processes)
  | "-n" :: signal :: processes =>
      if isExtended then (signal? isExtended signal).map fun number => (number, processes)
      else none
  | argument :: processes =>
      match argument.toList with
      | '-' :: 's' :: letter :: letters =>
          match signal? isExtended (String.ofList ('s' :: letter :: letters)) with
          | some number => some (number, processes)
          | none =>
              (signal? isExtended (String.ofList (letter :: letters))).map fun number =>
                (number, processes)
      | '-' :: letters =>
          if letters.isEmpty then some (usualSignal, argument :: processes)
          else (signal? isExtended (String.ofList letters)).map fun number => (number, processes)
      | _ => some (usualSignal, argument :: processes)

/-- The greatest number of a process that an argument can be. -/
def greatestProcess : Nat := 0x7FFFFFFF

/-- The job that a text behind a percent sign gives: by its number, by the beginning of its text, or
by a part of that behind a question mark. A mark stands for the last one, or for the one before. -/
def jobOf? (jobs : List Started) (text : List Char) : Option Started :=
  let isWithin (part text : List Char) : Bool :=
    (List.range (text.length + 1)).any fun start => part.isPrefixOf (text.drop start)
  match text with
  | [] | ['%'] | ['+'] => jobs.head?
  | ['-'] => jobs[1]?
  | '?' :: part => jobs.find? fun job => isWithin part job.text.toList
  | _ =>
      match Text.Decimal.digits? text with
      | some number => jobs.find? fun job => job.place = number
      | none => jobs.find? fun job => text.isPrefixOf job.text.toList

/-- The process that an argument gives: by its number, or by that of a job. A minus sign stands in
front of a group of processes. -/
def processOf? (argument : String) : Action (Option Int) := do
  let jobs := (← process).jobs
  match argument.toList with
  | '%' :: rest => pure ((jobOf? jobs rest).map fun job => Int.ofNat job.process)
  | _ =>
      let text := Text.Decimal.withoutBlanks argument.toList
      match text with
      | '-' :: digits => pure ((Text.Decimal.digits? digits).map fun number => -Int.ofNat number)
      | _ => pure ((Text.Decimal.unsigned? greatestProcess text).map Int.ofNat)

/-- Sends a signal to processes. In the plain language, jobs are no groups of processes. -/
def sendAll (again : Runner) (signal : Nat) : Nat → List String → Action Nat
  | status, [] => pure status
  | status, argument :: rest => do
      match ← processOf? argument with
      | none => do
          if ← isExtended then do
            protest (argument ++ (if argument.toList.head? = some '%' then ": no such job"
              else ": arguments must be process or job IDs"))
            sendAll again signal 1 rest
          else do
            protest ("Illegal number: " ++ argument)
            pure 2
      | some number => do
          let extended ← isExtended
          let isJob := argument.toList.head? = some '%' && !extended
          let sent ← if number < 0 || isJob then pure false else send number.toNat signal
          if !sent then
            protest (if extended then "(" ++ toString number ++ ") - No such process"
              else "No such process\n")
          takeSignals again
          sendAll again signal (if sent then status else 1) rest

/-- The names of all signals in columns, with their numbers. -/
def signalTable : String :=
  let rows := knownSignals true
  let cell (row : Nat × String) : String :=
    (if row.1 < 10 then " " else "") ++ toString row.1 ++ ") SIG" ++ row.2
  let sorted := (List.range 65).filterMap fun number => rows.find? fun row => row.1 = number
  String.join (sorted.mapIdx fun index row =>
    cell row ++ (if index % 5 = 4 || index + 1 = sorted.length then "\n" else "\t"))

/-- Writes the names of all signals. -/
def listSignals : Action Nat := do
  if ← isExtended then answer signalTable
  else answer (String.join (signalNames.map fun signal => signal.2 ++ "\n"))

/-- Writes the names of signals that are given by number. In the extended language, the numbers of
those that are given by name are written too. -/
def nameSignals : List String → Action Nat
  | [] => pure 0
  | argument :: rest => do
      let extended ← isExtended
      let word := match Text.Decimal.digits? argument.toList with
        | some number => signalNames.lookup (if number < 128 then number else number - 128)
        | none => if extended then (signal? true argument).map toString else none
      match word with
      | some word => do
          let first ← answer (word ++ "\n")
          let later ← nameSignals rest
          pure (max first later)
      | none => do
          protest (if extended then argument ++ ": invalid signal specification"
            else "invalid signal number or exit status: " ++ argument)
          if extended then do
            let _ ← nameSignals rest
            pure 1
          else pure 2

/-- Sends a signal. -/
def runKill (again : Runner) (arguments : List String) : Action Nat := do
  match arguments, (← isExtended) with
  | ["-l"], _ | ["-L"], true => listSignals
  | "-l" :: rest, _ | "-L" :: rest, true => nameSignals rest
  | _, _ => do
      match readKill (← isExtended) arguments with
      | none => refuseSignal arguments
      | some (_, []) => tellUses
      | some (signal, processes) => sendAll again signal 0 processes
where
  /-- Tells how the command is used. -/
  tellUses : Action Nat := do
    if ← isExtended then tellUse "kill"
    else
      protest
        "Usage: kill [-s sigspec | -signum | -sigspec] [pid | job]... or\nkill -l [exitstatus]"
    pure 2
  /-- The first argument gives no signal, or there is none. -/
  refuseSignal (arguments : List String) : Action Nat := do
    let extended ← isExtended
    match arguments with
    | [] => tellUses
    | ["-s"] | ["-n"] => do
        protest (arguments.headD "" ++ ": option requires an argument")
        pure 1
    | "-s" :: signal :: _ | "-n" :: signal :: _ => do
        protest (if extended then signal ++ ": invalid signal specification"
          else "invalid signal number or name: " ++ signal)
        pure (if extended then 1 else 2)
    | first :: _ => do
        protest (if extended then String.ofList first.toList.tail ++ ": invalid signal specification"
          else "Illegal option " ++ String.ofList (first.toList.take 2))
        pure (if extended then 1 else 2)

/-! ## Traps -/

/-- What a trap is set for: the name of a signal, or of another occasion. -/
def occasion? (isExtended : Bool) (argument : String) : Option String :=
  let upper := withoutSig isExtended (String.ofList (argument.toList.map Char.toUpper))
  if upper = "EXIT" || argument = "0" then some "EXIT"
  else if isExtended && ["ERR", "DEBUG", "RETURN"].contains upper then some upper
  else (signal? isExtended argument).map signalName

/-- The signal that always has its usual effect. -/
def relentlessSignals : List String := ["KILL", "STOP"]

/-- Sets a trap, or clears it. -/
def setTrap (occasion : String) (action : Option String) : Action Unit := do
  let signal := (signalNames.find? fun signal => signal.2 = occasion).map (·.1)
  if !relentlessSignals.contains occasion then
    modifyProcess fun process =>
      let others := process.traps.filter fun trap => trap.1 != occasion
      let passedOver := process.passedOver.filter fun other => some other != signal
      { process with
        traps := match action with
          | some action => (occasion, action) :: others
          | none => others
        passedOver := if action = some "" then signal.toList ++ passedOver else passedOver }

/-- Sets traps for occasions, up to the first that is none. -/
def setTraps (action : Option String) : List String → Action Nat
  | [] => pure 0
  | argument :: rest => do
      match occasion? (← isExtended) argument with
      | none => do
          if ← isExtended then do
            protest (argument ++ ": invalid signal specification")
            let _ ← setTraps action rest
            pure 1
          else do
            complainBriefly ("trap: " ++ argument ++ ": bad trap")
            pure 1
      | some occasion => do
          setTrap occasion action
          setTraps action rest

/-- The occasions for traps, in order. -/
def occasions : List String :=
  "EXIT" :: (List.range 65).map signalName ++ ["DEBUG", "ERR", "RETURN"]

/-- Writes traps, all of them or those for some occasions. -/
def listTraps (wanted : List String) : Action Nat := do
  let extended ← isExtended
  let traps := (← process).traps
  let line (occasion : String) : Option String := do
    let action ← traps.lookup occasion
    let isSignal := signalNames.any fun signal => signal.2 = occasion
    let front := if extended && isSignal then "SIG" else ""
    some ("trap -- " ++ inQuotes action ++ " " ++ front ++ occasion ++ "\n")
  let isWanted (occasion : String) : Bool :=
    wanted.isEmpty || wanted.any fun argument => occasion? extended argument = some occasion
  answer (String.join ((occasions.filter isWanted).filterMap line))

/-- Sets, clears or lists traps. -/
def runTrap (arguments : List String) : Action Nat := do
  if arguments.head? = some "-" then setTraps none arguments.tail
  else withLeading "trap" "" "lp" arguments fun options arguments => do
  if options.contains 'l' then listSignals
  else if options.contains 'p' then listTraps arguments
  else match arguments with
  | [] => listTraps []
  | "-" :: occasions => setTraps none occasions
  | [occasion] =>
      if ← isExtended then do
        if (occasion? true occasion).isNone then do
          tellUse "trap"
          pure 2
        else setTraps none [occasion]
      else setTraps none [occasion]
  | action :: occasions =>
      if !action.isEmpty && action.toList.all Char.isDigit then setTraps none arguments
      else setTraps (some action) occasions

end StaticMulticast.Host.Shell

/-!
## Commands about jobs

A job is a command that has been started in the background. `wait` lets jobs come to their end, and
`jobs` tells about those whose end has not been told.
-/

namespace StaticMulticast.Host.Shell

open Action

/-! ## Waiting -/

/-- Passes over the end of a process from now on. -/
def forgetJob (number : Nat) : Action Unit :=
  modifyProcess fun process =>
    { process with jobs := process.jobs.filter fun job => job.process != number }

/-- Lets a job come to its end, and gives the status that it leaves. -/
def waitFor (again : Runner) (number : Nat) : Action Nat := do
  match (← world).jobs.find? fun job => job.process.number = number with
  | some job => runJob again job
  | none => pure ()
  forgetJob number
  match (← world).ended.lookup number with
  | some status => pure (statusOf status)
  | none => pure 127

/-- The first signal for the process for which there is a trap. -/
def trappedSignal? : Action (Option Nat) := do
  let process ← process
  let mine := (← world).pending.filter fun other => other.1 = process.number
  pure ((mine.find? fun other =>
    process.traps.any fun trap => trap.1 = signalName other.2 && !trap.2.isEmpty).map (·.2))

/-- The time at which a process ends. -/
def endTime (again : Runner) (number : Nat) : Action Nat := do
  let before ← get
  match (← world).jobs.find? fun job => job.process.number = number with
  | some job => runJob again job
  | none => pure ()
  let { clock, .. } ← world
  set before
  pure clock

/-- The process that ends first. -/
def firstToEnd (again : Runner) (numbers : List Nat) : Action (Option Nat) := do
  let times ← numbers.mapM fun number => do pure (number, ← endTime again number)
  pure ((times.foldl (fun (first : Option (Nat × Nat)) row =>
    if first.any fun first => first.2 ≤ row.2 then first else some row) none).map fun row => row.1)

/-- What `wait` is asked to do: whether for the first that ends, the name that is to keep its process,
and for whom. -/
structure Waiting where
  isFirst : Bool := false
  target : Option String := none
  whom : List String := []

/-- Reads what `wait` is asked to do in the extended language. -/
def readWaiting (waiting : Waiting) : List String → Except String Waiting
  | "--" :: rest => .ok { waiting with whom := rest }
  | "-n" :: rest => readWaiting { waiting with isFirst := true } rest
  | "-f" :: rest => readWaiting waiting rest
  | "-fn" :: rest | "-nf" :: rest => readWaiting { waiting with isFirst := true } rest
  | "-p" :: name :: rest => readWaiting { waiting with target := some name } rest
  | "-np" :: name :: rest =>
      readWaiting { waiting with isFirst := true, target := some name } rest
  | [] => .ok waiting
  | word :: rest =>
      if word.toList.head? = some '-' then .error (String.ofList (word.toList.take 2))
      else .ok { waiting with whom := word :: rest }

/-- Lets the first of some jobs come to its end, and gives its status. -/
def waitForFirst (again : Runner) (target : Option String) (numbers : List Nat) : Action Nat := do
  let first ← firstToEnd again numbers
  target.forM fun name => do
    match first with
    | some number => setText name (toString number)
    | none => setBinding name none
  match first with
  | some number => waitFor again number
  | none => pure 127

/-- Lets the jobs that arguments name come to their end, and gives the status of the last. -/
def waitForAll (again : Runner) (arguments : List String) : Action Nat := do
  let process ← process
  match arguments with
  | [] => do
      runJobs again process.number
      modifyProcess fun process => { process with jobs := [] }
      pure 0
  | _ => do
      let statuses ← arguments.mapM fun argument => do
        let isJob := argument.toList.head? = some '%'
        match ← processOf? argument, ← isExtended with
        | some number, extended =>
            if process.children.contains number.toNat then waitFor again number.toNat
            else do
              if extended then
                protest ("pid " ++ argument ++ " is not a child of this shell")
              pure 127
        | none, true => do
            protest (if isJob then argument ++ ": no such job"
              else inOldQuotes argument ++ ": not a pid or valid job spec")
            pure (if isJob then 127 else 1)
        | none, false =>
            misuse ((if isJob then "No such job: " else "Illegal number: ") ++ argument)
      pure (statuses.getLast?.getD 0)

/-- Lets jobs come to their end. A signal with a trap gives the status. -/
def runWait (again : Runner) (arguments : List String) : Action Nat := do
  let waiting := if ← isExtended then readWaiting { } arguments
    else .ok { whom := if arguments.head? = some "--" then arguments.tail else arguments }
  let status ← match waiting with
    | .error option => refuseOption "wait" option
    | .ok { isFirst := false, target, whom } => do
        target.forM fun name => setBinding name none
        waitForAll again whom
    | .ok { isFirst := true, target, whom } => do
        let numbers := (← process).jobs.reverse.map Started.process
        let wanted ← whom.filterMapM processOf?
        waitForFirst again target
          (if whom.isEmpty then numbers else wanted.map Int.toNat)
  let caught ← trappedSignal?
  takeSignals again
  pure (match caught with
    | some signal => 128 + signal
    | none => status)

/-! ## Telling about jobs -/

/-- How a job stands: how it has ended, if it has. -/
def endOfJob (job : Started) : Action (Option ExitStatus) := do
  pure ((← world).ended.lookup job.process)

/-- A text with blanks behind it up to a width. -/
def filledTo (width : Nat) (text : String) : String :=
  text ++ String.ofList (List.replicate (width - text.length) ' ')

/-- What is told about a job. The mark tells whether it is the last one, or the one before. -/
def jobLine (isExtended isLong : Bool) (mark : Char) (job : Started)
    (ending : Option ExitStatus) : String :=
  let state := match ending with
    | none => "Running"
    | some (.code 0) => "Done"
    | some (.code status) =>
        if isExtended then "Exit " ++ toString status else "Done(" ++ toString status ++ ")"
    | some (.signal _) => "Terminated"
  let place := "[" ++ toString job.place ++ "]"
  let number := if isLong then toString job.process ++ " " else ""
  if isExtended then
    let front := place ++ String.singleton mark ++ (if isLong then " " else "  ")
    let behind := if ending.isNone then " &" else ""
    front ++ number ++ filledTo 24 state ++ job.text ++ behind ++ "\n"
  else
    let front := filledTo 33 (place ++ " " ++ String.singleton mark ++ " " ++ number ++ state)
    front ++ "\n"

/-- Tells about jobs, and passes over those that have ended from now on. -/
def tellJobs (options : List Char) (jobs : List Started) : Action Nat := do
  let extended ← isExtended
  let all := (← process).jobs
  let rows ← jobs.mapM fun job => do pure (job, ← endOfJob job)
  let isKilled (ending : Option ExitStatus) : Bool := match ending with
    | some (.signal _) => extended
    | _ => false
  let isWanted (ending : Option ExitStatus) : Bool :=
    !isKilled ending && (!options.contains 'r' || ending.isNone) && !options.contains 's'
  let lines := rows.filterMap fun (job, ending) =>
    let mark := if all.head? = some job then '+' else if all[1]? = some job then '-' else ' '
    if !isWanted ending then none
    else if options.contains 'p' then some (toString job.process ++ "\n")
    else some (jobLine extended (options.contains 'l') mark job ending)
  rows.forM fun (job, ending) => if ending.isSome then forgetJob job.process else pure ()
  answer (String.join (if extended then lines else lines.reverse))

/-- Tells about jobs. Those that are asked for must be there. -/
def runListJobs (arguments : List String) : Action Nat :=
  withLeading "jobs" "lp" "lnprsx" arguments fun options names => do
    let process ← process
    let isOwn := process.dialect = .extended || process.number = process.shellNumber
    if names.isEmpty then
      if isOwn then tellJobs options process.jobs.reverse else pure 0
    else
      let asked := names.map fun name =>
        jobOf? process.jobs (if name.toList.head? = some '%' then name.toList.tail else name.toList)
      match (names.zip asked).find? fun row => row.2.isNone with
      | none => tellJobs options (asked.filterMap id)
      | some (name, _) =>
          misuse (if ← isExtended then name ++ ": no such job" else "No such job: " ++ name)

/-- Lets jobs go on. There is none that has been stopped. -/
def runResume : Action Nat := do
  protest (if ← isExtended then "no job control" else "No current job")
  pure (if ← isExtended then 1 else 2)

/-- Passes over jobs from now on. -/
def runDisown (arguments : List String) : Action Nat := do
  let (options, names) := leadingOptions arguments
  let jobs := (← process).jobs
  if options.contains 'a' || options.contains 'r' then do
    modifyProcess fun process => { process with jobs := [] }
    pure 0
  else do
    let numbers ← (if names.isEmpty then ["%%"] else names).mapM processOf?
    let known := numbers.filterMap fun number => number.bind fun number =>
      jobs.find? fun job => job.process = number.toNat
    if known.length < numbers.length then do
      protest (names.headD "current" ++ ": no such job")
      pure 1
    else do
      if !options.contains 'h' then known.forM fun job => forgetJob job.process
      pure 0

end StaticMulticast.Host.Shell
