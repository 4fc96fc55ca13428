import StaticMulticast.Host.Shell.Builtin.Signal
import StaticMulticast.Host.Shell.Simple
import StaticMulticast.Host.Utility.Input

/-!
# Programs that start programs

They prepare something for another program and then become it, or start it several times. A status
of their own tells that the program could not be found or run, or that the preparation went wrong.
-/

namespace StaticMulticast.Host.Utility

open Action

/-! ## Becoming another program -/

/-- Reports that a program cannot be run: its name in quotes, and why. -/
def reportQuoted : Report := fun name fault =>
  complain (inQuotes name ++ ": " ++ fault.reason)

/-- Reports that a program cannot be run, and that this was tried. -/
def reportFailed : Report := fun name fault =>
  complain ("failed to run command " ++ inQuotes name ++ ": " ++ fault.reason)

/-- The status of a program that could not be started. -/
def startStatus (fault : Fault) : Nat :=
  if fault = .missing then 127 else 126

/-- Becomes the program that words name. A file without an interpreter is run by the plain shell. How
it is told that the program cannot be run is given first. -/
def becomeWith (say : Report) (again : Runner) : List String → Action Nat
  | [] => pure 0
  | name :: arguments => do
      match ← findProgram (some "dash") name arguments with
      | .ok launch => do
          again (.launch launch)
          pure 0
      | .error fault => do
          say name fault
          pure (startStatus fault)

/-- Becomes the program that words name. -/
def becomeWords (again : Runner) (words : List String) : Action Nat :=
  becomeWith report again words

/-- Runs the program that words name in a process of its own, if it can be started. -/
def startChild (again : Runner) : List String → Action (Except Fault ExitStatus)
  | [] => pure (.error .missing)
  | name :: arguments => do
      match ← findProgram (some "dash") name arguments with
      | .ok launch => .ok <$> inChild (again (.launch launch))
      | .error fault => pure (.error fault)

/-- Runs the program that words name in a process of its own, and gives its status. -/
def runChild (again : Runner) (words : List String) : Action ExitStatus :=
  inChild do setStatus (← becomeWords again words)

/-! ## Words in one argument -/

/-- Cuts a text into words as a shell does, with quotes and backslashes. The letters of a word that
has been begun are kept in reverse. The bound is on the number of letters. -/
def splitWords : Nat → Option (List Char) → List Char → Option (List String)
  | 0, _, _ => none
  | _ + 1, begun, [] => some (begun.toList.map fun letters => String.ofList letters.reverse)
  | bound + 1, begun, letter :: rest =>
      let add (letters rest : List Char) : Option (List String) :=
        splitWords bound (some (letters ++ begun.getD [])) rest
      if [' ', '\t', '\n', '\r'].contains letter then do
        let words ← splitWords bound none rest
        some (begun.toList.map (fun letters => String.ofList letters.reverse) ++ words)
      else if letter = '#' && begun.isNone then some []
      else if letter = '\'' then
        match rest.span (· != '\'') with
        | (inside, _ :: after) => add inside.reverse after
        | _ => none
      else if letter = '"' then
        match rest.span (· != '"') with
        | (inside, _ :: after) => add inside.reverse after
        | _ => none
      else if letter = '\\' then
        match rest with
        | '_' :: after => add [' '] after
        | 't' :: after => add ['\t'] after
        | 'n' :: after => add ['\n'] after
        | 'c' :: _ => some (begun.toList.map fun letters => String.ofList letters.reverse)
        | next :: after => add [next] after
        | [] => none
      else add [letter] rest

/-- The values of variables in the place of their names in braces. The bound is on the length. -/
def withVariables (lookup : String → String) : Nat → List Char → List Char
  | 0, text => text
  | bound + 1, text =>
      match text with
      | '$' :: '\x7b' :: rest =>
          match rest.span (· != '\x7d') with
          | (name, _ :: after) =>
              (lookup (String.ofList name)).toList ++ withVariables lookup bound after
          | _ => text
      | letter :: rest => letter :: withVariables lookup bound rest
      | [] => []

/-! ## The environment of a program -/

/-- The options of `env`. -/
def envOptions : List Known :=
  [⟨'i', "ignore-environment", .nothing⟩, ⟨'u', "unset", .text⟩, ⟨'0', "null", .nothing⟩,
    ⟨'C', "chdir", .text⟩, ⟨'S', "split-string", .text⟩, ⟨'v', "debug", .nothing⟩,
    ⟨'a', "argv0", .text⟩]

/-- Puts the words of the text of an option among the other arguments. The bound is on the number of
times. -/
def expandSplit (lookup : String → String) : Nat → List String → Option (List String)
  | 0, arguments => some arguments
  | bound + 1, arguments =>
      match arguments with
      | [] => some []
      | argument :: rest =>
          let split (text : List Char) : Option (List String) := do
            let text := withVariables lookup text.length text
            let words ← splitWords (text.length + 1) none text
            expandSplit lookup bound (words ++ rest)
          match argument.toList with
          | '-' :: 'S' :: text =>
              if text.isEmpty then
                match rest with
                | text :: rest => do
                    let words ← splitWords (text.length + 1) none text.toList
                    expandSplit lookup bound (words ++ rest)
                | [] => none
              else split text
          | '-' :: 'v' :: 'S' :: text => split text
          | '-' :: letter :: _ =>
              if "--split-string=".toList.isPrefixOf argument.toList then
                split (argument.toList.drop 15)
              else if letter = 'u' && argument.length = 2 then
                match rest with
                | name :: rest => do
                    some (argument :: name :: (← expandSplit lookup bound rest))
                | [] => some arguments
              else if argument = "--" then some arguments
              else do some (argument :: (← expandSplit lookup bound rest))
          | _ => some arguments

/-- Sets the variables that stand in front of words. -/
def setVariables : List String → Action (List String)
  | [] => pure []
  | word :: rest => do
      let (name, value) := word.toList.span (· != '=')
      match value with
      | _ :: value => do
          setBinding (String.ofList name)
            (some { value := .single (String.ofList value), isExported := true })
          setVariables rest
      | [] => pure (word :: rest)

/-- Moves to another directory. -/
def goInto (path : String) : Action (Option Fault) := do
  match (← files).locate true (← process).working (pathOf path) with
  | .error fault => pure (some fault)
  | .ok location =>
      match (← files).get? location with
      | some (.directory _) => do
          modifyProcess fun process => { process with working := location }
          pure none
      | some _ => pure (some .throughFile)
      | none => pure (some .missing)

/-- Runs a program in another environment, or writes the environment. -/
def runEnv (again : Runner) (arguments : List String) : Action Nat := do
  let bindings := (← process).bindings
  let lookup (name : String) : String :=
    ((bindings.lookup name).bind fun binding => binding.value.text?).getD ""
  match expandSplit lookup 16 arguments with
  | none => refuse 125 "no terminating quote in -S string"
  | some arguments =>
      match readLeading envOptions arguments with
      | none => refuseUse 125 (optionFault envOptions arguments)
      | some given => do
          let (isEmpty, words) := match given.operands with
            | "-" :: rest => (true, rest)
            | words => (given.has 'i', words)
          if isEmpty then modifyProcess fun process => { process with bindings := [] }
          (given.texts 'u').forM fun name => setBinding name none
          let words ← setVariables words
          let fault ← match given.text? 'C' with
            | some path => if words.isEmpty then pure none else goInto path
            | none => pure none
          match fault, words with
          | some fault, _ =>
              refuse 125 ("cannot change directory to " ++ inQuotes ((given.text? 'C').getD "") ++
                ": " ++ fault.reason)
          | none, [] =>
              if given.has 'C' then refuseUse 125 "must specify command with --chdir (-C)"
              else do
                let ending := if given.has '0' then "\x00" else "\n"
                answer (String.join ((← environment).map fun (name, text) =>
                  name ++ "=" ++ text ++ ending))
          | none, _ =>
              if given.has '0' then refuseUse 125 "cannot specify --null (-0) with command"
              else becomeWith reportQuoted again words

/-- Writes variables that programs can see. -/
def runPrintenv (arguments : List String) : Action Nat := do
  let environment ← environment
  match arguments with
  | [] => answer (String.join (environment.map fun (name, text) => name ++ "=" ++ text ++ "\n"))
  | names => do
      let texts := names.filterMap fun name => environment.lookup name
      let written ← answer (String.join (texts.map (· ++ "\n")))
      pure (max written (if texts.length = names.length then 0 else 1))

/-! ## Programs around other ones -/

/-- Becomes the program behind options. -/
def runBehind (say : Report) (failed : Nat) (known : List Known) (again : Runner)
    (arguments : List String) : Action Nat := do
  match readLeading known arguments with
  | none => refuseUse failed (optionFault known arguments)
  | some given =>
      if given.operands.isEmpty then refuseUse failed "missing operand"
      else becomeWith say again given.operands

/-- Becomes a program whose output is kept back in some way, which makes no difference. -/
def runStdbuf (again : Runner) (arguments : List String) : Action Nat := do
  let known : List Known :=
    [⟨'i', "input", .text⟩, ⟨'o', "output", .text⟩, ⟨'e', "error", .text⟩]
  match readLeading known arguments with
  | none => refuseUse 125 (optionFault known arguments)
  | some given =>
      if given.operands.isEmpty then refuseUse 125 "missing operand"
      else if given.options.isEmpty then
        refuseUse 125 "you must specify a buffering mode option"
      else becomeWith reportFailed again given.operands

/-- Becomes a program in a session of its own. -/
def runSetsid (again : Runner) (arguments : List String) : Action Nat := do
  match readLeading (knownLetters "cfw" "") arguments with
  | none => refuse 1 (optionFault (knownLetters "cfw" "") arguments)
  | some given =>
      if given.operands.isEmpty then refuseUse 1 "no command specified"
      else becomeWith (fun name fault =>
        complain ("failed to execute " ++ name ++ ": " ++ fault.reason)) again given.operands

/-- Options of `nice` in their usual form. The old form is a number behind a minus sign. -/
def withRankOption : List String → List String
  | [] => []
  | argument :: rest =>
      match argument.toList with
      | '-' :: sign :: digits =>
          if sign.isDigit || ((sign = '-' || sign = '+') && digits.head?.any Char.isDigit) then
            "-n" :: String.ofList (if sign = '+' then digits else sign :: digits) ::
              withRankOption rest
          else if argument = "-n" then
            argument :: match rest with
              | text :: rest => text :: withRankOption rest
              | [] => []
          else argument :: rest
      | _ => argument :: rest

/-- Becomes a program with another rank, or writes the rank. -/
def runNice (again : Runner) (arguments : List String) : Action Nat := do
  let known : List Known := [⟨'n', "adjustment", .text⟩]
  let arguments := withRankOption arguments
  let held := (← process).rank
  match readLeading known arguments with
  | none => refuseUse 125 (optionFault known arguments)
  | some given =>
      let text := (given.text? 'n').getD "10"
      let digits := if text.toList.head? = some '+' then String.ofList text.toList.tail else text
      match digits.toInt?, given.operands with
      | none, _ => refuse 125 ("invalid adjustment " ++ inQuotes text)
      | some _, [] =>
          if given.has 'n' then refuseUse 125 "a command must be given with an adjustment"
          else answer (toString held ++ "\n")
      | some change, words => do
          modifyProcess fun process =>
            { process with rank := max (-20) (min 19 (held + change)) }
          becomeWith reportQuoted again words

/-- The number of millionths of a second that a text stands for: a number, perhaps with a fraction,
an exponent and a unit. -/
def duration? (text : String) : Option Nat := do
  let letters := if text.toList.head? = some '+' then text.toList.tail else text.toList
  let (digits, rest) := letters.span Char.isDigit
  let (fraction, rest) := match rest with
    | '.' :: rest => rest.span Char.isDigit
    | _ => ([], rest)
  let (shift, unit) : Int × List Char := match rest with
    | 'e' :: '-' :: rest =>
        (-Int.ofNat (value (rest.takeWhile Char.isDigit)), rest.dropWhile Char.isDigit)
    | 'e' :: rest =>
        (value ((rest.dropWhile (· == '+')).takeWhile Char.isDigit),
          (rest.dropWhile (· == '+')).dropWhile Char.isDigit)
    | _ => (0, rest)
  if text = "inf" || text = "infinity" then some longest
  else do
    let _ ← (digits ++ fraction).head?
    let seconds ← match unit with
      | [] | ['s'] => some 1
      | ['m'] => some 60
      | ['h'] => some 3600
      | ['d'] => some 86400
      | _ => none
    let places := fraction.length + (-shift).toNat
    let whole := value (digits ++ fraction) * Nat.pow 10 (min shift.toNat 16)
    some (min longest ((whole * seconds * 1000000 + Nat.pow 10 places - 1) / Nat.pow 10 places))
where
  /-- A time that is long enough. -/
  longest : Nat := 1000000000000000
  /-- The number that digits stand for. -/
  value (digits : List Char) : Nat := ((String.ofList digits).toNat?).getD 0

/-- The mark of the option of `timeout` to keep the status of a program. It has no letter. -/
def keepsStatus : Char := Char.ofNat 1

/-- Runs a program that gets a signal after a time, and another one if it goes on. -/
def runLimited (again : Runner) (given : Given) (duration signal : Nat) (words : List String) :
    Action Nat := do
  let deadline := (← world).clock + duration
  let second := (given.text? 'k').bind duration?
  let status ← inChild do
    let number := (← process).number
    let limits := ⟨deadline, signal, number⟩ ::
      (second.map fun time => ⟨deadline + time, 9, number⟩).toList
    if duration != 0 then
      modifyProcess fun process => { process with limits := limits ++ process.limits }
    setStatus (← becomeWith reportFailed again words)
  let isLate := duration != 0 && deadline ≤ (← world).clock
  match status, isLate with
  | .code status, false => pure status
  | .signal signal, false => throw (.killed signal)
  | .signal 9, true => throw (.killed 9)
  | _, true => pure (if given.has keepsStatus then statusOf status else 124)

/-- Becomes a program that is ended after a time. Only those that wait take any time. -/
def runTimeout (again : Runner) (arguments : List String) : Action Nat := do
  let known : List Known := [⟨'s', "signal", .text⟩, ⟨'k', "kill-after", .text⟩,
    ⟨'f', "foreground", .nothing⟩,
    ⟨keepsStatus, "preserve-status", .nothing⟩, ⟨'v', "verbose", .nothing⟩]
  match readLeading known arguments with
  | none => refuseUse 125 (optionFault known arguments)
  | some given =>
      let signal := (given.text? 's').getD "TERM"
      match given.operands, Shell.signal? true signal, (given.text? 'k').map duration? with
      | _, none, _ => refuseUse 125 (inQuotes signal ++ ": invalid signal")
      | _, _, some none =>
          refuseUse 125 ("invalid time interval " ++ inQuotes ((given.text? 'k').getD ""))
      | limit :: name :: rest, some signal, _ =>
          match duration? limit with
          | some duration => runLimited again given duration signal (name :: rest)
          | none => refuseUse 125 ("invalid time interval " ++ inQuotes limit)
      | _, _, _ => do
          let _ ← write 2 ("Try '" ++ (← process).name ++ " --help' for more information.\n")
          pure 125

/-! ## Waiting and signals -/

/-- Waits for the sum of some times. -/
def runSleep (again : Runner) (arguments : List String) : Action Nat := do
  withOptions 1 [] arguments fun given => do
    let wrong := given.operands.filter fun text => (duration? text).isNone
    if given.operands.isEmpty then refuseUse 1 "missing operand"
    else match wrong.getLast? with
    | some last => do
        wrong.dropLast.forM fun text => complain ("invalid time interval " ++ inQuotes text)
        refuseUse 1 ("invalid time interval " ++ inQuotes last)
    | none => do
        sleep again ((given.operands.filterMap duration?).foldl (· + ·) 0)
        pure 0

/-- Sends a signal. -/
def runKillProgram (again : Runner) (arguments : List String) : Action Nat := do
  match arguments with
  | [] => refuse 1 "not enough arguments"
  | _ => do
      let status ← Shell.runKill again arguments
      pure (if status = 0 then 0 else 1)

end StaticMulticast.Host.Utility
