import StaticMulticast.Host.Utility.Statement.Function
import StaticMulticast.Host.Utility.Statement.Place

/-!
# Scripts of statements and the outside

Signals and children, and the files that are read and written line by line.
-/

/-!
## Signals and children of scripts of statements

A script can have functions of its own for signals, let time pass, and copy its process. A copy does
not run before something asks for it, and its time goes on beside that of the script.
-/

namespace StaticMulticast.Host.Utility.Statement

open Action

/-! ## Signals -/

/-- The signal for the end of the time that an alarm has been set to. -/
def alarmSignal : Nat := 14

/-- What a script has set for signals: the signal, its name and the address of a function. -/
def signalHandlers : Actor (List (Nat × String × Nat)) := do
  (← sharedRows "SIG").filterMapM fun (name, value) => do
    match Shell.signal? true name, value with
    | some signal, .reference address => pure (some (signal, name, address))
    | some signal, .plain value => do
        let function := datumText value
        let key := sharedKey .function (qualified "main" function)
        pure (((← get).shared.lookup key).map fun address => (signal, name, address))
    | none, _ => pure none

/-- Takes the signals that have been sent to the process. -/
def takeSent (inner : Actors) : Actor Unit := do
  let pending ← act do
    let number := (← process).number
    let pending := (← world).pending.filter fun row => row.1 = number
    if !pending.isEmpty then
      modifyWorld fun world =>
        { world with pending := world.pending.filter fun row => row.1 != number }
    pure pending
  if !pending.isEmpty then do
    settleProcess
    let handlers ← signalHandlers
    pending.forM fun (number, signal) => do
      match handlers.lookup signal with
      | some (name, function) => do
          let argument ← addValue (.text name)
          let _ ← inner.call function [argument] none
      | none => do
          let again := (← get).again
          act do
            modifyWorld fun world => { world with pending := world.pending ++ [(number, signal)] }
            takeSignals again

/-- The first signal that comes to the process before a moment. -/
def firstLimit? (moment : Nat) : Action (Option Limit) := do
  let now := (← world).clock
  let due := (← process).limits.filter fun limit => now < limit.time && limit.time ≤ moment
  pure (due.foldl (fun (first : Option Limit) limit =>
    if first.any fun first => first.time ≤ limit.time then first else some limit) none)

/-- Lets time pass up to a moment, or up to a signal that comes before it. -/
def passUntil (inner : Actors) (moment : Nat) : Actor Unit := do
  let limit ← act (firstLimit? moment)
  let moment := (limit.map Limit.time).getD moment
  let again := (← get).again
  if (← act do pure (← world).horizon).any (· < moment) then act (throw (.killed 9))
  runChildrenUntil moment
  act do
    runJobsUntil again moment
    modifyWorld fun world => { world with clock := max world.clock moment }
  match limit with
  | none => pure ()
  | some limit => do
      act do
        let _ ← send limit.target limit.signal
        let own := (← process).number
        if own != limit.target then
          let _ ← send own limit.signal
      takeSent inner

/-- Waits for some time, and gives how long that has been, in millionths of a second. -/
def waitFor (inner : Actors) (duration : Nat) : Actor Nat := do
  flushAll
  settleProcess
  let start ← act do pure (← world).clock
  passUntil inner (start + duration)
  let finish ← act do pure (← world).clock
  pure (finish - start)

/-- Sets the alarm, or takes it away if there is no time up to it, and gives the time that has been
left, in millionths of a second. -/
def setAlarm (duration : Nat) : Actor Nat := act do
  let number := (← process).number
  let now := (← world).clock
  let isOwn (limit : Limit) : Bool := limit.target = number && limit.signal = alarmSignal
  let left := ((← process).limits.filter isOwn).map fun limit => limit.time - now
  let fresh : List Limit := if duration = 0 then [] else [⟨now + duration, alarmSignal, number⟩]
  modifyProcess fun process =>
    { process with limits := fresh ++ process.limits.filter fun limit => !isOwn limit }
  pure (left.foldl max 0)

/-! ## Copies -/

/-- A new process like the one that runs. Alarms are not copied. -/
def copiedProcess : Action Process := do
  let parent ← enterChild
  modifyProcess fun process =>
    { process with
      limits := process.limits.filter fun limit =>
        !(limit.target = parent.number && limit.signal = alarmSignal) }
  let child ← process
  modifyProcess fun _ => parent
  pure child

/-- Copies the process: the number of the copy, or zero in the copy itself. -/
def forkProcess : Actor Held := do
  match (← get).forks with
  | number :: rest => do
      modify fun state => { state with forks := rest }
      pure (.count number)
  | [] => throw .forks

/-- The copy has not run yet. -/
def isWaiting (number : Nat) : Actor Bool := do
  pure ((← get).children.any fun child => child.process.number = number)

/-- Runs a copy to its end. -/
def runChild (number : Nat) : Actor Unit := do
  match (← get).children.find? fun child => child.process.number = number with
  | none => pure ()
  | some child => do
      modify fun state =>
        { state with
          children := state.children.filter fun other => other.process.number != number }
      let _ ← act (runBeside child)

/-- Waits for the end of a copy. The bound is on the number of signals that come before it. -/
def awaitChild (inner : Actors) (number : Nat) : Nat → Actor Unit
  | 0 => runChild number
  | bound + 1 => do
      if ← isWaiting number then
        match ← act (firstLimit? farAway) with
        | none => runChild number
        | some limit => do
            runChildrenUntil limit.time
            if ← isWaiting number then do
              passUntil inner limit.time
              awaitChild inner number bound

/-- Takes note of the end of a child, and gives its number. -/
def reap (number : Nat) : Actor Held := do
  let status ← act do
    let status := (← world).ended.lookup number
    modifyWorld fun world =>
      { world with living := world.living.filter (· != number) }
    pure status
  modify fun state => { state with living := state.living.filter (· != number) }
  setChildStatus ((status.map statusValue).getD 0)
  pure (.count number)

/-- There is no child to wait for. -/
def noChild : Actor Held := do
  let _ ← failedWith 10
  setChildStatus (-1)
  pure (.number (-1))

/-- Waits for the end of a child, or only asks for it. -/
def waitForChild (inner : Actors) (number : Nat) (asks : Bool) : Actor Held := do
  flushAll
  if !(← get).living.contains number then noChild
  else if asks then do
    runChildrenUntil (← act do pure (← world).clock)
    if ← isWaiting number then pure (.number 0) else reap number
  else do
    awaitChild inner number 64
    reap number

/-- The copy that comes to its end first, if all of them began to run now. -/
def firstChild? : Actor (Option Nat) := do
  let children := (← get).children.reverse
  let ends ← children.mapM fun child => act do
    let before ← MonadState.get
    let finish ← runBeside child
    set before
    pure (child.process.number, finish)
  pure ((ends.foldl (fun (first : Option (Nat × Nat)) row =>
    if first.any fun first => first.2 ≤ row.2 then first else some row) none).map (·.1))

/-- Waits for the end of any child, or only asks for it. -/
def waitForAny (inner : Actors) (asks : Bool) : Actor Held := do
  flushAll
  if (← get).living.isEmpty then noChild
  else do
    if asks then runChildrenUntil (← act do pure (← world).clock)
    let waiting := (← get).children.map fun child => child.process.number
    match (← get).living.reverse.find? fun number => !waiting.contains number with
    | some number => reap number
    | none =>
        if asks then pure (.number 0)
        else do
          match ← firstChild? with
          | some number => do
              awaitChild inner number 64
              reap number
          | none => noChild

/-- Sends a signal to a process. One that has not run yet gets it when it runs. -/
def sendSignal (target signal : Nat) : Actor Bool := do
  if signal != 0 && (← isWaiting target) then do
    let now ← act do pure (← world).clock
    modify fun state =>
      { state with
        children := state.children.map fun child =>
          if child.process.number = target then
            let limit : Limit := ⟨max now (child.start + 1), signal, target⟩
            { child with
              process := { child.process with limits := limit :: child.process.limits } }
          else child }
    pure true
  else act (send target signal)

/-- Sends a signal to processes, and gives their number. -/
def sendSignals (inner : Actors) (values : List Held) : Actor Held := do
  match values with
  | [] => die "Not enough arguments for kill"
  | signal :: targets => do
      let text ← textOf signal
      let name := String.ofList (text.toList.dropWhile (· == '-'))
      match Shell.signal? true name with
      | none =>
          if name = "ZERO" then pure (.count targets.length)
          else die ("Unrecognized signal name \"" ++ name ++ "\"")
      | some number => do
          settleProcess
          let sent ← targets.mapM fun target => do
            sendSignal (← wholeOf target).natAbs number
          takeSent inner
          let good := (sent.filter id).length
          if good < targets.length then
            let _ ← failedWith 3
          pure (.count good)

/-- The value of a function of processes and time, if it is one. -/
def processValue? (inner : Actors) (name : String) (arguments : List Held) :
    Actor (Option Held) := do
  let first := arguments.headD .nothing
  match name with
  | "fork" => some <$> forkProcess
  | "wait" => some <$> waitForAny inner false
  | "waitpid" => do
      let number ← wholeOf first
      let asks := (← wholeOf (arguments[1]?.getD .nothing)) % 2 = 1
      if number ≤ 0 then some <$> waitForAny inner asks
      else some <$> waitForChild inner number.toNat asks
  | "kill" => some <$> sendSignals inner arguments
  | "alarm" => do
      let left ← setAlarm (← durationOf first)
      pure (some (.count ((left + 999999) / 1000000)))
  | "sleep" => do
      let seconds := Datum.truncated (← numberOfValue first)
      let passed ← waitFor inner (1000000 * (if arguments.isEmpty then 1000000 else seconds.toNat))
      pure (some (.count ((passed + 500000) / 1000000)))
  | "system" => do
      let status ← runProgram (commandWords (← arguments.mapM textOf))
      takeSent inner
      pure (some (.number status))
  | "exec" => do
      pure (some (← becomeProgram (commandWords (← arguments.mapM textOf))))
  | _ => pure none

end StaticMulticast.Host.Utility.Statement

/-!
## Lines that scripts of statements read and write

The files that the arguments of a script name are read one after the other as if they were one. Each
of them can be replaced by what is written meanwhile.
-/

namespace StaticMulticast.Host.Utility.Statement

open Action

/-! ## Files of the arguments -/

/-- The name of the file of all arguments. -/
def argumentFile : String := "ARGV"

/-- Opens what is written in the place of a file, which is kept under another name if one is wanted.
-/
def beginReplacing (path ending : String) : Actor Unit := do
  let mode := ((← act (find? true path)).map Found.mode).getD Node.ordinary
  let kept := if ending.toList.contains '*' then
      String.intercalate (lastName path) (ending.splitOn "*")
    else path ++ ending
  let _ ← if ending.isEmpty then act (removeFile path) else act (movePath path kept)
  let output ← namedHandle "ARGVOUT"
  let _ ← openFile output ">" path
  let _ ← act (changeNode path fun node => { node with mode })
  modify fun state => { state with selected := output }

/-- Ends the replacement of a file. -/
def endReplacing : Actor Unit := do
  let output ← namedHandle "ARGVOUT"
  if (← get).selected = output then do
    let _ ← closeHandle output
    let usual ← namedHandle "STDOUT"
    modify fun state => { state with selected := usual }

/-- Opens the next file of the arguments, if there is one. The bound is on their number. -/
def openNext (address : Nat) : Nat → Actor Bool
  | 0 => pure false
  | bound + 1 => do
      endReplacing
      let list ← sharedAddress .array "main::ARGV"
      let elements ← elementsAt list
      let lines := (← handleAt address).lines
      match elements[0]? with
      | none => pure false
      | some cell => do
          setCell list (.array (elements.extract 1 elements.size))
          let value ← readCell cell
          let path ← textOf value
          setSharedValue "ARGV" value
          let opened ← if path = "-" then openLike address (.text "0") false
            else openFile address "<" path
          if isTrue opened then do
            modifyHandle address fun handle => { handle with lines }
            let ending ← sharedValue "^I"
            if ending.isDefined then beginReplacing path (← textOf ending)
            pure true
          else do
            let fault := Fault.description (Int.ofNat (← get).fault)
            let place ← placeText
            warnWith ("Can't open " ++ path ++ ": " ++ fault ++ place)
            openNext address bound

/-- Begins to read the files of the arguments, or the input if there are none. -/
def beginArguments (address : Nat) : Actor Unit := do
  let isNew := !(← sharedValue "ARGV").isDefined && (← handleAt address).descriptor.isNone
  if isNew then do
    let list ← sharedAddress .array "main::ARGV"
    if (← elementsAt list).isEmpty then do
      let cell ← addValue (.text "-")
      setCell list (.array #[cell])
    let _ ← openNext address 10000

/-- Takes the next line of the files of the arguments. The bound is on their number. -/
def takeArgumentLine (address : Nat) : Nat → Actor (Option String)
  | 0 => pure none
  | bound + 1 => do
      beginArguments address
      let isOpen ← if (← handleAt address).descriptor.isSome then pure true
        else openNext address 10000
      if !isOpen then pure none
      else do
        match ← takeLine address with
        | some line => pure (some line)
        | none => do
            if ← openNext address 10000 then takeArgumentLine address bound
            else do
              let lines := (← handleAt address).lines
              let _ ← closeHandle address
              modifyHandle address fun handle => { handle with lines }
              pure none

/-! ## Reading -/

/-- The open file that a term for one stands for. -/
def handleOfTerm (inner : Actors) (term : Term) : Actor (Option Nat) := do
  match term with
  | .bare name | .text name => some <$> namedHandle name
  | term => do handleOf (← inner.value term)

/-- Takes the next line of an open file. -/
def nextLine (address : Nat) : Actor (Option String) := do
  let arguments := (← get).shared.lookup ("*" ++ qualified "main" argumentFile)
  if arguments = some address then takeArgumentLine address 10000
  else do
    let handle ← handleAt address
    match handle.isDirectory, handle.names with
    | true, [] => pure none
    | true, name :: rest => do
        modifyHandle address fun handle => { handle with names := rest }
        pure (some name)
    | false, _ => takeLine address

/-- Takes all lines of an open file. The bound is on their number. -/
def allLines (address : Nat) : Nat → List Held → Actor (List Held)
  | 0, done => pure done.reverse
  | bound + 1, done => do
      match ← nextLine address with
      | some line => allLines address bound (.text line :: done)
      | none => pure done.reverse

/-- The next line of what a term stands for. -/
def readOne (inner : Actors) (term : Term) : Actor Held := do
  match ← handleOfTerm inner term with
  | none => pure .nothing
  | some address => do pure (((← nextLine address).map Held.text).getD .nothing)

/-- All lines of what a term stands for. -/
def readAllLines (inner : Actors) (term : Term) : Actor (List Held) := do
  match ← handleOfTerm inner term with
  | none => pure []
  | some address => allLines address mostRounds []

/-- Nothing is left of a file, or of the files of the arguments. -/
def isAtFileEnd (inner : Actors) (term : Option Term) : Actor Bool := do
  let address ← match term with
    | some term => handleOfTerm inner term
    | none => do pure (← get).lastRead
  match address with
  | none => pure true
  | some address => do
      if (← handleAt address).isDirectory then pure true
      else isAtEnd address

/-- Reads characters into the value of a place, from an offset on. -/
def readCharacters (inner : Actors) (handle place count : Term) (offset : Option Term) :
    Actor Held := do
  match ← handleOfTerm inner handle with
  | none => failed .badDescriptor
  | some address => do
      let count := (← wholeOf (← inner.value count)).toNat
      let offset ← match offset with
        | some offset => do wholeOf (← inner.value offset)
        | none => pure 0
      let taken ← takeCharacters address count
      let cell ← inner.cell place
      let before := (← textOf (← readCell cell)).toList
      let offset := (if offset < 0 then offset + Int.ofNat before.length else offset).toNat
      let filled := before.take offset ++
        List.replicate (offset - before.length) (Char.ofNat 0) ++ taken.toList
      writeCell cell (.text (String.ofList filled))
      pure (.count taken.length)

/-! ## Writing -/

/-- The text between values that are written, and that behind them. -/
def marksBetween : Actor (String × String) := do
  let between ← textOf (← sharedValue ",")
  let behind ← textOf (← sharedValue "\\")
  pure (between, behind)

/-- Writes values to an open file. -/
def writeValues (way : String) (address : Nat) (values : List Held) : Actor Held := do
  if way = "printf" then do
    let format ← textOf (values.headD .nothing)
    let values ← values.tail.mapM datumOf
    emit address (formatted format values)
  else do
    let (between, behind) ← marksBetween
    let text := String.intercalate between (← values.mapM textOf)
    emit address (text ++ (if way = "say" then "\n" else "") ++ behind)

/-- Writes the values of terms. -/
def writeTerms (inner : Actors) (way : String) (handle : Option Term) (terms : List Term) :
    Actor Held := do
  let values ← inner.values (.list (if terms.isEmpty && way != "printf" then [.topic] else terms))
  match handle with
  | none => do writeValues way (← get).selected values
  | some term => do
      match ← handleOfTerm inner term with
      | none => failed .badDescriptor
      | some address => writeValues way address values

/-! ## Messages -/

/-- The text of a message: that of values, or another one if it is empty, with the place unless it
ends a line. -/
def messageOf (usual : String) (values : List Held) : Actor Held := do
  match values with
  | [.reference address] => pure (.reference address)
  | values => do
      let text := String.join (← values.mapM textOf)
      let text := if text.isEmpty then usual else text
      if text.toList.getLast? = some '\n' then pure (.text text)
      else do pure (.text (text ++ (← placeText)))

/-- The address of the function that a script has set for a kind of messages. -/
def messageHandler? (name : String) : Actor (Option Nat) := do
  match (← sharedRows "SIG").lookup name with
  | some (.reference address) => pure (some address)
  | some (.plain value) => do
      let key := sharedKey .function (qualified "main" (datumText value))
      pure ((← get).shared.lookup key)
  | none => pure none

/-- Warns with a message. -/
def warnOf (inner : Actors) (values : List Held) : Actor Held := do
  let message ← messageOf "Warning: something's wrong" values
  match ← messageHandler? "__WARN__" with
  | some function => do
      let argument ← addValue message
      let _ ← inner.call function [argument] none
      pure (.number 1)
  | none => do
      warnWith (← textOf message)
      pure (.number 1)

/-- Gives up with a message. -/
def dieOf (inner : Actors) (values : List Held) : Actor (List Held) := do
  let before ← sharedValue "@"
  let isEmpty ← values.allM fun value => do pure (← textOf value).isEmpty
  let message ← if isEmpty && isTrue before then do
      match before with
      | .reference _ => pure before
      | .plain value => messageOf "Died" [.text (datumText value ++ "\t...propagated")]
    else messageOf "Died" values
  match ← messageHandler? "__DIE__" with
  | some function => do
      let argument ← addValue message
      let table ← sharedAddress .table "main::SIG"
      let members ← membersAt table
      setCell table (.table (members.filter fun member => member.1 != "__DIE__") 0)
      let _ ← inner.call function [argument] none
      setCell table (.table members 0)
      throw (.dies message)
  | none => throw (.dies message)

end StaticMulticast.Host.Utility.Statement
