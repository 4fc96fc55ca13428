import StaticMulticast.Host.Utility.Statement.State

/-!
# Open files of scripts of statements

Files are read in blocks, and what is written is kept until it is wanted outside. A file can also be
the value of a name, or a command that runs before it is read or when it is closed.
-/

namespace StaticMulticast.Host.Utility.Statement

open Action

/-! ## Handles -/

/-- The open file at an address. -/
def handleAt (address : Nat) : Actor Handle := do
  pure (match ← cellAt address with
    | .handle handle => handle
    | _ => { })

/-- Changes the open file at an address. -/
def modifyHandle (address : Nat) (change : Handle → Handle) : Actor Unit := do
  setCell address (.handle (change (← handleAt address)))

/-- Adds an open file, and gives its address. -/
def addHandle (handle : Handle) : Actor Nat := do
  let address ← addCell (.handle handle)
  modify fun state => { state with handles := address :: state.handles }
  pure address

/-- The address of the open file that a name stands for. -/
def namedHandle (name : String) : Actor Nat := do
  let letters := name.toList.dropWhile (· == '*')
  let name := String.ofList letters
  let key := "*" ++ qualified "main" name
  match (← get).shared.lookup key with
  | some address => pure address
  | none => do
      let address ← addHandle { }
      setShared key (some address)
      pure address

/-- The address of the open file that a value leads to. The bound is on the references on the way. -/
def handleOf? : Nat → Held → Actor (Option Nat)
  | 0, _ => pure none
  | bound + 1, value => do
      match value with
      | .reference address => do
          match ← cellAt address with
          | .handle _ => pure (some address)
          | .scalar inner => handleOf? bound inner
          | .table members _ => do
              match members.lookup "fh" with
              | some cell => do handleOf? bound (← readCell cell)
              | none => pure none
          | _ => pure none
      | .plain value =>
          let text := datumText value
          if text.isEmpty then pure none else some <$> namedHandle text

/-- The address of the open file that a value leads to. -/
def handleOf (value : Held) : Actor (Option Nat) :=
  handleOf? 8 value

/-! ## Processes beside the script -/

/-- Runs a process beside the one that is at hand, and gives the time of its end. -/
def runBeside (child : Child) : Action Nat := do
  let parent ← process
  let present := (← world).clock
  let number := child.process.number
  modifyProcess fun _ => child.process
  modifyWorld fun world => { world with clock := child.start }
  let result ← attempt child.body
  let status := endOf result (← process)
  let finish := (← world).clock
  modifyWorld fun world =>
    { world with
      clock := max present finish
      living := world.living.filter (· != number)
      ended := (number, status) :: world.ended }
  modifyProcess fun _ => parent
  pure finish

/-- Runs the processes that have not run yet. -/
def runChildren : Actor Unit := do
  let children := (← get).children
  modify fun state => { state with children := [] }
  children.reverse.forM fun child => do
    let _ ← act (runBeside child)

/-- Runs the processes that come to their end before a time. The others have not begun to run. -/
def runChildrenUntil (time : Nat) : Actor Unit := do
  (← get).children.reverse.forM fun child => do
    let isEnded ← act do
      let before ← get
      let finish ← runBeside child
      if time < finish then do
        set before
        pure false
      else pure true
    if isEnded then
      modify fun state =>
        { state with
          children := state.children.filter fun other =>
            other.process.number != child.process.number }

/-! ## Reading -/

/-- The number of octets that are read at once. -/
def blockSize : Nat := 0x2000

/-- Octets are read as soon as there are any. -/
def isPassing (descriptor : Nat) : Action Bool := do
  pure (match ← openFile? descriptor with
    | some (_, file) =>
        match file.stream with
        | .pipe _ | .opened (.device (.queue _)) => true
        | _ => false
    | none => false)

/-- Reads a block of an open file, and tells whether there was anything. -/
def fill (address : Nat) : Actor Bool := do
  let handle ← handleAt address
  match handle.descriptor with
  | none => pure false
  | some descriptor => do
      let read : Actor (Except Fault (List UInt8)) :=
        act (readSome descriptor fun octets => min octets.length blockSize)
      let first ← read
      let isNothing : Bool := match first with
        | .ok octets => octets.isEmpty
        | .error _ => false
      let result ← if isNothing && !(← get).children.isEmpty && (← act (isPassing descriptor)) then do
          runChildren
          read
        else pure first
      match result with
      | .error fault => do
          let _ ← failed fault
          pure false
      | .ok octets => do
          let letters := (Text.Octets.ofList octets).toList
          modifyHandle address fun handle => { handle with held := handle.held ++ letters }
          pure !octets.isEmpty

/-- What ends lines: a text, an empty line, a number of characters, or only the end of the file. -/
inductive Ending where
  | text (letters : List Char)
  | paragraph
  | size (count : Nat)
  | none

/-- What ends lines. -/
def lineEnding : Actor Ending := do
  match ← sharedValue "/" with
  | .reference address => do
      pure (.size (← wholeOf (← readCell address)).toNat)
  | value =>
      if !value.isDefined then pure .none
      else do
        let text ← textOf value
        pure (if text.isEmpty then .paragraph else .text text.toList)

/-- The letters up to the end of a line, with it, and what follows. What has been passed is kept in
reverse. -/
def cutLine (ending : List Char) : List Char → List Char → Option (List Char × List Char)
  | _, [] => none
  | done, letter :: rest =>
      if ending.isPrefixOf (letter :: rest) then
        some (done.reverse ++ ending, (letter :: rest).drop ending.length)
      else cutLine ending (letter :: done) rest

/-- The next line of what has been read, if it is there, and what follows it. -/
def Ending.cut (ending : Ending) (isAll : Bool) (held : List Char) :
    Option (List Char × List Char) :=
  let rest : Option (List Char × List Char) :=
    if isAll && !held.isEmpty then some (held, []) else Option.none
  match ending with
  | .none => rest
  | .size count => if count ≤ held.length then some (held.splitAt count) else rest
  | .text letters => (cutLine letters [] held).or rest
  | .paragraph =>
      let held := held.dropWhile (· == '\n')
      match cutLine ['\n', '\n'] [] held with
      | some (line, after) => some (line, after.dropWhile (· == '\n'))
      | Option.none => if isAll && !held.isEmpty then some (held, []) else Option.none

/-- Takes the next line of an open file. The bound is on the number of blocks. -/
def takeLineFrom (address : Nat) (ending : Ending) : Nat → Actor (Option String)
  | 0 => pure none
  | bound + 1 => do
      let handle ← handleAt address
      match ending.cut handle.isEnded handle.held with
      | some (line, rest) => do
          modifyHandle address fun handle =>
            { handle with held := rest, lines := handle.lines + 1 }
          modify fun state => { state with lastRead := some address }
          pure (some (String.ofList line))
      | none =>
          if handle.isEnded then do
            modifyHandle address fun handle => { handle with isEnded := false, held := [] }
            modify fun state => { state with lastRead := some address }
            pure none
          else do
            if !(← fill address) then
              modifyHandle address fun handle => { handle with isEnded := true }
            takeLineFrom address ending bound

/-- The number of blocks that are read at most. -/
def mostBlocks : Nat := 100000

/-- Takes the next line of an open file, with its end. -/
def takeLine (address : Nat) : Actor (Option String) := do
  takeLineFrom address (← lineEnding) mostBlocks

/-- Nothing is left of an open file. -/
def isAtEnd (address : Nat) : Actor Bool := do
  let handle ← handleAt address
  if !handle.held.isEmpty then pure false
  else do pure !(← fill address)

/-- Reads until so many characters are there. The bound is on the number of blocks. -/
def fillTo (address count : Nat) : Nat → Actor Unit
  | 0 => pure ()
  | bound + 1 => do
      if (← handleAt address).held.length < count then
        if ← fill address then fillTo address count bound

/-- Takes characters of an open file. -/
def takeCharacters (address count : Nat) : Actor String := do
  fillTo address count mostBlocks
  let (taken, rest) := (← handleAt address).held.splitAt count
  modifyHandle address fun handle => { handle with held := rest }
  pure (String.ofList taken)

/-- Gives back what has been read of the input and not been taken. -/
def giveBackInput : Actor Unit := do
  (← get).handles.forM fun address => do
    let handle ← handleAt address
    if handle.descriptor = some 0 && !handle.held.isEmpty then do
      let isKept ← act (isPassing 0)
      act (giveBack blockSize handle.held.length)
      if !isKept then modifyHandle address fun handle => { handle with held := [] }

/-! ## Writing -/

/-- Writes what is kept for an open file. -/
def flushHandle (address : Nat) : Actor (Option Fault) := do
  let handle ← handleAt address
  match handle.descriptor with
  | some descriptor =>
      if handle.kept.isEmpty then pure none
      else do
        modifyHandle address fun handle => { handle with kept := [] }
        act (write descriptor (String.join handle.kept.reverse))
  | none => pure none

/-- Writes what is kept for all open files. -/
def flushAll : Actor Unit := do
  (← get).handles.reverse.forM fun address => do
    let _ ← flushHandle address

/-- Writes a text to an open file. -/
def emit (address : Nat) (text : String) : Actor Held := do
  let handle ← handleAt address
  match handle.memory with
  | some cell => do
      let before ← textOf (← readCell cell)
      writeCell cell (.text (before ++ text))
      pure (.number 1)
  | none =>
      if handle.command.isNone && (handle.descriptor.isNone || !handle.isWritten) then
        failed .badDescriptor
      else do
        modifyHandle address fun handle => { handle with kept := text :: handle.kept }
        if handle.flushes && handle.descriptor.isSome then outcome (← flushHandle address)
        else pure (.number 1)

/-- Writes a message. -/
def warnWith (text : String) : Actor Unit := do
  let _ ← act (write 2 text)

/-! ## Programs -/

/-- The rows of a table of all of the script. -/
def sharedRows (name : String) : Actor (List (String × Held)) := do
  let members ← membersAt (← sharedAddress .table ("main::" ++ name))
  members.mapM fun (key, cell) => do pure (key, ← readCell cell)

/-- Gives the process the variables and the signals without effect that the script has set. -/
def settleProcess : Actor Unit := do
  let bindings ← (← sharedRows "ENV").mapM fun (name, value) => do pure (name, ← textOf value)
  let signals ← (← sharedRows "SIG").filterMapM fun (name, value) => do
    let text ← textOf value
    pure (if value.isDefined then (Shell.signal? true name).map fun signal => (signal, text)
      else none)
  act (modifyProcess fun process =>
    let ignored := (signals.filter fun row => row.2 = "IGNORE").map (·.1)
    let others := process.passedOver.filter fun signal => (signals.lookup signal).isNone
    { process with
      bindings := bindings.map fun (name, text) =>
        (name, { value := .single text, isExported := true })
      passedOver := ignored ++ others })

/-- The words of a command line of one text. A text with marks of the shell is given to it. -/
def commandWords : List String → List String
  | [text] =>
      let isMark (letter : Char) : Bool :=
        "$&*()\x7b\x7d[]'\";\\|?<>~\n".toList.contains letter || letter.toNat = 0x60
      let words := wordsOf text.toList
      let isAssignment := (words.head?.any fun word => word.toList.contains '=')
      if text.toList.any isMark || isAssignment then ["/bin/sh", "-c", text] else words
  | words => words

/-- The status of a program as scripts see it. -/
def statusValue : ExitStatus → Int
  | .code status => 256 * status
  | .signal signal => signal

/-- Keeps only the usual descriptors. -/
def keepUsual : Action Unit :=
  modifyProcess fun process =>
    { process with descriptors := process.descriptors.filter fun row => row.1 < 3 }

/-- Prepares for another process: what is kept is written, and what has been read too early is given
back. -/
def prepare : Actor Unit := do
  flushAll
  giveBackInput
  settleProcess

/-- Sets how the last process has ended. -/
def setChildStatus (status : Int) : Actor Unit :=
  setSharedValue "?" (.number status)

/-- Runs a program, perhaps with another input and output, and gives its status. -/
def runWith (input output : Option Nat) (words : List String) : Actor Int := do
  prepare
  let again := (← get).again
  let status : Int ← match words with
    | [] => pure (-1)
    | name :: arguments => do
        match ← act (findProgram none name arguments) with
        | .error fault => do
            let _ ← failed fault
            pure (-1)
        | .ok _ => do
            let status ← act (inChild do
              input.forM fun number => setDescriptor 0 (some number)
              output.forM fun number => setDescriptor 1 (some number)
              keepUsual
              setStatus (← becomeWords again words))
            pure (statusValue status)
  setChildStatus status
  pure status

/-- Runs a program, and gives its status. -/
def runProgram (words : List String) : Actor Int :=
  runWith none none words

/-- Becomes another program. -/
def becomeProgram (words : List String) : Actor Held := do
  prepare
  let again := (← get).again
  match words with
  | [] => failed .missing
  | name :: arguments => do
      match ← act (findProgram (some "dash") name arguments) with
      | .error fault => failed fault
      | .ok launch => do
          let alarm := (← get).alarm
          act do
            keepUsual
            let number := (← process).number
            alarm.forM fun time =>
              modifyProcess fun process =>
                { process with limits := ⟨time, 14, number⟩ :: process.limits }
            again (.launch launch)
          pure .nothing

/-- Runs a program, and gives what it writes. -/
def captureProgram (words : List String) : Actor String := do
  let (reading, writing) ← act makePipe
  let _ ← runWith none (some writing) words
  match (← act world).openFiles[reading]? with
  | none => pure ""
  | some file => do
      let octets ← act (available file)
      pure (Text.Octets.ofList octets)

/-- Runs a program that reads a text. -/
def feedProgram (text : String) (words : List String) : Actor Int := do
  let (reading, writing) ← act makePipe
  act (writeOpen writing text)
  runWith (some reading) none words

/-! ## Opening and closing -/

/-- The lowest descriptor that is free. -/
def freeDescriptor : Action Nat := do
  let taken := (← process).descriptors.map (·.1)
  pure (((List.range (taken.length + 1)).find? fun number => !taken.contains number).getD
    taken.length)

/-- Takes a number of an open file for a handle. -/
def takeFile (address number : Nat) (isWritten : Bool) : Actor Held := do
  let before ← handleAt address
  let descriptor ← match before.descriptor.filter (· < 3) with
    | some descriptor => pure descriptor
    | none => do
        before.descriptor.forM fun descriptor => act (setDescriptor descriptor none)
        act freeDescriptor
  act (setDescriptor descriptor (some number))
  let isMessages := descriptor = 2
  setCell address (.handle { descriptor := some descriptor, isWritten, flushes := isMessages })
  pure (.number 1)

/-- Opens a file to read, write or add to. -/
def openFile (address : Nat) (mode path : String) : Actor Held := do
  let _ ← flushHandle address
  let manner : Option Manner := match mode with
    | "<" => some .reading
    | ">" | "+>" => some .writing
    | ">>" | "+>>" => some .appending
    | "+<" => some .both
    | _ => none
  match manner with
  | none => die ("Unknown open() mode '" ++ mode ++ "'")
  | some manner => do
      let isMissing := mode = "+<" && (← act (find? true path)).isNone
      if isMissing then failed .missing
      else do
        let isDirectory := (← act (find? true path)).any Found.isDirectory
        if isDirectory && mode != "<" then failed .directory
        else match ← act (openPath path manner) with
          | .error fault => failed fault
          | .ok number => do
              if mode = "+>" then
                act (modifyWorld fun world =>
                  { world with openFiles := world.openFiles.modify number fun file =>
                      { file with isReadable := true } })
              takeFile address number (mode != "<")

/-- Opens what is read from a command. -/
def openCommand (address : Nat) (words : List String) : Actor Held := do
  let text ← captureProgram words
  let status ← wholeOf (← sharedValue "?")
  if status = -1 then pure .nothing
  else do
    setCell address (.handle { held := text.toList, status := some status })
    pure (.count (← act world).nextProcess)

/-- Opens what is written to a command. -/
def openFed (address : Nat) (words : List String) : Actor Held := do
  setCell address (.handle { command := some words, isWritten := true })
  pure (.count (← act world).nextProcess)

/-- Opens once more what another handle or a descriptor leads to. -/
def openLike (address : Nat) (other : Held) (isWritten : Bool) : Actor Held := do
  let text ← textOf other
  let descriptor ← match other, text.toNat? with
    | .plain _, some number => pure (some number)
    | _, _ => do
        match ← handleOf other with
        | some source => do
            let _ ← flushHandle source
            pure (← handleAt source).descriptor
        | none => pure none
  match ← descriptor.mapM fun descriptor => act (openFile? descriptor) with
  | some (some (number, _)) => do
      let _ ← flushHandle address
      takeFile address number isWritten
  | _ => failed .badDescriptor

/-- How a file is opened by a text that also has its path. -/
def modeOf (text : String) : String × String :=
  let letters := text.toList.dropWhile Char.isWhitespace
  let letters := (letters.reverse.dropWhile Char.isWhitespace).reverse
  let mark := letters.takeWhile fun letter => "<>+|&=".toList.contains letter
  let path := (letters.drop mark.length).dropWhile Char.isWhitespace
  if letters.getLast? = some '|' then
    ("-|", String.ofList (letters.dropLast.reverse.dropWhile Char.isWhitespace).reverse)
  else if mark.isEmpty then ("<", String.ofList letters)
  else if mark = ['|'] then ("|-", String.ofList path)
  else (String.ofList mark, String.ofList path)

/-- Closes an open file. -/
def closeHandle (address : Nat) : Actor Held := do
  let handle ← handleAt address
  let isOpen := handle.descriptor.isSome || handle.memory.isSome || handle.command.isSome ||
    handle.status.isSome || handle.isWritten || !handle.held.isEmpty
  if !isOpen then failed .badDescriptor
  else do
    let fault ← flushHandle address
    setCell address (.handle { lines := 0 })
    handle.descriptor.forM fun descriptor => act (setDescriptor descriptor none)
    match handle.command, handle.status with
    | some words, _ => do
        let status ← feedProgram (String.join handle.kept.reverse) words
        pure (.answer (status = 0))
    | none, some status => do
        setChildStatus status
        pure (.answer (status = 0))
    | none, none => outcome fault

/-- Closes all open files that commands read. -/
def closeAll : Actor Unit := do
  (← get).handles.reverse.forM fun address => do
    if (← handleAt address).command.isSome then
      let _ ← closeHandle address

/-- The place in an open file of the next character. -/
def placeIn (address : Nat) : Actor (Option Nat) := do
  let _ ← flushHandle address
  let handle ← handleAt address
  match ← handle.descriptor.mapM fun descriptor => act (openFile? descriptor) with
  | some (some (_, file)) => do
      let offset ← if file.appends then do
          pure (max file.offset (← act (available { file with offset := 0, isReadable := true })).length)
        else pure file.offset
      pure (some (offset - handle.held.length))
  | _ => pure none

/-- Moves the place in an open file. -/
def moveTo (address : Nat) (place : Int) (way : Nat) : Actor Held := do
  let present ← placeIn address
  let handle ← handleAt address
  match ← handle.descriptor.mapM fun descriptor => act (openFile? descriptor) with
  | some (some (number, file)) => do
      let size := (← act (available { file with offset := 0, isReadable := true })).length
      let start : Int := match way with
        | 0 => 0
        | 1 => present.getD 0
        | _ => size
      act (setOffset number (start + place).toNat)
      modifyHandle address fun handle => { handle with held := [], isEnded := false }
      pure (.number 1)
  | _ => pure (.number 0)

end StaticMulticast.Host.Utility.Statement
