import StaticMulticast.Host.Process.Basic

/-!
# Reading and writing

A process reads and writes through its descriptors. Several descriptors can lead to one open file,
and then share the place in it.
-/

namespace StaticMulticast.Host.Action

/-- The path that an octet text stands for. -/
def pathOf (text : String) : String := Text.Octets.decode text

/-! ## Open files -/

/-- Adds an open file, and gives its number. -/
def addOpenFile (file : OpenFile) : Action Nat := do
  let number := (← world).openFiles.size
  modifyWorld fun world => { world with openFiles := world.openFiles.push file }
  pure number

/-- The open file of a descriptor, with its number. -/
def openFile? (descriptor : Nat) : Action (Option (Nat × OpenFile)) := do
  match (← process).descriptors.lookup descriptor with
  | none => pure none
  | some number => pure (((← world).openFiles[number]?).map fun file => (number, file))

/-- Lets a descriptor lead to an open file, or to none. -/
def setDescriptor (descriptor : Nat) (number : Option Nat) : Action Unit :=
  modifyProcess fun process =>
    let others := process.descriptors.filter fun other => other.1 != descriptor
    { process with
      descriptors := match number with
        | some number => (descriptor, number) :: others
        | none => others }

/-- Moves the place in an open file. -/
def setOffset (number offset : Nat) : Action Unit :=
  modifyWorld fun world =>
    { world with openFiles := world.openFiles.modify number fun file => { file with offset } }

/-- Makes a pipe, and gives the open files of its two ends: to read and to write. -/
def makePipe : Action (Nat × Nat) := do
  let number := (← world).pipes.size
  modifyWorld fun world => { world with pipes := world.pipes.push { start := world.clock } }
  let reading ← addOpenFile { stream := .pipe number, isWritable := false }
  let writing ← addOpenFile { stream := .pipe number, isReadable := false }
  pure (reading, writing)

/-- The rights of a file that the process makes. -/
def newMode (wanted : Nat) : Action Nat := do
  let mask := (← process).mask
  pure (wanted - (wanted &&& mask))

/-- The octets that a node holds. -/
def nodeOctets (node : Nat) : Action (List UInt8) := do
  pure ((((← files).node? node).map Node.octets).getD [])

/-- How something is to be opened. -/
inductive Manner where
  | reading
  | writing
  /-- A file that is there must not be replaced. -/
  | making
  | appending
  | both

/-- What is read is also written. -/
def Manner.isBoth : Manner → Bool
  | .both => true
  | _ => false

/-- The octets that are there are dropped. -/
def Manner.empties : Manner → Bool
  | .writing | .making => true
  | _ => false

/-- What stands there already is kept. -/
def Manner.keeps : Manner → Bool
  | .making => true
  | _ => false

/-- Octets are added at the end. -/
def Manner.appends : Manner → Bool
  | .appending => true
  | _ => false

/-- Opens for reading only. -/
def Manner.reads : Manner → Bool
  | .reading => true
  | _ => false

/-- Adds an open file for a stream in some manner, and gives its number. -/
def openStream (stream : Stream) (manner : Manner) : Action Nat := do
  match stream with
  | .opened (.file node) =>
      if manner.empties then
        modifyOctets node fun _ => []
  | _ => pure ()
  addOpenFile
    { stream
      isReadable := manner.reads || manner.isBoth
      isWritable := !manner.reads
      appends := manner.appends }

/-- Opens once more what has been opened. A device that stands for a descriptor leads to where the
descriptor does. -/
def openAgain (opened : Opened) (manner : Manner) : Action (Except Fault Nat) := do
  match opened with
  | .device (.descriptor number) => do
      match ← openFile? number with
      | some (_, file) => .ok <$> openStream file.stream manner
      | none => pure (.error .missing)
  | _ => .ok <$> openStream (.opened opened) manner

/-- Opens a path, and gives the number of the open file. -/
def openPath (path : String) (manner : Manner) : Action (Except Fault Nat) := do
  let working := (← process).working
  let path := pathOf path
  let known := (← files).openToRead working path
  let isLink := (known matches .error _) && ((← files).lookup false working path) matches .ok _
  match manner, known with
  | .reading, .error fault => pure (.error fault)
  | .reading, .ok opened => openAgain opened manner
  | .making, .ok (.file _) => pure (.error .present)
  | .making, .ok (.directory _) => pure (.error .directory)
  | _, _ => do
    if isLink && manner.keeps then pure (.error .present)
    else do
      let fresh : Node := { mode := ← newMode 0x1B6, time := ← now }
      match (← files).openToWrite working path fresh with
      | .error fault => pure (.error fault)
      | .ok (opened, changed) => do
          modifyFiles fun _ => changed
          openAgain opened manner

/-! ## Reading -/

/-- The number of octets that a device without an end is taken to hold. -/
def longDevice : Nat := 0x200000

/-- Octets that look as if they had been drawn by lot, so many of them. They grow out of a seed. -/
def lotOctets : Nat → Nat → List UInt8 → List UInt8
  | 0, _, done => done
  | count + 1, seed, done =>
      let next := (seed * 0x5851F42D4C957F2D + 0x14057B7EF767814F) % 0x10000000000000000
      lotOctets count next ((next / 0x100000000000000).toUInt8 :: done)

/-- The number of octets that are drawn by lot. -/
def mostLots : Nat := 0x20000

/-- The octets that can still be read from an open file. -/
def available (file : OpenFile) : Action (List UInt8) := do
  if !file.isReadable then pure []
  else match file.stream with
  | .opened (.file node) => do pure ((← nodeOctets node).drop file.offset)
  | .opened (.device .zeros) | .opened (.device .full) => pure (List.replicate longDevice 0)
  | .opened (.device .lots) => do
      let world ← world
      pure (lotOctets mostLots (world.clock + 0x10001 * world.openFiles.size + file.offset) [])
  | .opened (.device (.queue node)) => nodeOctets node
  | .pipe number => do pure ((((← world).pipes[number]?).map Pipe.held).getD [])
  | _ => pure []

/-- Takes a number of octets from an open file. -/
def advance (number : Nat) (file : OpenFile) (count : Nat) : Action Unit :=
  match file.stream with
  | .pipe pipe =>
      modifyWorld fun world =>
        { world with pipes := world.pipes.modify pipe fun pipe => pipe.pass count }
  | .opened (.device (.queue node)) => modifyOctets node fun held => held.drop count
  | _ => setOffset number (file.offset + count)

/-- What can be read from an open file is a directory. -/
def isDirectory (file : OpenFile) : Bool :=
  match file.stream with
  | .opened (.directory _) => true
  | _ => false

/-- Reads octets from an open file: so many of those that are there as a function tells. -/
def readOpen (number : Nat) (file : OpenFile) (count : List UInt8 → Nat) :
    Action (Except Fault (List UInt8)) := do
  if isDirectory file then pure (.error .directory)
  else if !file.isReadable then pure (.error .badDescriptor)
  else do
    let octets ← available file
    let taken := octets.take (count octets)
    advance number file taken.length
    pure (.ok taken)

/-- Reads octets through a descriptor. -/
def readSome (descriptor : Nat) (count : List UInt8 → Nat) :
    Action (Except Fault (List UInt8)) := do
  match ← openFile? descriptor with
  | none => pure (.error .badDescriptor)
  | some (number, file) => readOpen number file count

/-- Reads all that there is. -/
def readAll (descriptor : Nat) : Action (Except Fault (List UInt8)) :=
  readSome descriptor List.length

/-- Reads a line with its end, or what there is if no line ends. -/
def readLine (descriptor : Nat) (ending : UInt8) : Action (Except Fault (List UInt8)) :=
  readSome descriptor fun octets => (octets.takeWhile (· != ending)).length + 1

/-- Reads all of a file at the end of a path. -/
def readPath (path : String) : Action (Except Fault (List UInt8)) := do
  match ← openPath path .reading with
  | .error fault => pure (.error fault)
  | .ok number =>
      match (← world).openFiles[number]? with
      | some file => readOpen number file List.length
      | none => pure (.error .badDescriptor)

/-! ## Writing -/

/-- Octets with others in the place of some of them. -/
def overwrite (held octets : List UInt8) (offset : Nat) : List UInt8 :=
  let before := held.take offset
  before ++ List.replicate (offset - before.length) 0 ++ octets ++
    held.drop (offset + octets.length)

/-- The signal for a process that writes to a pipe from which nobody reads. -/
def pipeSignal : Nat := 13

/-- Nobody reads what the process writes, which ends it unless it passes the signal over. -/
def stopWriting : Action (Option Fault) := do
  if (← process).passedOver.contains pipeSignal then pure (some .brokenPipe)
  else throw (.killed pipeSignal)

/-- Writes octets to a pipe, as far as there is room for them. -/
def writeToPipe (number : Nat) (octets : List UInt8) : Action (Option Fault) := do
  match (← world).pipes[number]? with
  | none => pure (some .badDescriptor)
  | some pipe =>
      let fitting := pipe.fitting octets
      let isFull := fitting < octets.length
      let written := if isFull then octets.take fitting else octets
      modifyWorld fun world =>
        { world with pipes := world.pipes.modify number fun pipe =>
            { pipe.push written with isFull := pipe.isFull || isFull } }
      if isFull then stopWriting else pure none

/-- The number of octets that a queue holds. -/
def queueRoom : Nat := 0x100000

/-- The signal for a process that makes a file too long. -/
def lengthSignal : Nat := 25

/-- The length up to which the process may make a file, if it has a limit. -/
def lengthLimit : Action (Option Nat) := do
  pure (((← process).resources.lookup 'f').bind fun limits => limits.1)

/-- Writes octets to a file. What is behind the limit for its length is not written, and ends the
process unless it passes the signal over. -/
def writeToFile (number node : Nat) (file : OpenFile) (octets : List UInt8) :
    Action (Option Fault) := do
  let limit ← lengthLimit
  let start ← if file.appends && limit.isSome then do pure (← nodeOctets node).length
    else pure file.offset
  let room := (limit.map fun limit => limit - start).getD octets.length
  let written := octets.take room
  if file.appends then modifyOctets node fun held => held ++ written
  else do
    modifyOctets node fun held => overwrite held written file.offset
    setOffset number (file.offset + written.length)
  if octets.length ≤ room then pure none
  else if (← process).passedOver.contains lengthSignal then pure (some (.system 27))
  else throw (.killed lengthSignal)

/-- Writes octets. -/
def writeOctets (descriptor : Nat) (octets : List UInt8) : Action (Option Fault) := do
  match ← openFile? descriptor with
  | none => pure (some .badDescriptor)
  | some (number, file) =>
      if !file.isWritable then pure (some .badDescriptor)
      else match file.stream with
      | .opened (.file node) => writeToFile number node file octets
      | .pipe pipe => writeToPipe pipe octets
      | .outside => do
          modifyWorld fun world => { world with output := world.output ++ octets }
          pure none
      | .messages => do
          modifyWorld fun world => { world with messages := world.messages ++ octets }
          pure none
      | .opened (.device (.queue node)) => do
          modifyOctets node fun held => held ++ octets
          if queueRoom < (← nodeOctets node).length then stopWriting else pure none
      | .opened (.device .full) => pure (if octets.isEmpty then none else some .noSpace)
      | .opened _ => pure none
      | .empty => pure none

/-- Writes an octet text. -/
def write (descriptor : Nat) (text : String) : Action (Option Fault) :=
  writeOctets descriptor (Text.Octets.toList text)

/-- What stands in front of a message: the name of the program or, in a script, that of the script
and the line. In the plain language the command of the shell follows that runs. -/
def messageFront : Action String := do
  let process ← process
  let name := if process.dialect = .extended then process.source else process.name
  let running := match process.running, process.dialect with
    | some running, .plain => running ++ ": "
    | _, _ => ""
  pure (name ++ ": " ++
    if process.shellNumber = 0 then ""
    else (if process.dialect = .extended then "line " else "") ++ toString process.line ++ ": " ++
      running)

/-- Writes a message. -/
def complain (text : String) : Action Unit := do
  let _ ← write 2 ((← messageFront) ++ text ++ "\n")

/-- Writes a message of the command of the shell that runs. -/
def protest (text : String) : Action Unit := do
  let { running, dialect, .. } ← process
  match running, dialect with
  | some running, .extended => complain (running ++ ": " ++ text)
  | _, _ => complain text

/-- Does something for a command of the shell, or for none, which is the one that runs meanwhile. -/
def whileRunning {Result : Type} (command : Option String) (body : Action Result) :
    Action Result := do
  let running := (← process).running
  modifyProcess fun process => { process with running := command }
  let result ← attempt body
  modifyProcess fun process => { process with running }
  match result with
  | .ok result => pure result
  | .error jump => throw jump

/-- Does something for a command of the shell, which is the one that runs meanwhile. -/
def asCommand {Result : Type} (name : String) (body : Action Result) : Action Result :=
  whileRunning (some name) body

/-- Writes a message without the line of the script. -/
def complainBriefly (text : String) : Action Unit := do
  let _ ← write 2 (text ++ "\n")

/-- Writes output, and gives the status that follows. -/
def answer (text : String) : Action Nat := do
  pure (if (← write 1 text).isSome then 1 else 0)

end StaticMulticast.Host.Action
