import StaticMulticast.Host.Utility.Date
import StaticMulticast.Host.Utility.File

/-!
# Programs that make files

They make directories, files and queues, and give files another length or another time.
-/

namespace StaticMulticast.Host.Utility

open Action

/-- Gives what stands at a place other rights, as a text asks for. -/
def setMode (text : String) (usual : Nat) (location : Location) : Action Unit := do
  match (← entryAt location), Shell.changedMode? text true usual with
  | some entry, some mode =>
      match entry.node? with
      | some node =>
          modifyFiles fun files => files.modifyNode node fun held => { held with mode }
      | none => pure ()
  | _, _ => pure ()

/-- The parts of a path up to each of its names. -/
def pathsDown (path : String) : List String :=
  let names := (Files.parts path).filter fun name => !name.isEmpty
  let front := if Files.isAbsolute path then "/" else ""
  (List.range names.length).map fun index =>
    front ++ String.intercalate "/" (names.take (index + 1))

/-- Makes directories. -/
def runMkdir (arguments : List String) : Action Nat := do
  let known : List Known := [⟨'p', "parents", .nothing⟩, ⟨'m', "mode", .text⟩,
    ⟨'v', "verbose", .nothing⟩, ⟨'Z', "", .nothing⟩]
  withOptions 1 known arguments fun given => do
    let isBad := (given.text? 'm').any fun text => (Shell.changedMode? text true 0).isNone
    if given.operands.isEmpty then refuseUse 1 "missing operand"
    else if isBad then refuse 1 ("invalid mode " ++ inQuotes ((given.text? 'm').getD ""))
    else forEach given.operands fun path =>
      if given.has 'p' then makeAll given (pathsDown path) else makeOne given path
where
  /-- The deed in a report. -/
  deed : String := "cannot create directory"
  /-- Gives the directory at a place the rights that are asked for. -/
  adjust (given : Given) (location : Location) : Action Unit := do
    match given.text? 'm' with
    | some text => setMode text (0x1FF - (← process).mask) location
    | none => pure ()
  /-- Makes one directory. -/
  makeOne (given : Given) (path : String) : Action Nat :=
    atPlace false deed path fun location entry => do
      if entry.isSome then failWith deed path .present
      else if !(← isDirectoryAt location.dropLast) then failWith deed path .missing
      else do
        putDirectory location
        adjust given location
        tell (given.has 'v') ("mkdir: created directory " ++ inQuotes path)
        pure 0
  /-- Makes those directories on the way down that are missing. -/
  makeAll (given : Given) : List String → Action Nat
    | [] => pure 0
    | path :: rest => do
        match ← place true path with
        | .error fault => failWith deed path fault
        | .ok location => do
            match ← entryAt location with
            | some (.directory _) => makeAll given rest
            | some _ =>
                failWith deed path (if rest.isEmpty then .present else .throughFile)
            | none => do
                putDirectory location
                if rest.isEmpty then adjust given location
                tell (given.has 'v') ("mkdir: created directory " ++ inQuotes path)
                makeAll given rest

/-- The time that the options of `touch` ask for. -/
def touchTime (given : Given) : Action (Except String Int) := do
  let present ← presentMoment
  let time (text : String) (moment : Option Text.Calendar.Moment) : Except String Int :=
    match moment with
    | some moment => .ok (Date.millionths moment)
    | none => .error ("invalid date format " ++ inQuotes text)
  match given.text? 'r', given.text? 't', given.text? 'd' with
  | some path, _, none => do
      match ← find? true path with
      | some found => pure (.ok found.time)
      | none =>
          pure (.error ("failed to get attributes of " ++ inQuotes path ++ ": " ++
            Fault.missing.reason))
  | some path, _, some text => do
      let moment := (← find? true path).map fun found =>
        Text.Calendar.Moment.ofMillionths found.time
      pure (time text (Date.moment? (moment.getD present) text))
  | none, some text, _ => pure (time text (Date.ofDigits? present text))
  | none, none, some text => pure (time text (Date.moment? present text))
  | none, none, none => .ok <$> now

/-- Makes files that are missing, and gives the others a new time. -/
def runTouch (arguments : List String) : Action Nat := do
  let known := [⟨'c', "no-create", .nothing⟩, ⟨'d', "date", .text⟩, ⟨'r', "reference", .text⟩,
    ⟨'h', "no-dereference", .nothing⟩, ⟨'T', "time", .text⟩] ++ knownLetters "amf" "t"
  withOptions 1 known arguments fun given => do
    match ← touchTime given with
    | .error message => refuse 1 message
    | .ok time =>
        if given.operands.isEmpty then refuseUse 1 "missing file operand"
        else forEach given.operands fun path => do
          let isThere := (← find? true path).isSome
          if given.has 'c' && !isThere then pure 0
          else do
            let status ← if isThere then pure 0 else makeFile "cannot touch" path
            let onlyRead := given.has 'a' && !given.has 'm'
            if status = 0 && !(onlyRead && isThere) then setTime path time
            pure status

/-- Makes a file or a directory with a new name, and writes its path. -/
def runMktemp (arguments : List String) : Action Nat := do
  let known : List Known := [⟨'d', "directory", .nothing⟩, ⟨'u', "dry-run", .nothing⟩,
    ⟨'q', "quiet", .nothing⟩, ⟨'p', "", .text⟩, ⟨'P', "tmpdir", .attached⟩, ⟨'t', "", .nothing⟩,
    ⟨'s', "suffix", .text⟩]
  withOptions 1 known arguments fun given => do
    let template := given.operands.headD "tmp.XXXXXXXXXX"
    let letters := template.toList
    let ending := (letters.reverse.takeWhile (· != 'X')).reverse
    let ending := if ending.contains '/' || given.has 's' then [] else ending
    let ending := ending ++ ((given.text? 's').getD "").toList
    let front := letters.take (letters.length - (if given.has 's' then 0 else ending.length))
    let marks := (front.reverse.takeWhile (· == 'X')).length
    let usual := (← parameter? "TMPDIR").getD "/tmp"
    let directory := match given.text? 'p', given.text? 'P' with
      | some path, _ | none, some path => if path.isEmpty then some usual else some path
      | none, none =>
          if given.operands.isEmpty || given.has 't' then some usual else none
    if marks < 3 then refuse 1 ("too few X's in template " ++ inQuotes template)
    else do
      let number := toString (← world).nextProcess
      let fresh := (List.replicate marks 'q') ++ number.toList
      let fresh := fresh.drop (fresh.length - marks)
      let name := String.ofList (front.take (front.length - marks) ++ fresh ++ ending)
      let path := match directory with
        | some directory => joinPath directory name
        | none => name
      modifyWorld fun world => { world with nextProcess := world.nextProcess + 1 }
      let deed := "failed to create file via template"
      let made ← if given.has 'u' then pure 0
        else if given.has 'd' then runMkdir ["-m", "700", path]
        else makeFile deed path
      if made != 0 then pure 1
      else do
        if !given.has 'u' && !given.has 'd' then
          match ← place true path with
          | .ok location => setMode "600" 0 location
          | .error _ => pure ()
        answer (path ++ "\n")

/-- The length that a text asks for in the place of another one: that length itself, or what is
added, or taken away, or bounds it, or a multiple. -/
def lengthFor? (text : String) : Option (Nat → Nat) :=
  match text.toList with
  | '+' :: rest => (amount? (String.ofList rest)).map fun number length => length + number
  | '-' :: rest => (amount? (String.ofList rest)).map fun number length => length - number
  | '<' :: rest => (amount? (String.ofList rest)).map fun number length => min length number
  | '>' :: rest => (amount? (String.ofList rest)).map fun number length => max length number
  | '/' :: rest => (amount? (String.ofList rest)).map fun number length => length / number * number
  | '%' :: rest =>
      (amount? (String.ofList rest)).map fun number length =>
        (length + number - 1) / number * number
  | _ => (amount? text).map fun number _ => number

/-- Gives files another length. -/
def runTruncate (arguments : List String) : Action Nat := do
  let known : List Known := [⟨'s', "size", .text⟩, ⟨'c', "no-create", .nothing⟩,
    ⟨'r', "reference", .text⟩, ⟨'o', "io-blocks", .nothing⟩]
  withOptions 1 known arguments fun given => do
    let base ← match given.text? 'r' with
      | none => pure none
      | some path => do pure ((← find? true path).map Found.size)
    let lengthOf : Option (Nat → Nat) := match given.text? 's', base with
      | none, some base => some fun _ => base
      | some text, some base => (lengthFor? text).map fun lengthOf _ => lengthOf base
      | some text, none => lengthFor? text
      | none, none => none
    match if given.operands.isEmpty then none else lengthOf with
    | none =>
        match given.text? 's' with
        | some text =>
            if given.operands.isEmpty then refuseUse 1 "missing file operand"
            else refuse 1 ("Invalid number: " ++ inQuotes text)
        | none => refuseUse 1 "you must specify either '--size' or '--reference'"
    | some lengthOf => forEach given.operands fun path => do
        let isThere := (← find? true path).isSome
        if given.has 'c' && !isThere then pure 0
        else do
          let made ← makeFile "cannot open" path
          match ← find? true path with
          | some { entry := .file node, .. } => do
              modifyOctets node fun octets =>
                let size := lengthOf octets.length
                octets.take size ++ List.replicate (size - octets.length) 0
              pure made
          | some _ => pure 1
          | none => pure made

/-- Makes a queue at the end of a path. -/
def makeQueue (mode : Option String) (path : String) : Action Nat :=
  let deed := "cannot create fifo"
  atPlace false deed path fun location entry => do
    if entry.isSome then failWith deed path .present
    else if !(← isDirectoryAt location.dropLast) then failWith deed path .missing
    else do
      let usual ← newMode 0x1B6
      let mode := (mode.bind fun text => Shell.changedMode? text false usual).getD usual
      let fresh : Node := { mode, time := ← now }
      modifyFiles fun files =>
        { files with nodes := files.nodes.push fresh }.put location
          (.device (.queue files.nodes.size))
      pure 0

/-- Makes queues. -/
def runMkfifo (arguments : List String) : Action Nat := do
  withOptions 1 [⟨'m', "mode", .text⟩, ⟨'Z', "", .nothing⟩] arguments fun given => do
    if given.operands.isEmpty then refuseUse 1 "missing operand"
    else forEach given.operands (makeQueue (given.text? 'm'))

/-- Makes a file of a kind. -/
def runMknod (arguments : List String) : Action Nat := do
  withOptions 1 [⟨'m', "mode", .text⟩, ⟨'Z', "", .nothing⟩] arguments fun given => do
    match given.operands with
    | [path, "p"] => makeQueue (given.text? 'm') path
    | [path, kind, _, _] =>
        if ["b", "c", "u"].contains kind then
          atPlace false "cannot create" path fun location entry => do
            if entry.isSome then failWith "cannot create" path .present
            else do
              modifyFiles fun files => files.put location (.device .sink)
              pure 0
        else refuseUse 1 ("invalid device type " ++ inQuotes kind)
    | _ => refuseUse 1 "missing operand"

end StaticMulticast.Host.Utility
