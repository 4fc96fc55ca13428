import StaticMulticast.Host.Account
import StaticMulticast.Host.Files
import StaticMulticast.Host.Shell.Builtin.Control
import StaticMulticast.Host.Utility.Input

/-!
# Programs that change files

The places of files, and the programs that remove them, change their rights or tell their paths.
-/

/-!
## Places of files

What the programs that change files have in common: the places that their operands lead to, and the
reports about those with which something cannot be done.
-/

namespace StaticMulticast.Host.Utility

open Action

/-- The place that a path leads to. Whether a link at its end is to be followed is given first. -/
def place (through : Bool) (path : String) : Action (Except Fault Location) := do
  pure ((← files).locate through (← process).working (pathOf path))

/-- What stands at a place. -/
def entryAt (location : Location) : Action (Option Entry) := do
  pure ((← files).get? location)

/-- Fails with a fault of something that should have been done. -/
def failWith (deed path : String) (fault : Fault) : Action Nat := do
  reportThat deed path fault
  pure 1

/-- Does something at the place that a path leads to, or fails. -/
def atPlace (through : Bool) (deed path : String) (body : Location → Option Entry → Action Nat) :
    Action Nat := do
  match ← place through path with
  | .error fault => failWith deed path fault
  | .ok location => do body location (← entryAt location)

/-- A directory with this place exists. -/
def isDirectoryAt (location : Location) : Action Bool := do
  pure ((← entryAt location).any Entry.isDirectory)

/-- The path leads to a directory. -/
def leadsToDirectory (path : String) : Action Bool := do
  pure ((← find? true path).any Found.isDirectory)

/-- Writes a line, if that is wanted. -/
def tell (isWanted : Bool) (line : String) : Action Unit := do
  if isWanted then
    let _ ← answer (line ++ "\n")

/-- The node of a directory that is made. -/
def freshDirectory : Action Node := do
  pure { mode := ← newMode 0x1FF, time := ← now }

/-- Puts a directory at a place. -/
def putDirectory (location : Location) : Action Unit := do
  let fresh ← freshDirectory
  modifyFiles fun files => files.putDirectory location fresh

/-- The way from a directory to a place. -/
def relativePath (start target : Location) : String :=
  let shared := ((start.zip target).takeWhile fun pair => pair.1 = pair.2).length
  let up := List.replicate (start.length - shared) ".."
  let way := up ++ target.drop shared
  if way.isEmpty then "." else String.intercalate "/" way

/-- Gives the node at the end of a path a time. -/
def setTime (path : String) (time : Int) : Action Unit := do
  match (← find? true path).bind fun found => found.entry.node? with
  | some node =>
      modifyFiles fun files => files.modifyNode node fun held => { held with time }
  | none => pure ()

/-- Makes a file where there is none, with the rights of a new one. -/
def makeFile (deed path : String) : Action Nat := do
  match ← openPath path .appending with
  | .ok _ => pure 0
  | .error fault => failWith deed path fault

end StaticMulticast.Host.Utility

/-!
## Programs that remove files

They remove files, links and directories. Each goes on after an operand that it fails with.
-/

namespace StaticMulticast.Host.Utility

open Action

/-- Takes a place and all below it away, what is below first, and tells of it. -/
def removeBelow (tells : Bool) : Nat → String → Location → Action Unit
  | 0, _, _ => pure ()
  | bound + 1, path, location => do
      let isDirectory ← isDirectoryAt location
      if tells && isDirectory then
        let names := ((← files).names location).map Text.Octets.encode
        names.forM fun name =>
          removeBelow tells bound (joinPath path name) (location ++ [pathOf name])
      modifyFiles fun files => files.prune location
      tell tells ((if isDirectory then "removed directory " else "removed ") ++ inQuotes path)

/-- The mark of the option to ask before each removal. It has no letter. -/
def askMark : Char := Char.ofNat 1

/-- Removes operands. A question that the input gives no answer to is answered with no. -/
def runRm (arguments : List String) : Action Nat := do
  let known : List Known := [⟨'f', "force", .nothing⟩, ⟨'r', "recursive", .nothing⟩,
    ⟨'R', "", .nothing⟩, ⟨'d', "dir", .nothing⟩, ⟨'i', "", .nothing⟩, ⟨'I', "", .nothing⟩,
    ⟨'v', "verbose", .nothing⟩, ⟨Char.ofNat 2, "preserve-root", .attached⟩,
    ⟨Char.ofNat 2, "no-preserve-root", .nothing⟩, ⟨askMark, "interactive", .attached⟩,
    ⟨Char.ofNat 2, "one-file-system", .nothing⟩]
  withOptions 1 known arguments fun given => do
    let last := given.options.reverse.find? fun option =>
      ['f', 'i', askMark].contains option.1
    let isForced := last.any fun option => option.1 = 'f' || option.2 = "never"
    let asks := last.any fun option =>
      option.1 = 'i' || (option.1 = askMark && ["", "always"].contains option.2)
    let isDeep := given.has 'r' || given.has 'R'
    let tells := given.has 'v'
    if given.operands.isEmpty then
      if isForced then pure 0 else refuseUse 1 "missing operand"
    else forEach given.operands fun path => do
      let fail (fault : Fault) : Action Nat := failWith "cannot remove" path fault
      match ← place false path with
      | .error fault =>
          if isForced && (fault = .missing || fault = .throughFile) then pure 0 else fail fault
      | .ok location => do
          match ← entryAt location with
          | none => if isForced then pure 0 else fail .missing
          | some (.directory _) =>
              if [".", ".."].contains (lastName path) then
                refuse 1 ("refusing to remove '.' or '..' directory: skipping " ++ inQuotes path)
              else if lastName path = "/" then
                refuse 1 "it is dangerous to operate recursively on '/'"
              else if isDeep || (given.has 'd' && ((← files).names location).isEmpty) then
                remove asks tells path location
              else if given.has 'd' then fail (.system 39)
              else fail .directory
          | some _ => remove asks tells path location
where
  /-- Takes a place away, unless the answer to a question is no. -/
  remove (asks tells : Bool) (path : String) (location : Location) : Action Nat := do
    let agreed ← if !asks then pure true
      else do
        let _ ← write 2 ((← process).name ++ ": remove " ++ inQuotes path ++ "? ")
        match ← readLine 0 0xA with
        | .ok line => pure ((line.head?.map Char.ofUInt8).any fun letter =>
            letter = 'y' || letter = 'Y')
        | .error _ => pure false
    if agreed then removeBelow tells 64 path location
    pure 0

/-- Removes a single file. -/
def runUnlink (arguments : List String) : Action Nat := do
  let deed := "cannot unlink"
  match arguments with
  | [path] =>
      atPlace false deed path fun location entry => do
        match entry with
        | none => failWith deed path .missing
        | some (.directory _) => failWith deed path .directory
        | some _ => do
            modifyFiles fun files => files.prune location
            pure 0
  | [] => refuseUse 1 "missing operand"
  | _ :: other :: _ => refuseUse 1 ("extra operand " ++ inQuotes other)

/-- A path and those of the directories that it stands in. The bound is on their number. -/
def pathsAbove : Nat → String → List String
  | 0, _ => []
  | bound + 1, path =>
      let above := (path.toList.reverse.dropWhile (· == '/')).dropWhile (· != '/')
      let above := above.dropWhile (· == '/')
      if above.isEmpty then [path] else path :: pathsAbove bound (String.ofList above.reverse)

/-- Removes empty directories. -/
def runRmdir (arguments : List String) : Action Nat := do
  let known : List Known := [⟨'p', "parents", .nothing⟩, ⟨'v', "verbose", .nothing⟩,
    ⟨'n', "ignore-fail-on-non-empty", .nothing⟩]
  withOptions 1 known arguments fun given => do
    if given.operands.isEmpty then refuseUse 1 "missing operand"
    else forEach given.operands fun path =>
      removeAll given (if given.has 'p' then pathsAbove path.length path else [path])
where
  /-- Removes directories up to one with which that fails. -/
  removeAll (given : Given) : List String → Action Nat
    | [] => pure 0
    | path :: rest => do
        let deed := "failed to remove"
        tell (given.has 'v') ("rmdir: removing directory, " ++ inQuotes path)
        let status ← atPlace false deed path fun location entry => do
          match entry with
          | some (.directory _) =>
              if !((← files).names location).isEmpty then
                if given.has 'n' then pure 2 else failWith deed path (.system 39)
              else do
                modifyFiles fun files => files.prune location
                pure 0
          | some _ => failWith deed path .throughFile
          | none => failWith deed path .missing
        match status with
        | 0 => removeAll given rest
        | 2 => pure 0
        | _ => pure 1

end StaticMulticast.Host.Utility

/-!
## Programs that change rights

They say who may do what with a file, and whom it belongs to.
-/

namespace StaticMulticast.Host.Utility

open Action

/-- The user and the group that a text tells: a name or a number of a user, and one of a group behind
a colon. A user without a group behind the colon means the first group of that user. -/
def owners? (text : String) : Option (Option Nat × Option Nat) := do
  let mark := if text.toList.contains ':' then ':' else '.'
  let hasMark := text.toList.contains ':' || (text.toList.contains '.' && text.toNat?.isNone)
  let (user, rest) := if hasMark then text.toList.span (· != mark) else (text.toList, [])
  let user := String.ofList user
  let group := String.ofList rest.tail
  let account := Account.named? user
  let owner ← if user.isEmpty then some none
    else ((account.map Account.number).orElse fun _ => user.toNat?).map some
  let group ← if group.isEmpty then
      some (if rest.isEmpty || user.isEmpty then none else account.map Account.group)
    else ((groupNumbers.lookup group).orElse fun _ => group.toNat?).map some
  some (owner, group)

/-- How files are to change hands: whom they are given to, and what is told of it. -/
structure Handing where
  owner : Option Nat
  group : Option Nat
  isDeep : Bool
  through : Bool
  tells : Bool
  /-- Only changes are told. -/
  tellsChanges : Bool
  /-- Only the group is meant. -/
  isGroup : Bool

/-- The names of a user and a group as they are told. -/
def Handing.shown (handing : Handing) (owner group : Nat) : String :=
  if handing.isGroup then groupName group
  else if handing.group.isNone then Account.nameOf owner
  else if handing.owner.isNone then groupName group
  else Account.nameOf owner ++ ":" ++ groupName group

/-- Gives what is at a path, and below it if that is wanted, to somebody. The bound is on the depth.
-/
def handOver (handing : Handing) : Nat → String → Found → Action Nat
  | 0, _, _ => pure 1
  | bound + 1, path, found => do
      match found.entry.node?, found.node with
      | some number, some held => do
          let owner := handing.owner.getD held.owner
          let group := handing.group.getD held.group
          modifyFiles fun files => files.modifyNode number fun held => { held with owner, group }
          let isSame := owner = held.owner && group = held.group
          let noun := if handing.isGroup || handing.owner.isNone then "group" else "ownership"
          tell (handing.tells || (handing.tellsChanges && !isSame))
            (if isSame then noun ++ " of " ++ inQuotes path ++ " retained as " ++
              handing.shown held.owner held.group
            else "changed " ++ noun ++ " of " ++ inQuotes path ++ " from " ++
              handing.shown held.owner held.group ++ " to " ++ handing.shown owner group)
      | _, _ => pure ()
      if handing.isDeep && found.isDirectory then do
        let names := ((← files).names found.location).map Text.Octets.encode
        let statuses ← names.mapM fun name => do
          match ← find? false (joinPath path name) with
          | some inner => handOver handing bound (joinPath path name) inner
          | none => pure 0
        pure (statuses.foldl max 0)
      else pure 0

/-- The options of `chown` and `chgrp`. -/
def ownerOptions : List Known :=
  [⟨'R', "recursive", .nothing⟩, ⟨'c', "changes", .nothing⟩, ⟨'f', "silent", .nothing⟩,
    ⟨'f', "quiet", .nothing⟩, ⟨'v', "verbose", .nothing⟩, ⟨'h', "no-dereference", .nothing⟩,
    ⟨Char.ofNat 1, "dereference", .nothing⟩, ⟨Char.ofNat 2, "from", .text⟩,
    ⟨'r', "reference", .text⟩, ⟨'H', "", .nothing⟩, ⟨'L', "", .nothing⟩, ⟨'P', "", .nothing⟩,
    ⟨Char.ofNat 3, "preserve-root", .nothing⟩, ⟨Char.ofNat 4, "no-preserve-root", .nothing⟩]

/-- Gives files to a user or a group. -/
def runChown (isGroup : Bool) (arguments : List String) : Action Nat := do
  withOptions 1 ownerOptions arguments fun given => do
    let copied ← match given.text? 'r' with
      | some path => do pure (← find? true path)
      | none => pure none
    let (owner, paths) := if given.has 'r' then ("", given.operands)
      else (given.operands.headD "", given.operands.tail)
    let told := if isGroup then owners? (":" ++ owner) else owners? owner
    if given.has 'r' && copied.isNone then
      refuse 1 ("failed to get attributes of " ++ inQuotes ((given.text? 'r').getD "") ++ ": " ++
        Fault.missing.reason)
    else if paths.isEmpty then
      refuseUse 1 (if given.operands.isEmpty then "missing operand"
        else "missing operand after " ++ inQuotes owner)
    else
      let meant := match copied.bind Found.node with
        | some held => some ((if isGroup then none else some held.owner), some held.group)
        | none => told
      match meant with
      | none =>
          let user := String.ofList (owner.toList.takeWhile (· != ':'))
          let isUser := !isGroup && (owners? user).isNone
          refuse 1 ((if isUser then "invalid user: " else "invalid group: ") ++ inQuotes owner)
      | some (owner, group) =>
          let handing : Handing := ⟨owner, group, given.has 'R', !given.has 'h', given.has 'v',
            given.has 'c', isGroup⟩
          forEach paths fun path => do
            match ← find? handing.through path with
            | some found => handOver handing 64 path found
            | none => if given.has 'f' then pure 1 else failWith "cannot access" path .missing

/-- The argument is a mode, although it begins with a minus sign. -/
def isMinusMode (argument : String) : Bool :=
  match argument.toList with
  | '-' :: first :: rest => (first :: rest).all ("rwxXstugoa,=+-01234567".toList).contains
  | _ => false

/-- The nine letters of rights, with those for programs that run as somebody else. -/
def modeLetters (mode : Nat) : String :=
  let bit (value : Nat) : Bool := mode &&& value != 0
  let letter (value : Nat) (letter : Char) : Char := if bit value then letter else '-'
  let last (run special : Nat) (both alone : Char) : Char :=
    if bit special then (if bit run then both else alone) else letter run 'x'
  String.ofList [letter 0x100 'r', letter 0x80 'w', last 0x40 0x800 's' 'S', letter 0x20 'r',
    letter 0x10 'w', last 0x8 0x400 's' 'S', letter 0x4 'r', letter 0x2 'w',
    last 0x1 0x200 't' 'T']

/-- What is told about rights: four octal digits and nine letters. -/
def modeText (mode : Nat) : String :=
  Shell.octalText mode ++ " (" ++ modeLetters mode ++ ")"

/-- How rights are to change: as a text asks for, or to be those of another file. -/
structure RightChange where
  text : String
  copied : Option Nat
  isDeep : Bool
  tells : Bool
  /-- Only changes are told. -/
  tellsChanges : Bool

/-- The rights after a change. A directory keeps the rights to run as somebody else, unless there
are five digits. -/
def RightChange.mode? (change : RightChange) (isDirectory : Bool) (mode mask : Nat) :
    Option Nat :=
  match change.copied with
  | some copied => some copied
  | none =>
      let first := change.text.toList.head?
      let isBare := first.any fun letter => ['+', '-', '='].contains letter
      match Shell.changedMode? change.text isDirectory mode with
      | some changed =>
          let keeps := isDirectory && first.any Char.isDigit && change.text.length < 5
          let changed := if keeps then changed ||| (mode &&& 0xC00) else changed
          some (if isBare then (changed &&& (0xFFF - mask)) ||| (mode &&& mask) else changed)
      | none => none

/-- Changes the rights at a path and, if that is wanted, below it. The bound is on the depth. -/
def changeRights (change : RightChange) : Nat → String → Found → Action Nat
  | 0, _, _ => pure 1
  | bound + 1, path, found => do
      let own ← match found.entry.node? with
        | none => pure 0
        | some node =>
            match change.mode? found.isDirectory found.mode (← process).mask with
            | none => pure 1
            | some mode => do
                modifyFiles fun files => files.modifyNode node fun held => { held with mode }
                let isSame := mode = found.mode
                tell (change.tells || (change.tellsChanges && !isSame))
                  (if isSame then "mode of " ++ inQuotes path ++ " retained as " ++ modeText mode
                  else "mode of " ++ inQuotes path ++ " changed from " ++ modeText found.mode ++
                    " to " ++ modeText mode)
                pure 0
      if change.isDeep && found.isDirectory then do
        let names := ((← files).names found.location).map Text.Octets.encode
        let statuses ← names.mapM fun name => do
          match ← find? false (joinPath path name) with
          | some inner =>
              if inner.isLink then pure 0
              else changeRights change bound (joinPath path name) inner
          | none => pure 0
        pure (statuses.foldl max own)
      else pure own

/-- Changes rights. -/
def runChmod (arguments : List String) : Action Nat := do
  let modes := arguments.filter isMinusMode
  let known : List Known := [⟨'R', "recursive", .nothing⟩, ⟨'f', "silent", .nothing⟩,
    ⟨'f', "quiet", .nothing⟩, ⟨'v', "verbose", .nothing⟩, ⟨'c', "changes", .nothing⟩,
    ⟨'r', "reference", .text⟩]
  withOptions 1 known (arguments.filter fun argument => !isMinusMode argument) fun given => do
    let copied ← match given.text? 'r' with
      | none => pure none
      | some path => do pure ((← find? true path).map Found.mode)
    let (mode, paths) := match modes with
      | mode :: _ => (mode, given.operands)
      | [] =>
          if given.has 'r' then ("", given.operands)
          else (given.operands.headD "", given.operands.tail)
    if given.has 'r' && copied.isNone then
      refuse 1 ("failed to get attributes of " ++ inQuotes ((given.text? 'r').getD "") ++ ": " ++
        Fault.missing.reason)
    else if paths.isEmpty then
      refuseUse 1 (if mode.isEmpty then "missing operand"
        else "missing operand after " ++ inQuotes mode)
    else if copied.isNone && (Shell.changedMode? mode false 0).isNone then
      refuseUse 1 ("invalid mode: " ++ inQuotes mode)
    else forEach paths fun path => do
      match ← find? true path with
      | none =>
          if given.has 'f' then pure 1 else failWith "cannot access" path .missing
      | some found =>
          changeRights ⟨mode, copied, given.has 'R', given.has 'v', given.has 'c'⟩ 64 path found

end StaticMulticast.Host.Utility

/-!
## Programs about paths

They write the parts of paths, and where paths lead to.
-/

namespace StaticMulticast.Host.Utility

open Action

/-- The path of the directory that a path leads into. -/
def directoryPart (path : String) : String :=
  let reversed := (path.toList.reverse.dropWhile (· == '/')).dropWhile (· != '/')
  let above := reversed.dropWhile (· == '/')
  if !above.isEmpty then String.ofList above.reverse
  else if path.toList.head? = some '/' then "/"
  else "."

/-- What ends each path that is written. -/
def pathEnd (given : Given) : String :=
  if given.has 'z' then String.singleton (Char.ofNat 0) else "\n"

/-- Writes the last names of paths, without an ending. -/
def runBasename (arguments : List String) : Action Nat := do
  let known : List Known := [⟨'a', "multiple", .nothing⟩, ⟨'s', "suffix", .text⟩,
    ⟨'z', "zero", .nothing⟩]
  match readLeading known arguments with
  | none => refuseUse 1 (optionFault known arguments)
  | some given =>
      let without (ending path : String) : String :=
        let name := lastName path
        let fits := ending.toList.isSuffixOf name.toList && ending.length < name.length
        if fits then String.ofList (name.toList.take (name.length - ending.length)) else name
      let all (paths : List String) (ending : String) : Action Nat :=
        answer (String.join (paths.map fun path => without ending path ++ pathEnd given))
      match given.operands with
      | [] => refuseUse 1 "missing operand"
      | paths =>
          if given.has 'a' || given.has 's' then all paths ((given.text? 's').getD "")
          else match paths with
          | [path] => all [path] ""
          | [path, ending] => all [path] ending
          | _ => refuseUse 1 ("extra operand " ++ inQuotes ((paths[2]?).getD ""))

/-- Writes the directories of paths. -/
def runDirname (arguments : List String) : Action Nat := do
  withOptions 1 [⟨'z', "zero", .nothing⟩] arguments fun given => do
    if given.operands.isEmpty then refuseUse 1 "missing operand"
    else answer (String.join (given.operands.map fun path => directoryPart path ++ pathEnd given))

/-- Writes the path of the working directory, or the one that a variable has for it. -/
def runPwdProgram (arguments : List String) : Action Nat := do
  withOptions 1 [⟨'L', "logical", .nothing⟩, ⟨'P', "physical", .nothing⟩] arguments fun given => do
    let { working, .. } ← process
    let path ← parameter "PWD"
    let isPlain := !(Files.parts path).any fun part => part = "." || part = ".."
    let isValid := path.toList.head? = some '/' && isPlain &&
      (← find? true path).any fun found => found.location = working
    let wantsPath := given.options.getLast?.any fun option => option.1 = 'L'
    if !given.operands.isEmpty then complain "ignoring non-option arguments"
    answer ((if wantsPath && isValid then path
      else Text.Octets.encode (Files.pathOf working)) ++ "\n")

/-- The place that a path leads to, where parts may be missing. Links on the way are followed as
long as there is something. -/
def looseLocation (files : Files) (working : Location) (path : String) : Location :=
  let step (location : Location) (part : String) : Location :=
    if part = "" || part = "." then location
    else if part = ".." then location.dropLast
    else
      let next := location ++ [part]
      match files.locate true [] (Files.pathOf next) with
      | .ok place => place
      | .error _ => next
  (Files.parts path).foldl step (Files.origin working path)

/-- The place that a path names without following links. -/
def plainLocation (working : Location) (path : String) : Location :=
  (Files.parts path).foldl (fun location part =>
    if part = "" || part = "." then location
    else if part = ".." then location.dropLast
    else location ++ [part]) (Files.origin working path)

/-- Which parts of a path must exist to be resolved: all of them, all but the last one, or none. -/
inductive Needed where
  | all
  | directories
  | none
deriving DecidableEq, Repr

/-- The place that a path leads to, over all links. -/
def realLocation (needed : Needed) (path : String) : Action (Except Fault Location) := do
  let working := (← process).working
  let files ← files
  match needed with
  | .none => pure (if path.isEmpty then .error .missing
      else .ok (looseLocation files working (pathOf path)))
  | _ =>
      match files.locate true working (pathOf path) with
      | .error fault =>
          let bare := String.ofList (path.toList.reverse.dropWhile (· == '/')).reverse
          if needed = .directories && bare != path then
            pure (files.locate true working (pathOf bare))
          else pure (.error fault)
      | .ok location =>
          let isThere := (files.get? location).isSome
          if isThere || (needed = .directories && files.hasDirectory location.dropLast) then
            pure (.ok location)
          else pure (.error .missing)

/-- Which parts the options ask for, the last one of them deciding. -/
def neededParts (usual : Needed) (given : Given) : Needed :=
  given.options.foldl (fun needed (letter, _) =>
    match letter with
    | 'e' => .all
    | 'f' => .directories
    | 'm' => .none
    | _ => needed) usual

/-- Writes where links lead to: the next path or, if that is wanted, the last one. -/
def runReadlink (arguments : List String) : Action Nat := do
  let known : List Known := [⟨'f', "canonicalize", .nothing⟩,
    ⟨'e', "canonicalize-existing", .nothing⟩, ⟨'m', "canonicalize-missing", .nothing⟩,
    ⟨'n', "no-newline", .nothing⟩, ⟨'q', "quiet", .nothing⟩, ⟨'s', "silent", .nothing⟩,
    ⟨'v', "verbose", .nothing⟩, ⟨'z', "zero", .nothing⟩]
  withOptions 1 known arguments fun given => do
    let follows := ['f', 'e', 'm'].any given.has
    let ending := if given.has 'n' && given.operands.length = 1 then "" else pathEnd given
    if given.operands.isEmpty then refuseUse 1 "missing operand"
    else forEach given.operands fun path => do
      let files ← files
      let result ← if follows then do
          pure ((← realLocation (neededParts .directories given) path).map Files.pathOf)
        else match files.lookup false (← process).working (pathOf path) with
          | .ok (.link target) => pure (.ok target)
          | .ok _ => pure (.error .invalid)
          | .error fault => pure (.error fault)
      match result with
      | .ok target => answer (Text.Octets.encode target ++ ending)
      | .error fault => do
          if given.has 'v' then report path fault
          pure 1

/-- Writes where paths lead to over all links. -/
def runRealpath (arguments : List String) : Action Nat := do
  let known : List Known := [⟨'e', "canonicalize-existing", .nothing⟩,
    ⟨'m', "canonicalize-missing", .nothing⟩, ⟨'L', "logical", .nothing⟩,
    ⟨'P', "physical", .nothing⟩, ⟨'q', "quiet", .nothing⟩, ⟨'s', "strip", .nothing⟩,
    ⟨'s', "no-symlinks", .nothing⟩, ⟨'z', "zero", .nothing⟩,
    ⟨Char.ofNat 1, "relative-to", .text⟩, ⟨Char.ofNat 2, "relative-base", .text⟩]
  withOptions 1 known arguments fun given => do
    let working := (← process).working
    let resolve (path : String) : Action (Except Fault Location) :=
      if given.has 's' then
        pure (if path.isEmpty then .error .missing else .ok (plainLocation working (pathOf path)))
      else realLocation (neededParts .directories given) path
    let base (letter : Char) : Action (Option (Except (String × Fault) Location)) := do
      match given.text? letter with
      | none => pure none
      | some path => do pure (some ((← resolve path).mapError fun fault => (path, fault)))
    if given.operands.isEmpty then refuseUse 1 "missing operand"
    else match ← base (Char.ofNat 1), ← base (Char.ofNat 2) with
    | some (.error (path, fault)), _ | _, some (.error (path, fault)) => do
        report path fault
        pure 1
    | toward, below => do
        let place? (result : Option (Except (String × Fault) Location)) : Option Location :=
          result.bind Except.toOption
        let shown (location : Location) : String :=
          match place? toward, place? below with
          | some directory, none => relativePath directory location
          | some directory, some below =>
              if below.isPrefixOf location && below.isPrefixOf directory then
                relativePath directory location
              else Files.pathOf location
          | none, some below =>
              if below.isPrefixOf location then relativePath below location
              else Files.pathOf location
          | none, none => Files.pathOf location
        forEach given.operands fun path => do
          match ← resolve path with
          | .ok location => answer (Text.Octets.encode (shown location) ++ pathEnd given)
          | .error fault => do
              if !given.has 'q' then report path fault
              pure 1

end StaticMulticast.Host.Utility
