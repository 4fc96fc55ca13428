import StaticMulticast.Host.Account
import StaticMulticast.Host.Utility.Datum
import StaticMulticast.Host.Utility.File
import StaticMulticast.Host.Utility.Statement.Handle
import StaticMulticast.Text.Calendar

/-!
# Built-in functions of scripts of statements

Functions of paths, and those of values alone.
-/

/-!
## Paths in scripts of statements

What a script asks about paths and does to them. Nothing is told: a fault is kept by its number.
-/

namespace StaticMulticast.Host.Utility.Statement

open Action

/-! ## Changes -/

/-- Does something at the end of a path. It is given the place and what stands there. -/
def atEnd (through : Bool) (path : String)
    (body : Location → Option Entry → Action (Option Fault)) : Action (Option Fault) := do
  match ← place through path with
  | .error fault => pure (some fault)
  | .ok location => do body location (← entryAt location)

/-- Removes a file. -/
def removeFile (path : String) : Action (Option Fault) :=
  atEnd false path fun location entry => do
    match entry with
    | none => pure (some .missing)
    | some (.directory _) => pure (some .directory)
    | some _ => do
        modifyFiles fun files => files.prune location
        pure none

/-- Removes an empty directory. -/
def removeDirectory (path : String) : Action (Option Fault) :=
  atEnd false path fun location entry => do
    match entry with
    | none => pure (some .missing)
    | some (.directory _) => do
        if ((← files).names location).isEmpty then do
          modifyFiles fun files => files.prune location
          pure none
        else pure (some (.system 39))
    | some _ => pure (some .throughFile)

/-- Makes a directory with rights. -/
def makeDirectory (path : String) (mode : Nat) : Action (Option Fault) :=
  atEnd false path fun location entry => do
    if entry.isSome then pure (some .present)
    else if !(← isDirectoryAt location.dropLast) then pure (some .missing)
    else do
      putDirectory location
      let mask := (← process).mask
      match (← entryAt location).bind Entry.node? with
      | some node => modifyFiles fun files => files.modifyNode node fun held =>
          { held with mode := mode &&& (0x1FF - (mask &&& 0x1FF)) }
      | none => pure ()
      pure none

/-- Moves what is at a path to another one. -/
def movePath (source target : String) : Action (Option Fault) :=
  atEnd false source fun old entry =>
    atEnd false target fun new found => do
      match entry with
      | none => pure (some .missing)
      | some entry => do
          let move : Action (Option Fault) := do
            if old != new then modifyFiles fun files => files.move old new
            pure none
          if entry.isDirectory && old.isPrefixOf new && old != new then pure (some .invalid)
          else if !(← isDirectoryAt new.dropLast) then pure (some .missing)
          else match found with
          | some (.directory _) => do
              if !entry.isDirectory then pure (some .directory)
              else if old = new || ((← files).names new).isEmpty then move
              else pure (some (.system 39))
          | some _ => if entry.isDirectory then pure (some .throughFile) else move
          | none => move

/-- Makes a link at a path. One of the soft kind leads to a text. -/
def makeLink (isSoft : Bool) (target path : String) : Action (Option Fault) :=
  atEnd false path fun location entry => do
    let source ← find? false target
    if entry.isSome then pure (some .present)
    else if !(← isDirectoryAt location.dropLast) then pure (some .missing)
    else if isSoft then do
      modifyFiles fun files => files.put location (.link (pathOf target))
      pure none
    else match source with
    | none => pure (some .missing)
    | some found =>
        if found.isDirectory then pure (some (.system 1))
        else do
          modifyFiles fun files => files.put location found.entry
          pure none

/-- Changes the node of a path. -/
def changeNode (path : String) (change : Node → Node) : Action (Option Fault) := do
  match ← place true path with
  | .error fault => pure (some fault)
  | .ok _ => do
      match ← find? true path with
      | none => pure (some .missing)
      | some found => do
          match found.entry.node? with
          | some node => modifyFiles fun files => files.modifyNode node change
          | none => pure ()
          pure none

/-- Goes to another directory. -/
def goToDirectory (path : String) : Action (Option Fault) := do
  match ← find? true path with
  | some found =>
      if found.isDirectory then do
        modifyProcess fun process => { process with working := found.location }
        pure none
      else pure (some .throughFile)
  | none => pure (some .missing)

/-- Changes how long a file is. -/
def changeLength (size : Nat) (path : String) : Action (Option Fault) := do
  match ← find? true path with
  | some { entry := .file node, .. } => do
      modifyOctets node fun octets =>
        octets.take size ++ List.replicate (size - octets.length) 0
      pure none
  | some _ => pure (some .invalid)
  | none => pure (some .missing)

/-- Does something to each of some paths, and gives the number of those with which it succeeds. -/
def countPaths (paths : List String) (body : String → Action (Option Fault)) : Actor Held := do
  let results ← paths.mapM fun path => do
    let result ← act (body path)
    if let some fault := result then
      modify fun state => { state with fault := faultNumber fault }
    pure result
  pure (.count (results.filter Option.isNone).length)

/-- Does something to a path, and gives the value of its success. -/
def tryPath (body : Action (Option Fault)) : Actor Held := do
  outcome (← act body)

/-! ## Questions -/

/-- What an open file leads to. -/
def foundIn (value : Held) : Actor (Option Found) := do
  match ← handleOf value with
  | none => pure none
  | some address => do
      let handle ← handleAt address
      match ← handle.descriptor.mapM fun descriptor => act (openFile? descriptor) with
      | some (some (_, file)) => do
          match file.stream with
          | .opened (.file node) => do
              let held := (← act files).node? node
              pure (some ⟨[], .file node, held⟩)
          | .opened (.device device) => pure (some ⟨[], .device device, none⟩)
          | .pipe _ => pure (some ⟨[], .device (.queue 0), none⟩)
          | _ => pure (some ⟨[], .device .sink, none⟩)
      | _ => pure none

/-- What stands at a path, or in an open file. -/
def foundAt (through : Bool) (value : Held) : Actor (Option Found) := do
  let path ← textOf value
  let isOpen : Bool := match value with
    | .reference _ => true
    | .plain _ => ["STDIN", "STDOUT", "STDERR"].contains path
  if isOpen then foundIn value
  else do
    let result ← act (place through path)
    match result with
    | .error fault => do
        let _ ← failed fault
        pure none
    | .ok _ => do
        let found ← act (find? through path)
        if found.isNone then
          let _ ← failed .missing
        pure found

/-- The bits for the kind of what stands at a path. -/
def kindBits (found : Found) : Nat :=
  if found.isDirectory then 0x4000 else if found.isLink then 0xA000
  else if found.isQueue then 0x1000 else if found.isDevice then 0x2000 else 0x8000

/-- A number that tells a place from others. -/
def placeNumber (found : Found) : Nat :=
  match found.entry.node? with
  | some node => 1000 + node
  | none => 1

/-- What is known about what stands at a path: its device, number, kind and rights, how many names
it has, its owners, its size, and its times. -/
def recordOf (found : Found) : Actor (List Held) := do
  let places ← match found.entry with
    | .file node => do pure ((← act files).placesOf node)
    | _ => pure 1
  let seconds := Int.fdiv found.time 1000000
  let owner := (found.node.map Node.owner).getD 0
  let group := (found.node.map Node.group).getD 0
  pure [.count 0x34, .count (placeNumber found), .count (kindBits found + found.mode),
    .count places, .count owner, .count group, .count 0, .count found.size, .number seconds,
    .number seconds, .number seconds, .count 4096, .count ((found.size + 511) / 512)]

/-- The answer to a question about a path. -/
def checkPath (letter : Char) (value : Held) : Actor Held := do
  let days (found : Found) : Actor Held := do
    let beginning := Computer.beginning
    pure (.number (Datum.limited (((beginning - found.time : Int) : Rat) / 86400000000)))
  if letter = 't' then pure (.answer false)
  else match ← foundAt (letter != 'l') value with
  | none => pure .nothing
  | some found => do
      match letter with
      | 's' => pure (if found.size = 0 then .answer false else .count found.size)
      | 'M' | 'A' | 'C' => days found
      | _ => pure (.answer (match letter with
          | 'z' => found.size = 0
          | 'e' | 'r' | 'w' | 'R' | 'W' | 'o' | 'O' => true
          | 'x' | 'X' => found.isDirectory || found.isRunnable
          | 'f' => found.isPlain
          | 'd' => found.isDirectory
          | 'l' => found.isLink
          | 'p' => found.isQueue
          | 'c' => found.isDevice
          | 'u' => found.mode &&& 0x800 != 0
          | 'g' => found.mode &&& 0x400 != 0
          | 'k' => found.mode &&& 0x200 != 0
          | 'T' => isText found
          | 'B' => !isText found
          | _ => false))
where
  /-- The octets are those of a text. -/
  isText (found : Found) : Bool :=
    ((found.node.map Node.octets).getD []).take 512 |>.all fun octet => octet != 0

/-- The names in a directory, with those of itself and of the one around it. -/
def namesIn (path : String) : Action (Except Fault (List String)) := do
  match ← find? true path with
  | none => pure (.error .missing)
  | some found =>
      if !found.isDirectory then pure (.error .throughFile)
      else do
        let names := ((← files).names found.location).map Text.Octets.encode
        pure (.ok ("." :: ".." :: names))

end StaticMulticast.Host.Utility.Statement

/-!
## Functions of values in scripts of statements

The built-in functions that need nothing but the values of their arguments.
-/

namespace StaticMulticast.Host.Utility.Statement

open Action

/-! ## Texts and numbers -/

/-- The digits at the front of a text, without the lines between them. -/
def leadingDigits (base : Nat) (text : List Char) : List Char :=
  (text.filter (· != '_')).takeWhile fun letter => (digitWorth? base letter).isSome

/-- The number that digits of a base are, with or without a mark of the base in front of them. -/
def basedNumber (base : Nat) (text : List Char) : Nat :=
  let rest := match text.map Char.toLower with
    | '0' :: 'x' :: _ | '0' :: 'b' :: _ | '0' :: 'o' :: _ => text.drop 2
    | 'x' :: _ | 'b' :: _ | 'o' :: _ => text.drop 1
    | _ => text
  numberOf base (leadingDigits base rest)

/-- The number of a text whose front tells the base, which is eight if it does not. -/
def markedNumber (text : String) : Nat :=
  let letters := text.toList.dropWhile Char.isWhitespace
  let base := match (letters.map Char.toLower).dropWhile (· == '0') with
    | 'x' :: _ => 16
    | 'b' :: _ => 2
    | _ => 8
  basedNumber base letters

/-- A text with a change of its first letter. -/
def withFirst (change : Char → Char) (text : String) : String :=
  match text.toList with
  | first :: rest => String.ofList (change first :: rest)
  | [] => ""

/-- The change of a text that a function of one text makes. -/
def changedText? (name text : String) : Option String :=
  match name with
  | "uc" => some (String.ofList (text.toList.map Char.toUpper))
  | "lc" | "fc" => some (String.ofList (text.toList.map Char.toLower))
  | "ucfirst" => some (withFirst Char.toUpper text)
  | "lcfirst" => some (withFirst Char.toLower text)
  | "quotemeta" => some (String.ofList (text.toList.flatMap fun letter =>
      if isNameLetter letter || 0x7F < letter.toNat then [letter] else ['\\', letter]))
  | _ => none

/-- The number that a function of one number gives, or the message of a failure. -/
def changedNumber? (name : String) (value : Rat) : Option (Except String Rat) :=
  match name with
  | "int" => some (.ok (if Datum.unbounded ≤ value || value ≤ -Datum.unbounded then value
      else Datum.truncated value))
  | "abs" => some (.ok (if value < 0 then -value else value))
  | "sqrt" => some (if value < 0 then .error ("Can't take sqrt of " ++ numberText value)
      else .ok (Datum.squareRoot value))
  | "sin" => some (.ok (Datum.limited (Elementary.sine value)))
  | "cos" => some (.ok (Datum.limited (Elementary.cosine value)))
  | "exp" => some (.ok (Datum.exponential value))
  | "log" => some (if value ≤ 0 then .error ("Can't take log of " ++ numberText value)
      else .ok (Datum.limited (Elementary.logarithm value)))
  | _ => none

/-! ## Lots -/

/-- The bound of the numbers that lots grow out of. -/
def lotBound : Nat := 0x1000000000000

/-- What lots grow out of from a number on. -/
def plantedLot (seed : Nat) : Nat :=
  (seed % 0x100000000) * 0x10000 + 0x330E

/-- Draws a number from zero up to one. -/
def drawNumber : Actor Rat := do
  let before ← match (← get).lot with
    | some lot => pure lot
    | none => do
        let clock ← act do pure (← world).clock
        let number ← act do pure (← process).number
        pure (plantedLot (clock / 7 + 1000003 * number))
  let lot := (before * 0x5DEECE66D + 0xB) % lotBound
  modify fun state => { state with lot := some lot }
  pure ((lot : Rat) / lotBound)

/-! ## Times -/

/-- The parts of a moment: the second, the minute, the hour, the day, the month from zero on, the
years from 1900 on, the day of the week and that of the year. -/
def momentParts (moment : Text.Calendar.Moment) : List Int :=
  let day := Text.Day.ofNumber moment.day
  let second := moment.second
  [Int.ofNat (second % 60), Int.ofNat (second / 60 % 60), Int.ofNat (second / 3600),
    Int.ofNat day.day, Int.ofNat day.month - 1, day.year - 1900, Int.ofNat moment.weekDay,
    Int.ofNat moment.yearDay, 0]

/-- The moment of parts. Those that are too great count on. -/
def momentOfParts (parts : List Int) : Text.Calendar.Moment :=
  let part (index : Nat) : Int := parts[index]?.getD 0
  let months := part 4
  let year := part 5 + 1900 + Int.fdiv months 12
  let month := (months % 12).toNat + 1
  let day := Text.Day.number ⟨year, month, 1⟩ + part 3 - 1
  .ofSeconds (day * Text.Calendar.daySeconds + part 2 * 3600 + part 1 * 60 + part 0) 0

/-- The present time in seconds. -/
def presentSecond : Actor Int := do
  pure (Int.fdiv (← act now) 1000000)

/-- The value of a moment, as a text or in its parts. -/
def momentValues (wanted : Option Bool) (moment : Text.Calendar.Moment) : List Held :=
  if wanted = some true then (momentParts moment).map fun (part : Int) => .number part
  else [.text (Text.Calendar.format moment "%a %b %e %H:%M:%S %Y")]

/-! ## Functions -/

/-- The functions each of whose arguments is one value. -/
def singleFunctions : List String :=
  ["index", "rindex", "rename", "link", "symlink", "mkdir", "atan2", "seek", "sysseek", "bless",
    "binmode", "truncate", "vec", "crypt", "setpgrp", "getpriority", "setpriority", "flock",
    "seekdir", "substr", "waitpid", "fcntl", "ioctl"]

/-- The values of an account. -/
def accountValues (isNumbered : Bool) (wanted : Option Bool) (account : Option Account) :
    List Held :=
  match account with
  | none => if wanted = some true then [] else [.nothing]
  | some account =>
      if wanted = some true then
        [.text account.name, .text "x", .count account.number, .count account.group, .text "",
          .text "", .text account.remark, .text account.home, .text account.shell]
      else [if isNumbered then .text account.name else .count account.number]

/-- The values of a group. -/
def groupValues (isNumbered : Bool) (wanted : Option Bool) (group : Option (String × Nat)) :
    List Held :=
  match group with
  | none => if wanted = some true then [] else [.nothing]
  | some (name, number) =>
      if wanted = some true then [.text name, .text "x", .count number, .text ""]
      else [if isNumbered then .text name else .count number]

/-- What has called the function that runs, or one further out. -/
def callValues (wanted : Option Bool) (depth : Option Nat) : Actor (List Held) := do
  let name := (← get).name
  match (← get).calls[depth.getD 0]? with
  | none => pure (if wanted = some true then [] else [.nothing])
  | some call =>
      let first := [Held.text call.package, .text name, .count call.line]
      pure (if wanted != some true then [.text call.package]
        else if depth.isNone then first
        else first ++ [.text call.name, .number 1, match call.wanted with
          | none => .nothing
          | some isList => .answer isList])

/-- Whole seconds and what is left of a value, in millionths of a second. -/
def durationOf (value : Held) : Actor Nat := do
  pure (Datum.truncated ((← numberOfValue value) * 1000000)).toNat

/-- The value of a function of texts and numbers, if it is one. -/
def plainValue? (name : String) (arguments : List Held) : Actor (Option Held) := do
  let first := arguments.headD .nothing
  let some1 (value : Held) : Actor (Option Held) := pure (some value)
  let textAt (index : Nat) : Actor String := textOf (arguments[index]?.getD .nothing)
  let wholeAt (index : Nat) : Actor Int := wholeOf (arguments[index]?.getD .nothing)
  match name with
  | "uc" | "lc" | "fc" | "ucfirst" | "lcfirst" | "quotemeta" => do
      pure ((changedText? name (← textOf first)).map .text)
  | "int" | "abs" | "sqrt" | "sin" | "cos" | "exp" | "log" => do
      match changedNumber? name (← numberOfValue first) with
      | some (.ok value) => pure (some (.number value))
      | some (.error message) => die message
      | none => pure none
  | "length" => do
      if first.isDefined then pure (some (.count (← textOf first).length))
      else some1 .nothing
  | "ord" => do pure (some (.count ((← textOf first).toList.headD (Char.ofNat 0)).toNat))
  | "chr" => do
      let number := (← wholeOf first)
      some1 (.text (String.singleton (Char.ofNat (if number < 0 then 0xFFFD else number.toNat))))
  | "hex" => do pure (some (.count (basedNumber 16 (← textOf first).toList)))
  | "oct" => do pure (some (.count (markedNumber (← textOf first))))
  | "join" => do
      let texts ← arguments.tail.mapM textOf
      pure (some (.text (String.intercalate (← textOf first) texts)))
  | "sprintf" => do
      let values ← arguments.tail.mapM datumOf
      pure (some (.text (formatted (← textOf first) values)))
  | "index" => do
      let text := (← textOf first).toList
      let start ← if 2 < arguments.length then wholeAt 2 else pure 0
      let start := min start.toNat text.length
      pure (some (.number (placeOf (← textAt 1).toList start (text.drop start))))
  | "rindex" => do
      let text := (← textOf first).toList
      let last ← if 2 < arguments.length then wholeAt 2 else pure (Int.ofNat text.length)
      let wanted := (← textAt 1).toList
      let last := min last (Int.ofNat text.length)
      some1 (.number (if last < 0 then (if wanted.isEmpty then 0 else -1)
        else lastPlaceOf wanted text last.toNat))
  | "substr" => do
      let text := (← textOf first).toList
      let length ← if 2 < arguments.length && (arguments[2]?.any Held.isDefined) then
          some <$> wholeAt 2 else pure none
      match partBounds? text.length (← wholeAt 1) length with
      | none => some1 .nothing
      | some (start, length) =>
          some1 (.text (String.ofList ((text.drop start).take length)))
  | "atan2" => do
      let right ← numberOfValue (arguments[1]?.getD .nothing)
      pure (some (.number (Datum.limited (Elementary.angleOf (← numberOfValue first) right))))
  | "rand" => do
      let most ← numberOfValue first
      let drawn ← drawNumber
      pure (some (.number (Datum.limited (drawn * (if most = 0 then 1 else most)))))
  | "srand" => do
      let seed ← if arguments.isEmpty then presentSecond else wholeOf first
      modify fun state => { state with lot := some (plantedLot seed.toNat) }
      pure (some (.number seed))
  | "time" => do pure (some (.number (← presentSecond)))
  | "ref" => do
      match first with
      | .plain _ => some1 (.text "")
      | .reference address => do
          let package ← packageOf? address
          let kind ← kindAt address
          some1 (.text (package.getD kind))
  | "lock" | "study" | "flock" | "reset" => some1 (.number 1)
  | "vec" => do
      let text := (← textOf first).toList
      let index := (← wholeAt 1).toNat
      let size := (← wholeAt 2).toNat
      let bits := (text.zipIdx.foldl (fun sum (letter, place) =>
        sum + letter.toNat <<< (8 * place)) 0)
      some1 (.count (if size ≤ 8 then (bits >>> (index * size)) % Nat.pow 2 size
        else (((text.drop (index * (size / 8))).take (size / 8)).foldl
          (fun sum letter => sum * 256 + letter.toNat) 0)))
  | _ => pure none

/-- The value of a function that changes files, or asks about the process, if it is one. -/
def systemValue? (name : String) (arguments : List Held) : Actor (Option Held) := do
  let first := arguments.headD .nothing
  let texts ← arguments.mapM textOf
  let text := texts.headD ""
  let other := texts.tail.headD ""
  match name with
  | "unlink" => do pure (some (← countPaths texts removeFile))
  | "rmdir" => do pure (some (← tryPath (removeDirectory text)))
  | "mkdir" => do
      let mode ← if 1 < arguments.length then wholeOf (arguments[1]?.getD .nothing)
        else pure 0x1FF
      pure (some (← tryPath (makeDirectory text mode.toNat)))
  | "rename" => do pure (some (← tryPath (movePath text other)))
  | "link" => do pure (some (← tryPath (makeLink false text other)))
  | "symlink" => do pure (some (← tryPath (makeLink true text other)))
  | "chmod" => do
      let mode := (← wholeOf first).toNat
      pure (some (← countPaths texts.tail fun path =>
        changeNode path fun node => { node with mode }))
  | "chown" => do
      let owner ← wholeOf first
      let group ← wholeOf (arguments[1]?.getD .nothing)
      pure (some (← countPaths (texts.drop 2) fun path =>
        changeNode path fun node =>
          { node with
            owner := if owner < 0 then node.owner else owner.toNat
            group := if group < 0 then node.group else group.toNat }))
  | "utime" => do
      let given := arguments[1]?.getD .nothing
      let time ← if given.isDefined then do
          pure (Datum.truncated ((← numberOfValue given) * 1000000))
        else act now
      pure (some (← countPaths (texts.drop 2) fun path =>
        changeNode path fun node => { node with time }))
  | "readlink" => do
      match ← act (find? false text) with
      | some { entry := .link target, .. } => pure (some (.text (Text.Octets.encode target)))
      | found => some <$> failedWith (if found.isSome then 22 else 2)
  | "truncate" => do
      let size := (← wholeOf (arguments[1]?.getD .nothing)).toNat
      match first with
      | .reference _ => do
          match ← handleOf first with
          | none => some <$> failed .badDescriptor
          | some address => do
              let _ ← flushHandle address
              match ← foundIn first with
              | some { entry := .file node, .. } => do
                  act (modifyOctets node fun octets =>
                    octets.take size ++ List.replicate (size - octets.length) 0)
                  pure (some (.number 1))
              | _ => some <$> failed .invalid
      | .plain _ => do pure (some (← tryPath (changeLength size text)))
  | "chdir" => do
      let home := ((← act environment).lookup "HOME").getD "/"
      pure (some (← tryPath (goToDirectory (if arguments.isEmpty then home else text))))
  | "umask" => do
      let before := (← act process).mask
      if first.isDefined then do
        let mask := (← wholeOf first).toNat
        act (modifyProcess fun process => { process with mask })
      pure (some (.count before))
  | "getppid" => do pure (some (.count (← act process).parent))
  | "getpgrp" => do pure (some (.count (← act process).number))
  | "setpgrp" | "setpriority" => pure (some (.number 1))
  | "getpriority" => pure (some (.number 0))
  | "getlogin" => pure (some .nothing)
  | "chroot" => some <$> failedWith 1
  | "bless" => do
      match first with
      | .reference address => do
          let package := if other.isEmpty then "main" else other
          modify fun state =>
            { state with
              blessed := (address, package) :: state.blessed.filter fun row => row.1 != address }
          pure (some first)
      | .plain _ => die "Can't bless non-reference value"
  | _ => pure none

/-- The values of a function that gives a list, if it is one. -/
def listValues? (name : String) (wanted : Option Bool) (arguments : List Held) :
    Actor (Option (List Held)) := do
  let first := arguments.headD .nothing
  let isList := wanted = some true
  match name with
  | "localtime" | "gmtime" => do
      let seconds ← if arguments.isEmpty then presentSecond else wholeOf first
      pure (some (momentValues wanted (.ofSeconds seconds 0)))
  | "times" => pure (some (if isList then [.number (1 / 100), .number 0, .number 0, .number 0]
      else [.number (1 / 100)]))
  | "stat" | "lstat" => do
      match ← foundAt (name = "stat") first with
      | none => pure (some (if isList then [] else [.answer false]))
      | some found => do
          if isList then some <$> recordOf found else pure (some [.number 1])
  | "caller" => do
      let depth ← if arguments.isEmpty then pure none
        else do pure (some (← wholeOf first).toNat)
      some <$> callValues wanted depth
  | "getpwnam" => do pure (some (accountValues false wanted (Account.named? (← textOf first))))
  | "getpwuid" => do
      let number := (← wholeOf first).toNat
      pure (some (accountValues true wanted
        (Account.all.find? fun account => account.number = number)))
  | "getgrnam" => do
      let group ← textOf first
      pure (some (groupValues false wanted (groupNumbers.find? fun row => row.1 = group)))
  | "getgrgid" => do
      let number := (← wholeOf first).toNat
      pure (some (groupValues true wanted (groupNumbers.find? fun row => row.2 = number)))
  | _ => pure none

/-- The values of a built-in function of values, if it is one. -/
def functionValues? (name : String) (wanted : Option Bool) (arguments : List Held) :
    Actor (Option (List Held)) := do
  match ← plainValue? name arguments with
  | some value => pure (some [value])
  | none => do
      match ← systemValue? name arguments with
      | some value => pure (some [value])
      | none => listValues? name wanted arguments

end StaticMulticast.Host.Utility.Statement
