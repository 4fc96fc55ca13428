import StaticMulticast.Host.Shell.Builtin.Variable

/-!
# Commands about the shell itself

Those that leave something, that let words stand for texts, and that change the mask and the
limits.
-/

/-!
## Words that stand for texts

The commands that let a word stand for a text where a command can begin, and those that end this.
-/

namespace StaticMulticast.Host.Shell

open Action

/-- A word with its text, as it can be read again. -/
def aliasText (isExtended : Bool) (name text : String) : String :=
  if isExtended then "alias " ++ name ++ "=" ++ inQuotes text ++ "\n"
  else name ++ "=" ++ shownValue false text ++ "\n"

/-- The character can be in a word that stands for a text. -/
def mayBeIn (letter : Char) : Bool :=
  !isSpecial letter && letter != '/'

/-- A word does not stand for a text. -/
def tellAbsence (command name : String) : Action Unit := do
  if ← isExtended then protest (name ++ ": not found")
  else complainBriefly (command ++ ": " ++ name ++ " not found")

/-- Lets words stand for texts, or writes the texts that they stand for. -/
def runAlias (arguments : List String) : Action Nat := do
  let extended ← isExtended
  let arguments := if arguments.head? = some "--" || (extended && arguments.head? = some "-p") then
    arguments.tail else arguments
  if arguments.isEmpty then do
    let lines := (← process).aliases.map fun (name, text) => aliasText extended name text
    answer (String.join (sortTexts lines))
  else do
    let statuses ← arguments.mapM fun argument => do
      match nameAndValue argument with
      | (_, none, _) =>
          match (← process).aliases.lookup argument with
          | some text => answer (aliasText extended argument text)
          | none => do
              tellAbsence "alias" argument
              pure 1
      | (name, some text, _) => do
        if extended && !name.toList.all mayBeIn then do
          protest (inOldQuotes name ++ ": invalid alias name")
          pure 1
        else do
          modifyProcess fun process =>
            { process with
              aliases := (name, text) :: process.aliases.filter fun other => other.1 != name }
          pure 0
    pure (statuses.foldl max 0)

/-- Lets words stand for themselves again. -/
def runUnalias (arguments : List String) : Action Nat := do
  match arguments with
  | [] => do
      if ← isExtended then
        tellUse "unalias"
        pure 2
      else pure 0
  | "-a" :: _ => do
      modifyProcess fun process => { process with aliases := [] }
      pure 0
  | names => do
      let statuses ← names.mapM fun name => do
        if ((← process).aliases.lookup name).isSome then do
          modifyProcess fun process =>
            { process with aliases := process.aliases.filter fun other => other.1 != name }
          pure 0
        else do
          tellAbsence "unalias" name
          pure 1
      pure (statuses.foldl max 0)

end StaticMulticast.Host.Shell

/-!
## Commands that leave something

`exit` leaves the script, `return` a function, and `break` and `continue` leave loops. The extended
language takes negative numbers as a status, and passes over a `return` where nothing is to be
returned from.
-/

namespace StaticMulticast.Host.Shell

open Action

/-- The status that an argument gives. -/
def statusArgument? (isExtended : Bool) (argument : String) : Option Nat :=
  (number? isExtended argument).map fun number =>
    if isExtended then (number % 256).toNat else number.toNat

/-- Gives the line up because of too many arguments. -/
def refuseMore : Action Unit := do
  protest "too many arguments"
  throw (.abandons 1)

/-- An argument is no number. -/
def refuseNumber (argument : String) : Action Unit := do
  protest (if ← isExtended then argument ++ ": numeric argument required"
    else "Illegal number: " ++ argument)

/-- Leaves the script. -/
def runExit (arguments : List String) : Action Nat := do
  let extended ← isExtended
  let arguments := if extended && arguments.head? = some "--" then arguments.tail else arguments
  match arguments with
  | [] => do
      let process ← process
      throw (.exits (process.beforeTrap.getD process.status))
  | argument :: rest =>
      match statusArgument? extended argument with
      | some status => do
          if extended && !rest.isEmpty then refuseMore
          throw (.exits status)
      | none => do
          refuseNumber argument
          throw (.exits 2)

/-- Leaves a function or a text that is being run. -/
def runReturn (arguments : List String) : Action Nat := do
  let extended ← isExtended
  let process ← process
  if extended && process.calls = 0 && process.sourced = 0 then do
    protest ("can only " ++ inOldQuotes "return" ++ " from a function or sourced script")
    pure 2
  else match arguments with
    | [] => throw .returns
    | argument :: rest => do
        if extended && !rest.isEmpty then refuseMore
        match statusArgument? extended argument with
        | some status => do
            setStatus status
            throw .returns
        | none =>
            if extended then do
              refuseNumber argument
              setStatus 2
              throw .returns
            else do
              refuseNumber argument
              throw (.fails 2)

/-- Leaves so many loops, or goes on with the next round of the last of them. -/
def runLoopJump (jump : Nat → Jump) (arguments : List String) : Action Nat := do
  let extended ← isExtended
  let loops := (← process).loops
  match arguments with
  | [] => leave loops 1
  | argument :: _ =>
      match number? true argument with
      | some number =>
          if extended && loops = 0 then leave 0 1
          else if 0 < number then leave loops number.toNat
          else if extended then do
            protest (argument ++ ": loop count out of range")
            setStatus 1
            throw (.breaks loops)
          else do
            refuseNumber argument
            throw (.fails 2)
      | none =>
          if extended && loops = 0 then leave 0 1
          else do
            refuseNumber argument
            if extended then throw (.exits 128) else throw (.fails 2)
where
  /-- Leaves loops, if there are any. -/
  leave (loops wanted : Nat) : Action Nat := do
    if loops = 0 then do
      if ← isExtended then
        protest ("only meaningful in a " ++ inOldQuotes "for" ++ ", " ++ inOldQuotes "while" ++
          ", or " ++ inOldQuotes "until" ++ " loop")
      pure 0
    else do
      setStatus 0
      throw (jump (min loops wanted))

end StaticMulticast.Host.Shell

/-!
## Commands about rights

The rights of files as numbers and as texts, and the mask of those that files are made without.
-/

namespace StaticMulticast.Host.Shell

open Action

/-- The number of octal digits. -/
def octal? (text : String) : Option Nat :=
  if text.isEmpty || !text.toList.all fun digit => '0' ≤ digit && digit ≤ '7' then none
  else some (text.toList.foldl (fun value digit => 8 * value + (digit.toNat - '0'.toNat)) 0)

/-- A part of a symbolic mode: whom it is about, what is done, and the rights. -/
structure ModeChange where
  who : Nat
  operator : Char
  rights : Nat
  /-- The right to run is only meant where some have it, or for directories. -/
  ifRunnable : Bool := false
  /-- How far the rights that are copied stand from those of others. -/
  copied : Option Nat := none

/-- The rights of a letter, for all. -/
def rightsOf? : Char → Option Nat
  | 'r' => some 0x124
  | 'w' => some 0x92
  | 'x' => some 0x49
  | 'X' => some 0
  | 's' => some 0xC00
  | 't' => some 0x200
  | _ => none

/-- Those whom a letter means, as a mask. -/
def whoOf? : Char → Option Nat
  | 'u' => some 0x9C0
  | 'g' => some 0x438
  | 'o' => some 0x207
  | 'a' => some 0xFFF
  | _ => none

/-- The parts of a symbolic mode. -/
def modeChanges? (text : String) : Option (List ModeChange) := do
  let changes ← (text.splitOn ",").mapM fun part => do
    let (who, rest) := part.toList.span fun letter => (whoOf? letter).isSome
    let who := if who.isEmpty then 0xFFF
      else who.foldl (fun mask letter => mask ||| (whoOf? letter).getD 0) 0
    changesFrom who (rest.length + 1) rest
  some changes.flatten
where
  /-- The operators with their rights. -/
  changesFrom (who : Nat) : Nat → List Char → Option (List ModeChange)
    | 0, _ => none
    | _ + 1, [] => some []
    | bound + 1, operator :: rest =>
        if !(['+', '-', '='].contains operator) then none
        else do
          let (letters, rest) := rest.span fun letter => !(['+', '-', '='].contains letter)
          let copied : Option Nat := match letters with
            | ['u'] => some 6
            | ['g'] => some 3
            | ['o'] => some 0
            | _ => none
          let rights ← if copied.isSome then some [] else letters.mapM rightsOf?
          let change : ModeChange :=
            ⟨who, operator, rights.foldl (· ||| ·) 0, letters.contains 'X', copied⟩
          some (change :: (← changesFrom who bound rest))

/-- A mode after a change. -/
def ModeChange.apply (mode : Nat) (isDirectory : Bool) (change : ModeChange) : Nat :=
  let runs := if change.ifRunnable && (isDirectory || mode &&& 0x49 != 0) then 0x49 else 0
  let copied := match change.copied with
    | some distance => ((mode >>> distance) &&& 7) * 0x49
    | none => 0
  let rights := (change.rights ||| runs ||| copied) &&& change.who
  match change.operator with
  | '+' => mode ||| rights
  | '-' => mode - (mode &&& rights)
  | _ =>
      let cleared := if isDirectory then change.who &&& 0x3FF else change.who
      (mode - (mode &&& cleared)) ||| rights

/-- A mode after what a text asks for. -/
def changedMode? (text : String) (isDirectory : Bool) (mode : Nat) : Option Nat :=
  match octal? text with
  | some number => if number ≤ 0xFFF then some number else none
  | none => (modeChanges? text).map fun changes =>
      changes.foldl (fun mode change => change.apply mode isDirectory) mode

/-- Four octal digits. -/
def octalText (number : Nat) : String :=
  let digits := Nat.toDigits 8 number
  String.ofList (List.replicate (4 - digits.length) '0' ++ digits)

/-- The letters of rights. -/
def rightLetters (rights : Nat) : String :=
  String.ofList ([('r', 4), ('w', 2), ('x', 1)].filterMap fun (letter, bit) =>
    if rights &&& bit != 0 then some letter else none)

/-- What a mask leaves, with letters. -/
def maskText (mask : Nat) : String :=
  let rights := 0x1FF - mask
  "u=" ++ rightLetters (rights >>> 6) ++ ",g=" ++ rightLetters (rights >>> 3) ++ ",o=" ++
    rightLetters rights

/-- The mask that a text asks for. -/
def newMask? (mask : Nat) (text : String) : Option Nat :=
  match octal? text with
  | some number => if number ≤ 0x1FF then some number else none
  | none => (changedMode? text false (0x1FF - mask)).map fun mode => 0x1FF - mode

/-- What is told about a text that asks for no mask. -/
def maskFault (isExtended : Bool) (text : String) : String :=
  let isNumber := text.toList.head?.any Char.isDigit
  if !isExtended then (if isNumber then "Illegal number: " else "Illegal mode: ") ++ text
  else if isNumber then text ++ ": octal number out of range"
  else match (text.splitOn ",").find? fun part => (modeChanges? part).isNone with
  | some part =>
      let rest := part.toList.dropWhile fun letter => (whoOf? letter).isSome
      let operators := ['+', '-', '=']
      let isOperator := rest.head?.any operators.contains
      let wrong := if isOperator then
          rest.tail.find? fun letter => (rightsOf? letter).isNone && !operators.contains letter
        else rest.head?
      inOldQuotes ((wrong.map String.singleton).getD "") ++
        (if isOperator then ": invalid symbolic mode character"
          else ": invalid symbolic mode operator")
  | none => text

/-- Sets or writes the rights that files are made without. -/
def runUmask (arguments : List String) : Action Nat :=
  withLeading "umask" "S" "Sp" arguments fun options rest => do
    let mask := (← process).mask
    match rest with
    | [] =>
        let front := if !options.contains 'p' then ""
          else if options.contains 'S' then "umask -S " else "umask "
        answer (front ++ (if options.contains 'S' then maskText mask else octalText mask) ++ "\n")
    | text :: _ =>
        match newMask? mask text with
        | some mask => do
            modifyProcess fun process => { process with mask }
            pure 0
        | none => misuse (maskFault (← isExtended) text)

end StaticMulticast.Host.Shell

/-!
## Limits of resources

What a process may use of each resource: a limit that holds now, and one up to which it can be raised.
The languages count some of them in different units.
-/

namespace StaticMulticast.Host.Shell

open Action

/-- A resource, with its names in the two languages and the sizes of the units in which each of them
counts. A language without a name for it does not know it. -/
structure Resource where
  letter : Char
  plainName : Option String
  name : Option String
  unit : String
  plainSize : Nat
  size : Nat
  /-- The limit that holds at first, and the one up to which it can be raised. -/
  now : Option Nat
  most : Option Nat

namespace Resource

/-- The resources in the order of the extended language. -/
def all : List Resource :=
  [⟨'R', none, some "real-time non-blocking time", "microseconds, ", 1, 1, none, none⟩,
    ⟨'c', some "coredump(blocks)", some "core file size", "blocks, ", 512, 1024, none, none⟩,
    ⟨'d', some "data(kbytes)", some "data seg size", "kbytes, ", 1024, 1024, none, none⟩,
    ⟨'e', none, some "scheduling priority", "", 1, 1, some 0, some 0⟩,
    ⟨'f', some "file(blocks)", some "file size", "blocks, ", 512, 1024, none, none⟩,
    ⟨'i', none, some "pending signals", "", 1, 1, some 128604, some 128604⟩,
    ⟨'l', some "locked memory(kbytes)", some "max locked memory", "kbytes, ", 1024, 1024,
      some 0x800000, some 0x800000⟩,
    ⟨'m', some "memory(kbytes)", some "max memory size", "kbytes, ", 1024, 1024, none, none⟩,
    ⟨'n', some "nofiles", some "open files", "", 1, 1, some 0x100000, some 0x100000⟩,
    ⟨'p', none, some "pipe size", "512 bytes, ", 1, 512, some 0x1000, some 0x1000⟩,
    ⟨'q', none, some "POSIX message queues", "bytes, ", 1, 1, some 819200, some 819200⟩,
    ⟨'r', some "rtprio", some "real-time priority", "", 1, 1, some 0, some 0⟩,
    ⟨'s', some "stack(kbytes)", some "stack size", "kbytes, ", 1024, 1024, some 0x800000, none⟩,
    ⟨'t', some "time(seconds)", some "cpu time", "seconds, ", 1, 1, none, none⟩,
    ⟨'u', none, some "max user processes", "", 1, 1, none, none⟩,
    ⟨'p', some "process", none, "", 1, 1, none, none⟩,
    ⟨'v', some "vmemory(kbytes)", some "virtual memory", "kbytes, ", 1024, 1024, none, none⟩,
    ⟨'w', some "locks", none, "", 1, 1, none, none⟩,
    ⟨'x', none, some "file locks", "", 1, 1, none, none⟩]

/-- The letters of the resources in the order of the plain language. -/
def plainOrder : List Char := "tfdscmlpnvwr".toList

/-- The resource is known in a language. -/
def isKnown (isExtended : Bool) (resource : Resource) : Bool :=
  if isExtended then resource.name.isSome else resource.plainName.isSome

/-- The resources of a language, in its order. -/
def known (isExtended : Bool) : List Resource :=
  let known := all.filter (isKnown isExtended)
  if isExtended then known
  else plainOrder.filterMap fun letter => known.find? fun resource => resource.letter = letter

/-- The size of the unit in a language. -/
def unitSize (isExtended : Bool) (resource : Resource) : Nat :=
  if isExtended then resource.size else resource.plainSize

/-- The resource at the front of a line. -/
def title (isExtended : Bool) (resource : Resource) : String :=
  let pad (width : Nat) (text : String) : String :=
    text ++ String.ofList (List.replicate (width - text.length) ' ')
  if isExtended then
    let unit := "(" ++ resource.unit ++ "-" ++ String.singleton resource.letter ++ ") "
    let name := resource.name.getD ""
    name ++ String.ofList (List.replicate (41 - name.length - unit.length) ' ') ++ unit
  else pad 20 (resource.plainName.getD "") ++ " "

/-- The limits of a resource: the one that holds, and the one up to which it can be raised. -/
def limits (resource : Resource) : Action (Option Nat × Option Nat) := do
  pure (((← process).resources.lookup resource.letter).getD (resource.now, resource.most))

/-- A limit as it is told. -/
def limitText (isExtended : Bool) (resource : Resource) (limit : Option Nat) : String :=
  match limit with
  | some number => toString (number / resource.unitSize isExtended)
  | none => "unlimited"

end Resource

/-- What is said about a resource, and which of its limits are meant. -/
structure LimitRequest where
  isSoft : Bool
  isHard : Bool

namespace LimitRequest

/-- Tells the limit of a resource, in a line with its name if that is wanted. -/
def tell (request : LimitRequest) (isNamed : Bool) (resource : Resource) : Action Nat := do
  let extended ← isExtended
  let (now, most) ← resource.limits
  let limit := if request.isHard && !request.isSoft then most else now
  answer ((if isNamed then resource.title extended else "") ++
    resource.limitText extended limit ++ "\n")

/-- Sets limits of a resource. No limit can be raised above the one that is there for that. -/
def set (request : LimitRequest) (resource : Resource) (text : String) : Action Nat := do
  let extended ← isExtended
  let (now, most) ← resource.limits
  let wanted : Option (Option Nat) :=
    if text = "unlimited" then some none
    else if text = "hard" && extended then some most
    else if text = "soft" && extended then some now
    else (Text.Decimal.digits? text.toList).map fun number =>
      some (number * resource.unitSize extended)
  match wanted with
  | none => do
      protest (if extended then text ++ ": invalid number" else "bad number")
      if extended then pure 1 else throw (.fails 2)
  | some limit => do
      let isBoth := request.isSoft = request.isHard
      let isAbove (limit most : Option Nat) : Bool := match limit, most with
        | _, none => false
        | none, some _ => true
        | some limit, some most => most < limit
      if isAbove limit most then do
        protest (if extended then
            resource.name.getD "" ++ ": cannot modify limit: Operation not permitted"
          else "error setting limit (Operation not permitted)")
        if extended then pure 1 else throw (.fails 2)
      else do
        let limits := if isBoth then (limit, limit)
          else if request.isHard then (if isAbove now limit then limit else now, limit)
          else (limit, most)
        modifyProcess fun process =>
          { process with resources := (resource.letter, limits) ::
              process.resources.filter fun other => other.1 != resource.letter }
        pure 0

end LimitRequest

/-- The resources that arguments are about, each perhaps with the limit that it is to get, and the
letters that mean no resource. A resource may still wait for its limit. -/
def readLimits (waiting : Option Char) : List String → List Char × List (Char × Option String)
  | [] => ([], waiting.toList.map fun letter => (letter, none))
  | argument :: rest =>
      match argument.toList, waiting with
      | '-' :: first :: letters, _ =>
          let isFlag (letter : Char) : Bool := ['S', 'H', 'a'].contains letter
          let flags := (first :: letters).takeWhile isFlag
          let before := waiting.toList.map fun letter => (letter, none)
          match (first :: letters).dropWhile isFlag with
          | [] =>
              let (others, requests) := readLimits none rest
              (flags ++ others, before ++ requests)
          | [letter] =>
              let (others, requests) := readLimits (some letter) rest
              (flags ++ others, before ++ requests)
          | letter :: value =>
              let (others, requests) := readLimits none rest
              (flags ++ others, before ++ (letter, some (String.ofList value)) :: requests)
      | _, some letter =>
          let (others, requests) := readLimits none rest
          (others, (letter, some argument) :: requests)
      | _, none => ([], [('f', some argument)])

/-- Writes or sets limits in the extended language. -/
def runLimits (arguments : List String) : Action Nat := do
  let (flags, requests) := readLimits none (arguments.filter (· != "--"))
  let known := Resource.known true
  let find? (letter : Char) : Option Resource :=
    known.find? fun resource => resource.letter = letter
  match requests.find? fun request => (find? request.1).isNone with
  | some (letter, _) => refuseOption "ulimit" ("-" ++ String.singleton letter)
  | none => do
      let request : LimitRequest := ⟨flags.contains 'S', flags.contains 'H'⟩
      if flags.contains 'a' then do
        let statuses ← known.mapM (request.tell true)
        pure (statuses.foldl max 0)
      else do
        let requests := if requests.isEmpty then [('f', none)] else requests
        let statuses ← requests.mapM fun (letter, value) => do
          match find? letter, value with
          | some resource, some value => request.set resource value
          | some resource, none => request.tell (1 < requests.length) resource
          | none, _ => pure 1
        pure (statuses.foldl max 0)

/-- Writes or sets the limits of resources. -/
def runUlimit (arguments : List String) : Action Nat := do
  if ← isExtended then runLimits arguments
  else withLeading "ulimit" "HSatfdscmlpnvwr" "" arguments fun options rest => do
    let known := Resource.known false
    let request : LimitRequest := ⟨options.contains 'S', options.contains 'H'⟩
    let letters := options.filter fun letter => !(['H', 'S', 'a'].contains letter)
    let letter := letters.getLast?.getD 'f'
    match rest, known.find? fun resource => resource.letter = letter with
    | [], some resource =>
        if options.contains 'a' then do
          let statuses ← known.mapM (request.tell true)
          pure (statuses.foldl max 0)
        else request.tell false resource
    | [value], some resource => request.set resource value
    | _, _ => misuse "too many arguments"

end StaticMulticast.Host.Shell
