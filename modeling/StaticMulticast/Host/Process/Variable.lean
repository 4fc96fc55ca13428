import StaticMulticast.Host.Process.Basic
import StaticMulticast.Host.Process.Stream

/-!
# Variables

The parameters of a script: its variables, its arguments, and what the shell tells about itself.
Variables can be lists in the extended language.
-/

namespace StaticMulticast.Host

namespace Value

/-- The value as one text. A list has that of its first member. -/
def text? : Value → Option String
  | .absent => none
  | .single text => some text
  | .list members => members.lookup 0
  | .table members => members.lookup "0"

/-- All texts of a value, in order. -/
def texts : Value → List String
  | .absent => []
  | .single text => [text]
  | .list members => members.map (·.2)
  | .table members => members.map (·.2)

/-- The places of a value where there is a text. -/
def places : Value → List String
  | .absent => []
  | .single _ => ["0"]
  | .list members => members.map fun member => toString member.1
  | .table members => members.map (·.1)

/-- Puts a text at a place of a list, in order. -/
def insert (place : Nat) (text : String) : List (Nat × String) → List (Nat × String)
  | [] => [(place, text)]
  | (other, held) :: rest =>
      if place < other then (place, text) :: (other, held) :: rest
      else if place = other then (place, text) :: rest
      else (other, held) :: insert place text rest

/-- The members of a value as a list. -/
def members : Value → List (Nat × String)
  | .single text => [(0, text)]
  | .list members => members
  | _ => []

/-- The part, of so many, of a table that a place belongs to. It is found from the octets of the place, and says
where the place stands among others. -/
def part (count : Nat) (place : String) : Nat :=
  let step (held : Nat) (octet : UInt8) : Nat :=
    let wide := if octet < 0x80 then octet.toNat else octet.toNat + 0xFFFFFF00
    (held * 0x1000193 % 0x100000000) ^^^ wide
  (Text.Octets.toList place).foldl step 0x811C9DC5 % count

/-- The number of parts of a table. -/
def partCount : Nat := 0x400

/-- Puts a text at a new place of a table: in front of the others of its part. -/
def insertNew (place text : String) : List (String × String) → List (String × String)
  | [] => [(place, text)]
  | (other, held) :: rest =>
      if part partCount other < part partCount place then (other, held) :: insertNew place text rest
      else (place, text) :: (other, held) :: rest

/-- Puts a text at a place of a table. -/
def insertNamed (place text : String) (members : List (String × String)) :
    List (String × String) :=
  if members.any fun member => member.1 = place then
    members.map fun member => if member.1 = place then (place, text) else member
  else insertNew place text members

/-- The value with its letters in a case. -/
def cased (casing : Casing) (value : Value) : Value :=
  let change (text : String) : String :=
    String.ofList (match casing, text.toList with
      | .upper, letters => letters.map Char.toUpper
      | .lower, letters => letters.map Char.toLower
      | .capital, first :: rest => first.toUpper :: rest.map Char.toLower
      | .capital, [] => [])
  match value with
  | .absent => .absent
  | .single text => .single (change text)
  | .list members => .list (members.map fun (place, text) => (place, change text))
  | .table members => .table (members.map fun (place, text) => (place, change text))

/-- The place after the last of a list. -/
def nextPlace (members : List (Nat × String)) : Nat :=
  match members.getLast? with
  | some (place, _) => place + 1
  | none => 0

end Value

/-- The descriptors that lead to what commands write or read whose paths are used. -/
def Shell.substitutionDescriptors : List Nat := [63, 62, 61, 60, 59, 58, 57, 56]

/-- A path with a tilde in the place of the home directory. -/
def Shell.withTilde (home path : String) : String :=
  let (letters, house) := (path.toList, home.toList)
  if house.isEmpty || house = ['/'] then path
  else if letters = house then "~"
  else if (house ++ ['/']).isPrefixOf letters then
    "~" ++ String.ofList (letters.drop house.length)
  else path

namespace Action

/-- The name of the variable that a name stands for. The bound is on the references on the way. -/
def meantName (bindings : List (String × Binding)) : Nat → String → String
  | 0, name => name
  | bound + 1, name =>
      match bindings.lookup name with
      | some { value := .single other, isReference := true, .. } =>
          if other.isEmpty then name else meantName bindings bound other
      | _ => name

/-- The name of the variable that a name stands for. -/
def nameOf (name : String) : Action String := do
  pure (meantName (← process).bindings 8 name)

/-- The variable of a name itself, even if it is a reference. -/
def ownBinding? (name : String) : Action (Option Binding) := do
  pure ((← process).bindings.lookup name)

/-- Puts a variable in the place of that of a name itself, or removes it. -/
def setOwnBinding (name : String) (binding : Option Binding) : Action Unit :=
  modifyProcess fun process =>
    let others := process.bindings.filter fun other => other.1 != name
    { process with
      bindings := match binding with
        | some binding => (name, binding) :: others
        | none => others }

/-- The variable is a reference to one of its own name, which stands for the one that it hides. -/
def isOwnTarget (name : String) : Action Bool := do
  pure (match ← ownBinding? name with
    | some { value := .single target, isReference := true, .. } => target = name
    | _ => false)

/-- The variable that a name stands for. -/
def binding? (name : String) : Action (Option Binding) := do
  let name ← nameOf name
  if ← isOwnTarget name then
    let hidden := (← process).hidden
    pure ((hidden.findSome? fun call => call.lookup name).bind id)
  else ownBinding? name

/-- Puts a variable in the place of one that is hidden. -/
def putHidden (name : String) (binding : Option Binding) :
    List (List (String × Option Binding)) → List (List (String × Option Binding))
  | [] => []
  | call :: rest =>
      if call.any fun held => held.1 = name then
        ((name, binding) :: call.filter fun held => held.1 != name) :: rest
      else call :: putHidden name binding rest

/-- Puts a variable in the place of the one that a name stands for, or removes it. -/
def setBinding (name : String) (binding : Option Binding) : Action Unit := do
  let name ← nameOf name
  if ← isOwnTarget name then
    modifyProcess fun process =>
      { process with hidden := putHidden name binding process.hidden }
  else setOwnBinding name binding

/-- Tells what is wrong. If failures end a script of the extended language, this ends it in any case.
-/
def report (message : String) : Action Unit := do
  complain message
  let { dialect, options, .. } ← process
  if dialect = .extended && options.stopsOnFailure then throw (.exits 1)

/-- A variable cannot be changed. -/
def refuseChange {Result : Type} (name : String) : Action Result := do
  if ← isExtended then do
    report (name ++ ": readonly variable")
    if (← process).options.isOn "posix" then throw (.exits 1) else throw (.abandons 1)
  else do
    complain (name ++ ": is read only")
    throw (.fails 2)

/-- Changes variables for a command, and tells whether they can be changed. -/
def tryChange (change : Action Unit) : Action Bool := do
  match ← attempt change with
  | .ok _ => pure true
  | .error (.abandons _) => pure false
  | .error jump => throw jump

/-- The command cannot go on. In the extended language only the line is given up. -/
def giveUp {Result : Type} (message : String) : Action Result := do
  complain message
  if ← isExtended then throw (.abandons 1) else throw (.fails 2)

/-- Gives a variable a value. Where programs have been found is forgotten when they are looked for in
other directories. -/
def setValue (name : String) (value : Value) : Action Unit := do
  let options := (← process).options
  if name = "PATH" then modifyProcess fun process => { process with known := [] }
  match ← binding? name with
  | some binding =>
      if binding.isFixed then refuseChange name
      else
        let value := match binding.casing with
          | some casing => value.cased casing
          | none => value
        setBinding name (some { binding with
          value, isBare := false, isExported := binding.isExported || options.exportsAll })
  | none => setBinding name (some { value, isExported := options.exportsAll })

/-- What numbers that are drawn by lot grow out of next. -/
def nextSeed (seed : Nat) : Nat :=
  16807 * (if seed = 0 then 123459876 else seed) % 0x7FFFFFFF

/-- Draws a number by lot that differs from the last one. The bound is on the number of tries. -/
def drawLot (last : Nat) : Nat → Nat → Nat × Nat
  | 0, seed => (seed, last)
  | bound + 1, seed =>
      let seed := nextSeed seed
      let lot := (seed / 0x10000 ^^^ seed % 0x10000) % 0x8000
      if lot = last then drawLot last bound seed else (seed, lot)

/-- Some variables of the extended language tell what the shell does when they are given a value. -/
def noteText (name text : String) : Action Unit := do
  let { clock, .. } ← world
  modifyProcess fun process =>
    if process.dialect = .plain then process
    else match name with
    | "RANDOM" => { process with seed := text.toNat?.getD 0 % 0x100000000, lastLot := 0 }
    | "SECONDS" => { process with start := clock - 1000000 * (text.toNat?.getD 0) }
    | "POSIXLY_CORRECT" => { process with options := process.options.turn true "posix" }
    | _ => process

/-- Gives a variable a text as its value. In a list, that is the first member. -/
def setText (name text : String) : Action Unit := do
  noteText name text
  match (← binding? name).map Binding.value with
  | some (.list members) => setValue name (.list (Value.insert 0 text members))
  | some (.table members) =>
      setValue name (.table (Value.insertNamed "0" text members))
  | _ => setValue name (.single text)

/-- A further option of the extended language is on. -/
def hasOption (name : String) : Action Bool := do
  pure ((← process).options.further.contains name)

/-- What a variable that a call further out has hidden was there, and what is hidden without it. -/
def takeHidden (name : String) :
    List (List (String × Option Binding)) →
      Option (Option Binding × List (List (String × Option Binding)))
  | [] => none
  | call :: rest =>
      match call.lookup name with
      | some held => some (held, (call.filter fun other => other.1 != name) :: rest)
      | none => (takeHidden name rest).map fun (held, rest) => (held, call :: rest)

/-- Removes a variable. In the extended language, a variable of a call further out lets the one that
it has hidden be seen again. -/
def removeBinding (name : String) : Action Bool := do
  match ← binding? name with
  | some binding =>
      if binding.isFixed then pure false
      else do
        if name = "POSIXLY_CORRECT" then
          modifyProcess fun process =>
            { process with options := process.options.turn false "posix" }
        let { hidden, dialect, .. } ← process
        let keeps := dialect = .plain || (← hasOption "localvar_unset") ||
          (hidden.headD []).any fun other => other.1 = name
        match if keeps then none else takeHidden name hidden.tail with
        | some (held, rest) => do
            modifyProcess fun process => { process with hidden := hidden.headD [] :: rest }
            setBinding name held
        | none => setBinding name none
        pure true
  | none => pure true

/-- The separator of the arguments when they are joined. -/
def joint : Action String := do
  match (← binding? "IFS").bind fun binding => binding.value.text? with
  | none => pure " "
  | some text => pure (String.ofList (text.toList.take 1))

/-- The value of a parameter, if it has one. -/
def parameter? (name : String) : Action (Option String) := do
  let process ← process
  match name with
  | "?" => pure (some (toString process.status))
  | "$" => pure (some (toString process.shellNumber))
  | "#" => pure (some (toString process.arguments.length))
  | "!" => pure (process.lastJob.map toString)
  | "-" => pure (some (process.options.letters (process.dialect = .extended)))
  | "0" => pure (some process.name)
  | "@" | "*" =>
      if process.arguments.isEmpty then pure none
      else do pure (some (String.intercalate (← joint) process.arguments))
  | _ =>
      if name.toList.all Char.isDigit then
        match name.toNat? with
        | some (place + 1) => pure process.arguments[place]?
        | _ => pure none
      else if process.dialect = .extended then
        match name with
        | "FUNCNAME" => pure (if process.calls = 0 then none else process.frames.head?.map Frame.name)
        | "BASH_SOURCE" =>
            pure (if process.frames.isEmpty then process.script else some process.source)
        | "BASHPID" => pure (some (toString process.number))
        | "BASH" => pure (some "/bin/bash")
        | "BASH_VERSION" => pure (some "5.2.15(1)-release")
        | "SECONDS" => do pure (some (toString (((← world).clock - process.start) / 1000000)))
        | "LINENO" => pure (some (toString process.line))
        | "RANDOM" => do
            let start := if process.seed = 0 then 17767 + process.number else process.seed
            let (seed, lastLot) := drawLot process.lastLot 8 start
            modifyProcess fun process => { process with seed, lastLot }
            pure (some (toString lastLot))
        | "SRANDOM" => do
            let start := if process.seed = 0 then 17767 + process.number else process.seed
            let seed := nextSeed start
            modifyProcess fun process => { process with seed }
            pure (some (toString seed))
        | "EPOCHSECONDS" => do pure (some (toString ((← now) / 1000000)))
        | "EPOCHREALTIME" => do
            let time ← now
            let millionths := toString (time % 1000000)
            let zeros := String.ofList (List.replicate (6 - millionths.length) '0')
            pure (some (toString (time / 1000000) ++ "." ++ zeros ++ millionths))
        | "BASH_COMMAND" => pure (some process.command)
        | "BASH_SUBSHELL" => pure (some (toString process.copies))
        | "BASH_LINENO" =>
            pure (match process.frames with
              | frame :: _ => some (toString frame.line)
              | [] => process.script.map fun _ => "0")
        | "UID" | "EUID" => pure (some "0")
        | "SHELLOPTS" => pure (some (String.intercalate ":" (process.options.namesOn true)))
        | "BASHOPTS" => pure (some (String.intercalate ":" (process.options.furtherOn)))
        | "PIPESTATUS" => pure (process.pipeStatus.head?.map toString)
        | _ => pure ((← binding? name).bind fun binding => binding.value.text?)
      else pure ((← binding? name).bind fun binding => binding.value.text?)

/-- The value of a parameter, empty if it has none. -/
def parameter (name : String) : Action String := do
  pure ((← parameter? name).getD "")

/-- The variables that programs can see. -/
def environment : Action (List (String × String)) := do
  pure ((← process).bindings.filterMap fun (name, binding) =>
    if binding.isExported then
      match binding.value with
      | .single text => some (name, text)
      | _ => none
    else none)

/-- Lets a variable have another value until the current call ends. -/
def hide (name : String) : Action Unit := do
  let held ← ownBinding? name
  modifyProcess fun process =>
    match process.hidden with
    | [] => process
    | call :: rest =>
        if call.any fun other => other.1 = name then process
        else { process with hidden := ((name, held) :: call) :: rest }

/-- Gives variables back what they had before the current call. -/
def reveal : Action Unit := do
  match (← process).hidden with
  | [] => pure ()
  | call :: rest => do
      modifyProcess fun process => { process with hidden := rest }
      call.forM fun (name, binding) => setOwnBinding name binding

end Action

end StaticMulticast.Host
