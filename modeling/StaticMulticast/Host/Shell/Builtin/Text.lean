import StaticMulticast.Host.Shell.Resolve
import StaticMulticast.Host.Utility.Format
import StaticMulticast.Host.Utility.Input

/-!
# Commands about texts

The commands that write texts, and those that run texts as commands: the text of their arguments, or
that of a file.
-/

namespace StaticMulticast.Host.Shell

open Action

/-! ## Writing texts -/

/-- The shell as one that writes. -/
def writer : Action Utility.Writer := do
  pure (if ← isExtended then .extended else .plain)

/-- Writes words. -/
def runEcho (arguments : List String) : Action Nat := do
  answer (Utility.echoText (← writer) (← hasOption "xpg_echo") arguments)

/-- Writes arguments in a format, or gives a variable the text. -/
def writeFormatted (target : Option String) (format : String) (arguments : List String) :
    Action Nat := do
  let now := (← now) / 1000000
  let start := now - Int.ofNat (((← world).clock - (← process).start) / 1000000)
  let (outcomes, status) := Utility.formatted (← writer) now start format arguments
  match target with
  | some name =>
      if isTarget true name then do
        let isDone ← assignTarget name (Utility.writtenText outcomes)
        outcomes.forM fun outcome => match outcome with
          | .text _ => pure ()
          | .message text => protest text
        pure (if isDone then status else 1)
      else do
        protest (inOldQuotes name ++ ": not a valid identifier")
        pure 2
  | none => do
      let written ← outcomes.mapM fun outcome => match outcome with
        | .text text => answer text
        | .message text => do
            protest text
            pure 0
      pure (written.foldl max status)

/-- Writes arguments in a format. In the extended language, the text can be given to a variable. -/
def runPrintf (arguments : List String) : Action Nat := do
  match arguments, (← isExtended) with
  | "--" :: format :: rest, _ => writeFormatted none format rest
  | ["--"], true => do
      tellUse "printf"
      pure 2
  | ["--"], false => do
      protest "usage: printf format [arg ...]"
      throw (.fails 2)
  | "-v" :: name :: format :: rest, true => writeFormatted (some name) format rest
  | format :: rest, _ =>
      if format.toList.head? = some '-' && 1 < format.length then
        refuseOption "printf" (String.ofList (format.toList.take 2))
      else writeFormatted none format rest
  | [], true => do
      tellUse "printf"
      pure 2
  | [], false => do
      protest "usage: printf format [arg ...]"
      throw (.fails 2)

/-- Reads lines one after the other, so many at most. -/
def takeLines (descriptor : Nat) (ending : UInt8) :
    Nat → Action (Except Fault (List (List UInt8)))
  | 0 => pure (.ok [])
  | count + 1 => do
      match ← readLine descriptor ending with
      | .error fault => pure (.error fault)
      | .ok [] => pure (.ok [])
      | .ok line => do
          match ← takeLines descriptor ending count with
          | .error fault => pure (.error fault)
          | .ok rest => pure (.ok (line :: rest))

/-- A bound on the number of lines that are read into a list. -/
def mostLines : Nat := 0x100000

/-- What is wrong with the numbers that a reader of lines is given. -/
def linesFault? (given : Utility.Given) : Option String :=
  let rows := [('n', "invalid line count"), ('O', "invalid array origin"),
    ('s', "invalid line count"), ('c', "invalid callback quantum"),
    ('u', "invalid file descriptor specification")]
  rows.findSome? fun (letter, fault) =>
    match given.text? letter with
    | some text =>
        if (Text.Decimal.digits? text.toList).any fun number => letter != 'c' || 0 < number then none
        else some (text ++ ": " ++ fault)
    | none => none

/-- Puts texts into a list from a place on. A command may be run now and then, before a text is put
into the list. It is given the place and the text. -/
def fillLines (again : Runner) (name callback : String) (quantum : Nat) :
    Nat → Nat → List String → Action Unit
  | _, _, [] => pure ()
  | count, place, text :: rest => do
      if !callback.isEmpty && (count + 1) % quantum = 0 then do
        let line := (← process).line
        again (.script { } line (callback ++ " " ++ toString place ++ " " ++ inQuotes text))
      Expansion.setMember name (.number (Int.ofNat place)) text
      fillLines again name callback quantum (count + 1) (place + 1) rest

/-- Reads lines into a list. -/
def runMapfile (again : Runner) (arguments : List String) : Action Nat := do
  match Utility.readLeading (Utility.knownLetters "t" "dnOsuCc") arguments with
  | none => refuseOption "mapfile" (String.ofList ((arguments.headD "").toList.take 2))
  | some given => do
      let number (letter : Char) : Nat := ((given.text? letter).bind String.toNat?).getD 0
      let ending := match (given.text? 'd').map String.toList with
        | some letters => UInt8.ofNat ((letters.head?.map Char.toNat).getD 0)
        | none => 0xA
      let count := if number 'n' = 0 then mostLines else number 's' + number 'n'
      let name := given.operands.headD "MAPFILE"
      match linesFault? given with
      | some fault => misuse fault
      | none =>
      if !isName name.toList then misuse (inOldQuotes name ++ ": not a valid identifier")
      else match ← takeLines (number 'u') ending count with
      | .error fault =>
          misuse (toString (number 'u') ++ ": invalid file descriptor: " ++ fault.reason)
      | .ok lines => do
          let close (line : List UInt8) : List UInt8 :=
            let line := if given.has 't' && line.getLast? = some ending then line.dropLast else line
            if ending = 0 then line.filter (· != 0) else line
          let texts := (lines.drop (number 's')).map fun line => Text.Octets.ofList (close line)
          let held ← if given.has 'O' then do pure (← Expansion.valueOf name).members else pure []
          let quantum := if given.has 'c' then number 'c' else 5000
          let callback := (given.text? 'C').getD ""
          if ← tryChange (setValue name (.list held)) then do
            if callback.isEmpty then
              let members := (List.range texts.length).zip texts
              setValue name (.list (members.foldl (fun held (place, text) =>
                Value.insert (number 'O' + place) text held) held))
            else fillLines again name callback quantum 0 (number 'O') texts
            pure 0
          else pure 1

/-! ## Running texts -/

/-- Runs the arguments as a text. -/
def runEval (again : Runner) (context : Context) (arguments : List String) : Action Nat := do
  let text := String.intercalate " " arguments
  let line := (← process).line
  again (.script { context with isLast := false } line text)
  pure (← process).status

/-- The path of a file to run: one without a slash is looked for where programs are. -/
def sourcePath? (name : String) : Action (Option String) := do
  if name.toList.contains '/' then pure (some name)
  else do
    let isThere (path : String) : Action Bool := do
      pure ((← find? true path).any Found.isPlain)
    let paths := (Files.directoriesOf (← searchPath)).map fun directory =>
      if directory.isEmpty then name else directory ++ "/" ++ name
    let extended ← isExtended
    if extended && !(← hasOption "sourcepath") then [name].findM? isThere
    else (if extended then paths ++ [name] else paths).findM? isThere

/-- Runs the text of a file in the same shell. The extended language can give it other arguments. -/
def runSource (again : Runner) (context : Context) (arguments : List String) : Action Nat := do
  let extended ← isExtended
  let arguments := if arguments.head? = some "--" then arguments.tail else arguments
  let refuse (name : String) (fault : Fault) : Action Nat := do
    if extended then
      if fault = .directory then protest (name ++ ": is a directory")
      else complain (name ++ ": " ++ fault.reason)
      pure 1
    else do
      complain (if name.toList.contains '/' then
          "cannot open " ++ name ++ ": " ++ plainReason "No such file" fault
        else name ++ ": not found")
      throw (.fails 2)
  match arguments with
  | [] => do
      if extended then do
        protest "filename argument required"
        tellUse ((← process).running.getD ".")
        pure 2
      else pure 0
  | name :: rest => do
      match ← sourcePath? name with
      | none => refuse name .missing
      | some path => do
          match ← readPath path with
          | .error fault =>
              if fault = .directory && !extended then pure 0 else refuse name fault
          | .ok octets =>
            if extended && isNoScript true octets then do
              protest (name ++ ": cannot execute binary file")
              pure 126
            else do
              let caller ← process
              let replaces := extended && !rest.isEmpty
              modifyProcess fun process =>
                { process with
                  sourced := process.sourced + 1
                  running := if extended then process.running else some path
                  frames := ⟨"source", process.line, path⟩ :: process.frames
                  arguments := if replaces then rest else process.arguments }
              let result ← attempt
                (again (.script { context with isLast := false } 1 (scriptText octets)))
              modifyProcess fun process =>
                { process with
                  sourced := caller.sourced
                  frames := caller.frames
                  arguments := if replaces then caller.arguments else process.arguments }
              match result with
              | .ok _ | .error .returns => pure (← process).status
              | .error jump => throw jump

end StaticMulticast.Host.Shell
