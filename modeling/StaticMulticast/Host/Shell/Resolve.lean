import StaticMulticast.Host.Process.Task
import StaticMulticast.Host.Shell.Builtin.Variable
import StaticMulticast.Host.Shell.Reader

/-!
# What the name of a command means

A name can be that of a function, of a command of the shell itself, or of a program. Errors of some
commands of the shell end a script of the plain language; these come before functions of their name.
-/

namespace StaticMulticast.Host.Shell

open Action

/-- The other commands of the shell. -/
def regularCommands : List String :=
  ["[", "alias", "bg", "cd", "chdir", "command", "echo", "false", "fg", "getopts", "hash", "jobs", "kill",
    "printf", "pwd", "read", "test", "true", "type", "ulimit", "umask", "unalias", "wait"]

/-- More commands of the extended language. -/
def extendedCommands : List String :=
  ["source", "declare", "typeset", "let", "shopt", "builtin", "mapfile", "readarray", "disown",
    "enable", "help", "history", "caller", "suspend", "logout", "pushd", "popd", "dirs", "compgen",
    "complete", "compopt", "bind", "fc"]

/-- What a name means. -/
inductive Meaning where
  | special
  | regular
  | function (body : Command)
  | program

/-- The shell has a command of this name itself. -/
def isShellCommand (name : String) : Action Bool := do
  let isKnown := specialCommands.contains name || regularCommands.contains name ||
    ((← isExtended) && extendedCommands.contains name)
  pure (isKnown && !(← process).disabled.contains name)

/-- What the name of a command means. -/
def meaning (name : String) : Action Meaning := do
  let process ← process
  let isExtended := process.dialect = .extended
  let function := process.functions.lookup name
  let isStrict := !isExtended || process.options.isOn "posix"
  if isStrict && specialCommands.contains name then pure .special
  else match function with
  | some body => pure (.function body)
  | none =>
      if process.disabled.contains name then pure .program
      else if specialCommands.contains name then pure .special
      else if regularCommands.contains name then pure .regular
      else if isExtended && extendedCommands.contains name then pure .regular
      else pure .program

/-- The words that hold commands together, as far as they are asked for by name. -/
def isReserved (isExtended : Bool) (name : String) : Bool :=
  commonWords.contains name || name = "in" ||
    (isExtended && ["[[", "]]", "function", "time", "select", "coproc"].contains name)

/-- The paths at which a program without a slash in its name is looked for. -/
def programPaths (name : String) : Action (List String) := do
  let directories := Files.directoriesOf (← searchPath)
  pure (if name.isEmpty then [] else directories.map fun directory =>
    if directory.isEmpty then name else directory ++ "/" ++ name)

/-- A program can be run that stands at the end of a path. -/
def isRunnable (path : String) : Action Bool := do
  pure (match (← files).runnable (← process).working (pathOf path) with
    | .ok _ => true
    | .error _ => false)

/-- The path of the program that a name means, if there is one. -/
def programPath? (name : String) : Action (Option String) := do
  if name.toList.contains '/' then pure (if ← isRunnable name then some name else none)
  else do (← programPaths name).findM? isRunnable

/-- Notes that a program has been asked for by its name. -/
def noteProgram (name path : String) (asked : Nat) : Action Unit :=
  modifyProcess fun process =>
    match process.known.find? fun known => known.name = name with
    | some _ =>
        { process with known := process.known.map fun known =>
            if known.name = name then { known with count := known.count + asked, isOld := false }
            else known }
    | none => { process with known := { name, path, count := asked } :: process.known }

/-! ## Texts of scripts -/

/-- The octet is in no text. -/
def isNoText (octet : UInt8) : Bool :=
  octet < 9 || (15 < octet && octet < 27) || (27 < octet && octet < 32) || octet = 127

/-- The octets are no script, since there are some on the first line that no text has. -/
def isNoScript (isExtended : Bool) (octets : List UInt8) : Bool :=
  let first := (octets.take (if isExtended then 80 else 128)).takeWhile (· != 0xA)
  if isExtended then first.contains 0 || [0x7F, 0x45, 0x4C, 0x46].isPrefixOf octets
  else first.any isNoText

/-- The text of a script. Zero octets are left out. -/
def scriptText (octets : List UInt8) : String :=
  Text.Octets.ofList (octets.filter (· != 0))

/-! ## What a name means in all ways -/

/-- A way in which a name can mean something. -/
inductive Sense where
  | word (text : String)
  | keyword
  | function (body : Command)
  | special
  | regular
  /-- A program at a path, and whether it has been found before. -/
  | program (path : String) (isKnown : Bool)

/-- The programs that a name means. -/
def programSenses (name : String) : Action (List Sense) := do
  let extended ← isExtended
  if name.toList.contains '/' then do
    let isThere ← if extended then isRunnable name else do pure (← find? true name).isSome
    pure (if isThere then [.program name false] else [])
  else match (← process).known.find? fun known => known.name = name with
  | some known => do
      noteProgram name known.path 1
      let paths ← (← programPaths name).filterM isRunnable
      pure (.program known.path true :: paths.map fun path => .program path false)
  | none => do
      let paths ← (← programPaths name).filterM isRunnable
      if !extended then paths.head?.forM fun path => noteProgram name path 0
      pure (paths.map fun path => .program path false)

/-- All ways in which a name means something, in the order in which they count. -/
def senses (name : String) : Action (List Sense) := do
  let extended ← isExtended
  let process ← process
  let isUsed := !extended || (← hasOption "expand_aliases")
  let words := if isUsed then (process.aliases.lookup name).toList.map Sense.word else []
  let keywords := if isReserved extended name then [Sense.keyword] else []
  let functions := (process.functions.lookup name).toList.map Sense.function
  let own ← isShellCommand name
  let commands := if !own then []
    else if specialCommands.contains name && !extended then [Sense.special] else [.regular]
  let isKnown := !(words.isEmpty && keywords.isEmpty && functions.isEmpty && commands.isEmpty)
  let programs ← if isKnown && !extended then pure [] else programSenses name
  pure (if extended then words ++ keywords ++ functions ++ commands ++ programs
    else keywords ++ words ++
      (if commands.any fun sense => sense matches .special then commands ++ functions
        else functions ++ commands) ++ programs)

/-- A way in which a name means something, in a sentence. -/
def Sense.sentence (isExtended : Bool) (name : String) : Sense → String
  | .word text =>
      if isExtended then name ++ " is aliased to " ++ inOldQuotes text
      else name ++ " is an alias for " ++ text
  | .keyword => name ++ " is a shell keyword"
  | .function body =>
      if isExtended then name ++ " is a function\n" ++ functionText name body
      else name ++ " is a shell function"
  | .special => name ++ " is a special shell builtin"
  | .regular => name ++ " is a shell builtin"
  | .program path isKnown =>
      if !isKnown then name ++ " is " ++ path
      else if isExtended then name ++ " is hashed (" ++ path ++ ")"
      else name ++ " is a tracked alias for " ++ path

/-- A way in which a name means something, as it is used. -/
def Sense.use (isExtended : Bool) (name : String) : Sense → String
  | .word text =>
      "alias " ++ name ++ "=" ++ (if isExtended then inQuotes text else shownValue false text)
  | .program path _ => path
  | _ => name

/-- A way in which a name means something, in one word. -/
def Sense.kind : Sense → String
  | .word _ => "alias"
  | .keyword => "keyword"
  | .function _ => "function"
  | .special | .regular => "builtin"
  | .program _ _ => "file"

/-- Describes names, as they are used or in sentences. -/
def describeAll (inSentence : Bool) (names : List String) : Action Nat := do
  let extended ← isExtended
  let missing : Nat := if extended then 1 else 127
  let statuses ← names.mapM fun name => do
    match (← senses name).head? with
    | some sense =>
        answer ((if inSentence then sense.sentence extended name else sense.use extended name) ++
          "\n")
    | none => do
        if inSentence && extended then protest (name ++ ": not found")
        else if inSentence then
          let _ ← answer (name ++ ": not found\n")
        pure missing
  pure (statuses.foldl (fun status other => if other = 0 then status else other) 0)

/-- Tells what a name means in the way that options of the extended language ask for. -/
def tellSenses (options : List Char) (name : String) : Action Nat := do
  let asks (letter : Char) : Bool := options.contains letter
  let isProgram : Sense → Bool
    | .program _ _ => true
    | _ => false
  let isWanted : Sense → Bool
    | .function _ => !asks 'f' && !asks 'P'
    | .program _ _ => true
    | _ => !asks 'P'
  let all := (← senses name).filter isWanted
  let chosen := if asks 'a' then all.filter fun sense => match sense with
      | .program _ isKnown => !isKnown
      | _ => true
    else all.take 1
  let isShort := asks 'p' || asks 'P'
  if asks 't' then chosen.forM fun sense => do
    let _ ← answer (sense.kind ++ "\n")
  else if isShort then (chosen.filter isProgram).forM fun sense => do
    let _ ← answer (sense.use true name ++ "\n")
  else chosen.forM fun sense => do
    let _ ← answer (sense.sentence true name ++ "\n")
  if all.isEmpty && !asks 't' && !isShort then protest (name ++ ": not found")
  pure (if all.isEmpty then 1 else 0)

/-- Tells what names mean. -/
def runType (arguments : List String) : Action Nat := do
  if ← isExtended then
    withLeading "type" "" "afptP" arguments fun options names => do
      let statuses ← names.mapM (tellSenses options)
      pure (statuses.foldl max 0)
  else describeAll true arguments

end StaticMulticast.Host.Shell
