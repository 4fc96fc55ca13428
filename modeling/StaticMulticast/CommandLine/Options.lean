import StaticMulticast.Log.Format

/-!
# Options of the command line

An argument is an option with two dashes and a name, a group of options with one dash and a letter
each, or the value of the option before it. A value can also stand in the argument of its option,
after an equals sign or directly after the letter, and no argument that begins with a dash and goes
on is a value. There are no other arguments. Each option can be given once.
-/

namespace StaticMulticast.CommandLine

/-- An option with a value. -/
inductive Setting where
  | configFile
  | script
  | logFile
  | logFormat
deriving DecidableEq, Repr

/-- An option without a value. -/
inductive Flag where
  | noVifs
  | noIPv6
  | help
  | version
deriving DecidableEq, Repr

/-- An option. -/
inductive Switch where
  | setting (setting : Setting)
  | flag (flag : Flag)
deriving DecidableEq, Repr

/-- The option of a name. -/
def Switch.ofName? (name : String) : Option Switch :=
  if name = "config-file" then some (.setting .configFile)
  else if name = "script" then some (.setting .script)
  else if name = "log-file" then some (.setting .logFile)
  else if name = "log-format" then some (.setting .logFormat)
  else if name = "no-vifs" then some (.flag .noVifs)
  else if name = "no-ipv6" then some (.flag .noIPv6)
  else if name = "help" then some (.flag .help)
  else if name = "version" then some (.flag .version)
  else none

/-- The option of a letter. -/
def Switch.ofLetter? (letter : Char) : Option Switch :=
  if letter = 'f' then some (.setting .configFile)
  else if letter = 'e' then some (.setting .script)
  else if letter = 'l' then some (.setting .logFormat)
  else if letter = 'N' then some (.flag .noVifs)
  else if letter = 'h' then some (.flag .help)
  else if letter = 'V' then some (.flag .version)
  else none

/-- Why a command line is not one to start the daemon with. -/
inductive UsageFault where
  | unknownArgument
  | emptyValue
  | badValue
  | repeated
  | helpWanted
  | versionWanted
deriving DecidableEq, Repr

/-- The reason in words. -/
def UsageFault.message : UsageFault → String
  | .unknownArgument => "error: an argument is not known"
  | .emptyValue => "error: an option has no value"
  | .badValue => "error: the value of an option is not valid"
  | .repeated => "error: an option is given more than once"
  | .helpWanted => "static multicast routing daemon"
  | .versionWanted => ""

/-- What a command line says. -/
structure Options where
  configFile : Option String
  script : Option String
  logFile : Option String
  logFormat : Option Log.Format
  noVifs : Bool
  noIPv6 : Bool
deriving DecidableEq, Repr

/-- How the argument before an argument bears on it. -/
inductive Before where
  /-- It was a flag, or there was none. -/
  | plain
  /-- It was an option whose value is still to come. -/
  | awaiting (setting : Setting)
  /-- It completed an option with its value. -/
  | completed
deriving DecidableEq, Repr

/-- The arguments read so far: the options given, latest first, and the values given, latest
first. -/
structure Scan where
  given : List Switch
  values : List (Setting × String)
  before : Before
  /-- Two dashes alone have been given, after which no option can come. -/
  closed : Bool
deriving DecidableEq, Repr

namespace Scan

/-- Before the first argument. -/
def start : Scan := ⟨[], [], .plain, false⟩

/-- Takes a flag. Help and the version are given at once, whatever else there is. -/
def takeFlag (scan : Scan) (flag : Flag) : Except UsageFault Scan :=
  match flag with
  | .help => .error .helpWanted
  | .version => .error .versionWanted
  | flag => .ok { scan with given := .flag flag :: scan.given, before := .plain }

/-- Takes an option with the value in its argument, if there is one. Equals signs in front of the
value are left out. -/
def takeSetting (scan : Scan) (setting : Setting) (value : Option (List Char)) : Scan :=
  let given := .setting setting :: scan.given
  match value with
  | none => { scan with given, before := .awaiting setting }
  | some text =>
      let value := String.ofList (text.dropWhile (· == '='))
      { scan with given, values := (setting, value) :: scan.values, before := .completed }

/-- Takes an argument with two dashes, given without its dashes. -/
def takeLong (scan : Scan) (text : List Char) : Except UsageFault Scan :=
  let value := match text.dropWhile (· != '=') with
    | [] => none
    | _ :: value => some value
  match Switch.ofName? (String.ofList (text.takeWhile (· != '='))) with
  | none => .error .unknownArgument
  | some (.flag flag) => scan.takeFlag flag
  | some (.setting setting) => .ok (scan.takeSetting setting value)

/-- Takes a group of letters. An option with a value has the rest of the group as its value. -/
def takeLetters (scan : Scan) : List Char → Except UsageFault Scan
  | [] => .ok scan
  | letter :: rest =>
      match Switch.ofLetter? letter with
      | none => .error .unknownArgument
      | some (.flag flag) =>
          match scan.takeFlag flag with
          | .error fault => .error fault
          | .ok scan => scan.takeLetters rest
      | some (.setting setting) =>
          .ok (scan.takeSetting setting (if rest.isEmpty then none else some rest))

/-- Takes an argument that is no option. -/
def takeOther (scan : Scan) (argument : List Char) : Except UsageFault Scan :=
  match scan.before with
  | .awaiting setting =>
      .ok { scan with
        values := (setting, String.ofList argument) :: scan.values, before := .completed }
  | _ => .error .unknownArgument

/-- Takes an argument. -/
def take (scan : Scan) (argument : String) : Except UsageFault Scan :=
  if scan.closed then .error .unknownArgument
  else match argument.toList with
    | ['-', '-'] => .ok { scan with closed := true }
    | '-' :: '-' :: rest => scan.takeLong (rest.dropWhile (· == '-'))
    | '-' :: letter :: rest => scan.takeLetters (letter :: rest)
    | argument => scan.takeOther argument

/-- Takes all arguments. -/
def takeAll (scan : Scan) : List String → Except UsageFault Scan
  | [] => .ok scan
  | argument :: rest =>
      match scan.take argument with
      | .error fault => .error fault
      | .ok scan => scan.takeAll rest

/-- How often an option was given. -/
def count (scan : Scan) (switch : Switch) : Nat :=
  scan.given.count switch

/-- The value of an option, which must have one if it was given, and be given once. -/
def value (scan : Scan) (setting : Setting) : Except UsageFault (Option String) :=
  let value := scan.values.lookup setting
  if 0 < scan.count (.setting setting) && value.isNone then .error .emptyValue
  else if 1 < scan.count (.setting setting) then .error .repeated
  else .ok value

/-- The log format that was given. A value that is none is refused before it is looked whether the
option repeats. -/
def logFormat (scan : Scan) : Except UsageFault (Option Log.Format) :=
  let texts := (scan.values.filter fun given => given.1 == .logFormat).map Prod.snd
  if texts.all fun text => (Log.Format.ofText? text).isSome then do
    match ← scan.value .logFormat with
    | none => pure none
    | some text => pure (Log.Format.ofText? text)
  else .error .badValue

/-- Whether a flag was given, which it can be once. -/
def flag (scan : Scan) (flag : Flag) : Except UsageFault Bool :=
  if 1 < scan.count (.flag flag) then .error .repeated
  else .ok (scan.count (.flag flag) == 1)

/-- What the arguments say as a whole. -/
def finish (scan : Scan) : Except UsageFault Options := do
  if let .awaiting setting := scan.before then
    if (scan.values.lookup setting).isNone then throw .emptyValue
  let configFile ← scan.value .configFile
  let script ← scan.value .script
  let logFile ← scan.value .logFile
  let logFormat ← scan.logFormat
  let noVifs ← scan.flag .noVifs
  let noIPv6 ← scan.flag .noIPv6
  pure ⟨configFile, script, logFile, logFormat, noVifs, noIPv6⟩

end Scan

/-- Reads a command line, without the name of the program. -/
def Options.read (arguments : List String) : Except UsageFault Options := do
  (← Scan.start.takeAll arguments).finish

end StaticMulticast.CommandLine
