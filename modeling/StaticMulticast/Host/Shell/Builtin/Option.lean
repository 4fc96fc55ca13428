import StaticMulticast.Host.Shell.Builtin.Variable

/-!
# Options of the shell

The options that `set` and the command line of a shell turn on and off, by letter or by name.
-/

namespace StaticMulticast.Host

namespace Options

/-- What arguments ask for: options, perhaps a text to run instead of a script, and whether the
arguments after them are given. It may also be to tell which options are on, as lines or as commands
that turn them on and off. -/
structure Request where
  options : Options
  isCommand : Bool := false
  isInput : Bool := false
  rest : List String := []
  hasRest : Bool := false
  tells : Option Bool := none

/-- What names an option: no letter and no option has this text after it. -/
inductive Refusal where
  | letter (letter : Char)
  | name (text : String)
  | word (text : String)

/-- Turns options on or off by their letters. Letters that announce names to come are kept, and so is
whether a text is to be run. -/
def setLetters (isExtended value : Bool) (request : Request) :
    List Char → Except Refusal (Request × List Char)
  | [] => .ok (request, [])
  | letter :: rest => do
      if letter = 'o' || (letter = 'O' && isExtended) then
        let (request, names) ← setLetters isExtended value request rest
        .ok (request, letter :: names)
      else if letter = 'c' then
        setLetters isExtended value { request with isCommand := true } rest
      else if letter = 's' then
        setLetters isExtended value { request with isInput := true } rest
      else if ['i', 'l', 'r', 'D'].contains letter && isExtended then
        setLetters isExtended value request rest
      else match request.options.setLetter isExtended value letter with
      | some options => setLetters isExtended value { request with options } rest
      | none => .error (.letter letter)

/-- Turns an option on or off whose name has been announced by a letter. The name of a file with
commands for a user at a terminal is passed over. -/
def setAnnounced (options : Options) (isExtended value : Bool) (letter : Char) (name : String) :
    Except Refusal Options :=
  if letter = 'F' then .ok options
  else if letter = 'O' then
    if furtherNames.contains name then .ok (options.turnFurther value name)
    else .error (.name name)
  else match options.setName isExtended value name with
  | some options => .ok options
  | none => .error (.name name)

/-- Reads options from the front of arguments. The names that letters have announced come first. -/
def readAfter (isExtended value : Bool) (request : Request) :
    List Char → List String → Except Refusal Request
  | [], [] => .ok { request with rest := [] }
  | _ :: _, [] => .ok { request with rest := [], tells := some value }
  | letters, argument :: rest => do
      let isOption := isExtended && (argument.toList.head?).all ['-', '+'].contains
      let request := if isOption && !letters.isEmpty then { request with tells := some value }
        else request
      match if isOption then [] else letters with
      | letter :: letters => do
          let options ← request.options.setAnnounced isExtended value letter argument
          readAfter isExtended value { request with options } letters rest
      | [] =>
      match argument.toList with
      | ['-'] => .ok { request with rest, hasRest := !rest.isEmpty }
      | ['-', '-'] => .ok { request with rest, hasRest := true }
      | '-' :: '-' :: word =>
          if !isExtended then .error (.letter '-')
          else match String.ofList word with
          | "norc" | "noprofile" | "login" | "restricted" | "noediting" =>
              readAfter isExtended value request [] rest
          | "posix" | "verbose" =>
              readAfter isExtended value
                { request with options := request.options.turn true (String.ofList word) } [] rest
          | "rcfile" | "init-file" => readAfter isExtended value request ['F'] rest
          | _ => .error (.word argument)
      | '-' :: letters => do
          let (request, names) ← setLetters isExtended true request letters
          readAfter isExtended true request names rest
      | '+' :: letters => do
          let (request, names) ← setLetters isExtended false request letters
          readAfter isExtended false request names rest
      | _ => .ok { request with rest := argument :: rest, hasRest := true }

/-- Reads options from the front of arguments. -/
def read (options : Options) (isExtended : Bool) (arguments : List String) :
    Except Refusal Request :=
  readAfter isExtended true { options } [] arguments

end Options

namespace Shell

open Action

/-- The lines that tell which options are on. -/
def optionLines (isOn : String → Bool) (names : List String) : String :=
  String.join (names.map fun name =>
    let blanks := String.ofList (List.replicate (15 - name.length) ' ')
    name ++ blanks ++ "\t" ++ (if isOn name then "on" else "off") ++ "\n")

/-- The commands that turn options on and off as they are now. -/
def optionCommands (on off : String) (isOn : String → Bool) (names : List String) : String :=
  String.join (names.map fun name => (if isOn name then on else off) ++ name ++ "\n")

/-- Tells which options are on, as lines or as commands. -/
def tellOptions (asCommands : Bool) : Action Nat := do
  let options := (← process).options
  let extended ← isExtended
  let names := (Options.all extended).map fun row => row.1
  if asCommands then answer (optionCommands "set -o " "set +o " options.isOn names)
  else if extended then answer (optionLines options.isOn names)
  else
    let lines := names.map fun name =>
      name ++ String.ofList (List.replicate (16 - name.length) ' ') ++
        (if options.isOn name then "on" else "off") ++ "\n"
    answer ("Current option settings\n" ++ String.join lines)

/-- Turns options on and off, and gives the script other arguments. -/
def runSet (arguments : List String) : Action Nat := do
  let process ← process
  if arguments.isEmpty then listAll
  else match process.options.read (← isExtended) arguments with
  | .ok request =>
      if request.isCommand then refuseOption "set" "-c"
      else do
        let (options, isRefused) := withoutJobs (← isExtended) request.options
        if isRefused then protest "can't access tty; job control turned off"
        modifyProcess fun process =>
          { process with
            options
            arguments := if request.hasRest then request.rest else process.arguments }
        if options.isOn "posix" && !process.options.isOn "posix" then setText "POSIXLY_CORRECT" "y"
        if process.options.isOn "posix" && !options.isOn "posix" then
          let _ ← removeBinding "POSIXLY_CORRECT"
        match request.tells with
        | none => pure 0
        | some value => tellOptions (!value)
  | .error (.letter letter) => refuseOption "set" ("-" ++ String.singleton letter)
  | .error (.word text) => refuseOption "set" (String.ofList (text.toList.take 2))
  | .error (.name name) =>
      if ← isExtended then do
        protest (name ++ ": invalid option name")
        pure 2
      else refuseOption "set" ("-o " ++ name)
where
  /-- In the plain language jobs cannot be told apart without a terminal. -/
  withoutJobs (isExtended : Bool) (options : Options) : Options × Bool :=
    if !isExtended && options.isOn "monitor" then (options.turn false "monitor", true)
    else (options, false)
  /-- Writes all variables and, in the extended language, all functions. -/
  listAll : Action Nat := do
    let status ← listBindings "" fun _ => true
    if ← isExtended then answer (allFunctions (← Action.process).functions) else pure status

/-- Turns options of the extended language on and off, or tells whether they are on: those that have a
letter, or the further ones. -/
def runShopt (arguments : List String) : Action Nat := do
  let (letters, names) := leadingOptions arguments
  let asks (letter : Char) : Bool := letters.contains letter
  let isOfSet := asks 'o'
  let every := if isOfSet then Options.extended.map fun row => row.1 else Options.furtherNames
  let known := names.filter every.contains
  let failed := known.length < names.length
  if let some letter := letters.find? fun letter => !"suqpo".toList.contains letter then
    refuseOption "shopt" ("-" ++ String.singleton letter)
  else if asks 's' && asks 'u' then do
    protest "cannot set and unset shell options simultaneously"
    pure 1
  else if (asks 's' || asks 'u') && !names.isEmpty then do
    let turn (options : Options) (name : String) : Options :=
      if isOfSet then options.turn (asks 's') name else options.turnFurther (asks 's') name
    modifyProcess fun process => { process with options := known.foldl turn process.options }
    tellUnknown isOfSet (names.filter fun name => !every.contains name)
    pure (if failed && !isOfSet then 1 else 0)
  else do
    let options := (← process).options
    let isOn (name : String) : Bool :=
      if isOfSet then options.isOn name else options.further.contains name
    let shown := if !names.isEmpty then known
      else if asks 's' then every.filter isOn
      else if asks 'u' then every.filter fun name => !isOn name
      else every
    tellUnknown isOfSet (names.filter fun name => !every.contains name)
    let _ ← if asks 'q' then pure 0
      else if !asks 'p' then answer (optionLines isOn shown)
      else if isOfSet then answer (optionCommands "set -o " "set +o " isOn shown)
      else answer (optionCommands "shopt -s " "shopt -u " isOn shown)
    pure (if failed || !known.all isOn then 1 else 0)
where
  /-- Complains about names that no option has. -/
  tellUnknown (isOfSet : Bool) (names : List String) : Action Unit :=
    names.forM fun name => protest (name ++
      (if isOfSet then ": invalid option name" else ": invalid shell option name"))

end Shell

end StaticMulticast.Host
