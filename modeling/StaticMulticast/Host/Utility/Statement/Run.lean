import StaticMulticast.Host.Shell.Builtin.Check
import StaticMulticast.Host.Utility.Statement.Term

/-!
# Scripts of statements as programs

How a script runs, and the command that runs it.
-/

/-!
## Running scripts of statements

Statements are done in order, again and again, or for each value of a list. A script ends with a
status, after what is to be done at its end.
-/

namespace StaticMulticast.Host.Utility.Statement

open Action

/-! ## The end of a script -/

/-- The status of a script that is given up: that of the last fault, if there is one, or of the last
program. -/
def failureStatus : Actor Int := do
  let fault := Int.ofNat (← get).fault
  let child := Int.fdiv (← wholeOf (← sharedValue "?")) 256
  pure (if fault % 256 != 0 then fault % 256 else if child % 256 != 0 then child % 256 else 255)

/-- Does something, and gives the status with which it ends the script, if it does. -/
def statusOfBody (body : Actor Unit) : Actor (Option Int) :=
  tryCatch (do
    body
    pure none) fun stop => do
      match stop with
      | .exits status => pure (some status)
      | .dies value => do
          let status ← failureStatus
          flushAll
          warnWith (← textOf value)
          pure (some status)
      | .leaves label | .repeats label | .anew label => do
          let _ ← act (complain ("Can't leave a loop block" ++ label))
          pure (some 255)
      | .gives _ => pure none
      | .forks => pure (some 255)

/-- Runs the copies of the process that nobody has waited for, as far as they do not wait for what
is later. -/
def leaveChildren : Actor Unit := do
  if !(← get).children.isEmpty then do
    let horizon ← act do
      let horizon := (← world).horizon
      modifyWorld fun world => { world with horizon := some world.clock }
      pure horizon
    runChildren
    act (modifyWorld fun world => { world with horizon })

/-- Does the statements of a script and what is to be done at its end, and gives its status. -/
def conclude (inner : Actors) (body : Actor Unit) : Actor Int := do
  let status ← statusOfBody body
  setSharedValue "?" (.number (status.getD 0))
  let late := (← get).script.late
  let last ← statusOfBody (late.forM inner.perform)
  let status ← match last with
    | some status => pure status
    | none => do wholeOf (← sharedValue "?")
  endReplacing
  flushAll
  closeAll
  giveBackInput
  leaveChildren
  pure status

/-! ## Copies -/

/-- Does a statement. If the process is to be copied in it, it is done again with the number of the
copy, and the copy does it and what follows with zero in the place of that number. What has been
given so far is told, and the bound is on how often the process is copied. -/
def forking (inner : Actors) (step rest : Actor Unit) : Nat → List Nat → Actor Unit
  | 0, _ => step
  | bound + 1, given =>
      tryCatch step fun stop => do
        match stop with
        | .forks => do
            flushAll
            giveBackInput
            let child ← act copiedProcess
            let start ← act do pure (← world).clock
            let state ← get
            let copy : Action Unit := do
              let body : Actor Int := conclude inner do
                step
                rest
              let own :=
                { state with forks := given ++ [0], children := [], living := [] }
              let (result, _) ← (body.run).run own
              match result with
              | .ok status => throw (.exits (status % 256).toNat)
              | .error _ => throw (.exits 255)
            let given := given ++ [child.number]
            modify fun state =>
              { state with
                forks := given
                children := ⟨child, start, copy⟩ :: state.children
                living := child.number :: state.living }
            forking inner step rest bound given
        | _ => throw stop

/-- How often a process can be copied in a statement. -/
def mostForks : Nat := 100

/-- Does statements one after the other. -/
def performAll (inner : Actors) : List Deed → Actor Unit
  | [] => pure ()
  | deed :: rest => do
      forking inner (inner.perform deed) (performAll inner rest) mostForks []
      performAll inner rest

/-- Does statements one after the other, and gives the values of the last one. -/
def finishAll (inner : Actors) (wanted : Option Bool) : List Deed → Actor (List Held)
  | [] => pure []
  | [deed] => do
      let isPlain : Bool := match deed with
        | .evaluate _ (.perform _) | .evaluate _ (.callNamed _ _) => true
        | _ => false
      if isPlain then inner.finish wanted deed
      else tryCatch (inner.finish wanted deed) fun stop => do
        match stop with
        | .forks => do
            let cell ← addCell (.array #[])
            forking inner (do setList cell (← inner.finish wanted deed)) (pure ()) mostForks []
            listValues cell
        | _ => throw stop
  | deed :: rest => do
      forking inner (inner.perform deed) (do let _ ← finishAll inner wanted rest) mostForks []
      finishAll inner wanted rest

/-! ## Loops -/

/-- The number of rounds after which it is taken for granted that some time has passed. -/
def timelyRounds : Nat := 0x8000

/-- Does rounds as long as they ask for another one. -/
def rounds (inner : Actors) (round : Actor Bool) : Nat → Actor Unit
  | 0 => die "Too many rounds"
  | bound + 1 => do
      if bound % timelyRounds = 0 then
        let _ ← waitFor inner 100000
      if ← round then rounds inner round bound

/-- A loop of a label is meant. One without a label is the next one around, unless it is the loop of
a simple statement that has none. -/
def isMeant (label own : String) : Bool :=
  label.isEmpty || label = own

/-- Does the body of a loop, and tells whether the loop goes on. The bound is on how often a round
begins anew. -/
def oneRound (label : String) (body : Actor Unit) : Nat → Actor Bool
  | 0 => pure false
  | bound + 1 =>
      tryCatch (do
        body
        pure true) fun stop => do
          match stop with
          | .leaves wanted => if isMeant wanted label then pure false else throw stop
          | .repeats wanted => if isMeant wanted label then pure true else throw stop
          | .anew wanted => if isMeant wanted label then oneRound label body bound else throw stop
          | _ => throw stop

/-- How often a round can begin anew. -/
def mostAnew : Nat := 100000

/-- Does something for each cell, up to a round that ends the loop. -/
def eachCell (round : Nat → Actor Bool) : List Nat → Actor Unit
  | [] => pure ()
  | cell :: rest => do
      if ← round cell then eachCell round rest

/-- Goes through a list, each value of which is what a name stands for. -/
def performEach (inner : Actors) (label : String) (name list : Term) (step body : Deed) :
    Actor Unit := do
  let cells ← inner.cells list
  let round (set : Nat → Actor Unit) (cell : Nat) : Actor Bool := do
    set cell
    let goesOn ← oneRound label (inner.perform body) mostAnew
    if goesOn then inner.perform step
    pure goesOn
  match name with
  | .own _ slot => do
      let before := (← get).slots.lookup slot
      let set (address : Option Nat) : Actor Unit := modify fun state =>
        let others := state.slots.filter fun row => row.1 != slot
        { state with
          slots := match address with
            | some address => (slot, address) :: others
            | none => others }
      let result ← tryCatch (Except.ok <$> eachCell (round fun cell => set (some cell)) cells)
        fun stop => pure (Except.error stop)
      set before
      match result with
      | .ok _ => pure ()
      | .error stop => throw stop
  | .shared shape name => inScope do
      match cells with
      | [] => pure ()
      | first :: _ => do
          let key := sharedKey shape name
          hideShared key first
          eachCell (round fun cell => setShared key (some cell)) cells
  | _ => die "Missing $ on loop variable"

/-! ## Statements -/

/-- Does a statement. -/
def performDeed (inner : Actors) (deed : Deed) : Actor Unit := do
  match deed with
  | .nothing => pure ()
  | .evaluate line term => do
      modify fun state => { state with line }
      let _ ← inner.value term
  | .block label deeds => do
      let _ ← oneRound label (inScope (performAll inner deeds)) mostAnew
  | .scope deeds => inScope (performAll inner deeds)
  | .group deeds => performAll inner deeds
  | .choice line condition consequence alternative => do
      modify fun state => { state with line }
      if isTrue (← inner.value condition) then inner.perform consequence
      else inner.perform alternative
  | .loop label line isWanted condition step body =>
      rounds inner (do
        modify fun state => { state with line }
        if isTrue (← inner.value condition) = isWanted then
          if ← oneRound label (inner.perform body) mostAnew then
            inner.perform step
            return true
        pure false) mostRounds
  | .lateLoop isWanted body condition =>
      rounds inner (do
        inner.perform body
        pure (isTrue (← inner.value condition) = isWanted)) mostRounds
  | .each label line name list step body => do
      modify fun state => { state with line }
      performEach inner label name list step body

/-- Does a statement, and gives its values. -/
def finishDeed (inner : Actors) (wanted : Option Bool) (deed : Deed) : Actor (List Held) := do
  match deed with
  | .evaluate line term => do
      modify fun state => { state with line }
      if wanted = some true then inner.values term
      else List.singleton <$> inner.value term
  | .scope deeds => inScope (finishAll inner wanted deeds)
  | .block _ deeds => inScope (finishAll inner wanted deeds)
  | .group deeds => finishAll inner wanted deeds
  | .choice line condition consequence alternative => do
      modify fun state => { state with line }
      let value ← inner.value condition
      let chosen := if isTrue value then consequence else alternative
      if chosen matches .nothing then pure [value] else inner.finish wanted chosen
  | deed => do
      performDeed inner deed
      pure []

/-- What carries out what is nested at most so deeply. -/
def actors : Nat → Actors
  | 0 => .nothing
  | depth + 1 =>
      let inner := actors depth
      { value := valueOf inner
        values := valuesOf inner
        cell := cellOf inner
        cells := cellsOf inner
        perform := performDeed inner
        finish := finishDeed inner
        call := callAt inner }

/-- How deep terms, statements and calls can be nested. -/
def deepest : Nat := 20000

/-! ## Scripts -/

/-- The names that a script has at its beginning, with their values. -/
def usualValues (name : String) : List (String × Held) :=
  [("0", .text name), ("/", .text "\n"), ("\"", .text " "), (";", .text (String.singleton (Char.ofNat 0x1C))),
    ("|", .number 0), ("@", .text ""), ("?", .number 0)]

/-- Gives a script what it has at its beginning: files, variables, arguments and functions. -/
def prepareScript (name : String) (known : List (String × String)) (arguments : List String) :
    Actor Unit := do
  let output ← namedHandle "STDOUT"
  setCell output (.handle { descriptor := some 1, isWritten := true })
  let messages ← namedHandle "STDERR"
  setCell messages (.handle { descriptor := some 2, isWritten := true, flushes := true })
  let input ← namedHandle "STDIN"
  setCell input (.handle { descriptor := some 0 })
  modify fun state => { state with selected := output }
  (usualValues name).forM fun (name, value) => setSharedValue name value
  let table ← sharedAddress .table "main::ENV"
  let members ← known.mapM fun (name, text) => do pure (name, ← addValue (.text text))
  setCell table (.table members 0)
  setList (← sharedAddress .array "main::ARGV") (arguments.map .text)
  setList (← sharedAddress .array "main::INC") [.text "/etc/perl"]
  setTable (← sharedAddress .table "main::INC") []
  match (← get).script.data with
  | some text => do
      let data ← namedHandle "DATA"
      setCell data (.handle { held := text.toList })
  | none => pure ()
  makeFunctions 0 none

/-- Runs a script with arguments, and gives its status. -/
def runScript (again : Runner) (script : Script) (name : String) (setting : List (String × Held))
    (arguments : List String) : Action Nat := do
  let known ← environment
  let inner := actors deepest
  let body : Actor Int := do
    prepareScript name known arguments
    setting.forM fun (name, value) => setSharedValue name value
    conclude inner do
      (← get).script.early.forM inner.perform
      performAll inner (← get).script.deeds
  let cells := script.slots.map freshCell
  let introduced := script.slots.map fun _ => false
  let (result, _) ← (body.run).run { again, script, name, cells, introduced }
  pure (match result with
    | .ok status => (status % 256).toNat
    | .error _ => 255)

end StaticMulticast.Host.Utility.Statement

/-!
## The command that runs scripts of statements

The options of `perl` say where the script stands, and how the lines of the input are taken.
-/

namespace StaticMulticast.Host.Utility

open Action

namespace Statement

/-- What the options want. -/
structure Wanted where
  /-- The lines of the script that options give. -/
  lines : Option (List String) := none
  /-- The modules that the script uses. -/
  uses : List String := []
  loops : Bool := false
  prints : Bool := false
  splits : Bool := false
  chomps : Bool := false
  checks : Bool := false
  tellsVersion : Bool := false
  takesSettings : Bool := false
  /-- The script begins at its first line that names the language. -/
  skips : Bool := false
  separator : Option String := none
  /-- What ends the lines of the input. -/
  ending : Option Held := none
  /-- What is behind each line that is written. -/
  written : Option String := none
  /-- The output replaces the files, which are kept under their names with this behind. -/
  inPlace : Option String := none
  directories : List String := []
  /-- The message of an option that is not known. -/
  refusal : Option String := none

/-- The letters of further options in an argument, read one after the other. The bound is on their
number. The next argument is given, and it is told whether it has been taken. -/
def readLetters : Nat → List Char → Option String → Wanted → Wanted × Bool
  | 0, _, _, wanted => (wanted, false)
  | bound + 1, letters, next, wanted =>
      match letters with
      | [] => (wanted, false)
      | letter :: rest =>
          let text := String.ofList rest
          let argument := if rest.isEmpty then next else some text
          let isTaken := rest.isEmpty
          let on (wanted : Wanted) : Wanted × Bool := readLetters bound rest next wanted
          match letter with
          | 'e' | 'E' =>
              let line := argument.getD ""
              ({ wanted with lines := some ((wanted.lines.getD []) ++ [line]) }, isTaken)
          | 'n' => on { wanted with loops := true }
          | 'p' => on { wanted with loops := true, prints := true }
          | 'a' => on { wanted with loops := true, splits := true }
          | 'F' => ({ wanted with loops := true, splits := true, separator := some text }, false)
          | 'l' =>
              let (digits, rest) := rest.span fun digit => '0' ≤ digit && digit ≤ '7'
              let written := if digits.isEmpty then "\n"
                else String.singleton (Char.ofNat (numberOf 8 digits))
              readLetters bound rest next { wanted with chomps := true, written := some written }
          | '0' =>
              let (digits, rest) := match rest with
                | 'x' :: rest => (rest.takeWhile fun digit => (digitWorth? 16 digit).isSome, rest)
                | rest => rest.span fun digit => '0' ≤ digit && digit ≤ '7'
              let number := numberOf 8 digits
              let ending : Held := if digits.isEmpty then .text (String.singleton (Char.ofNat 0))
                else if number = 0 then .text ""
                else if 0xFF < number then .nothing
                else .text (String.singleton (Char.ofNat number))
              readLetters bound rest next { wanted with ending := some ending }
          | 'i' => ({ wanted with inPlace := some text }, false)
          | 'M' | 'm' => ({ wanted with uses := wanted.uses ++ [useOf (letter = 'm') (argument.getD "")] },
              isTaken)
          | 'I' => ({ wanted with directories := wanted.directories ++ [argument.getD ""] }, isTaken)
          | 'c' => on { wanted with checks := true }
          | 'v' => ({ wanted with tellsVersion := true }, false)
          | 'V' => ({ wanted with tellsVersion := true }, false)
          | 's' => on { wanted with takesSettings := true }
          | 'x' => ({ wanted with skips := true }, false)
          | 'C' | 'd' | 'D' => (wanted, false)
          | 'w' | 'W' | 'X' | 't' | 'T' | 'u' | 'U' | 'S' | 'f' | '-' | ' ' | '\r' => on wanted
          | letter =>
              ({ wanted with
                refusal := some ("Unrecognized switch: -" ++ String.singleton letter ++ text ++
                  "  (-h will show valid options).\n") }, false)
where
  /-- The statement that uses a module as an option wants it. -/
  useOf (isBare : Bool) (text : String) : String :=
    let (word, text) := match text.toList with
      | '-' :: rest => ("no ", rest)
      | letters => ("use ", letters)
    let (name, names) := text.span (· != '=')
    match names with
    | _ :: names =>
        let names := names.map fun letter => if letter = ',' then ' ' else letter
        word ++ String.ofList name ++ " qw\x7b" ++ String.ofList names ++ "\x7d;"
    | [] => word ++ String.ofList name ++ (if isBare then " ();" else ";")

/-- Reads options up to the first other argument. -/
def readOptions : List String → Wanted → Wanted × List String
  | [], wanted => (wanted, [])
  | argument :: rest, wanted =>
      match argument.toList with
      | ['-', '-'] => (wanted, rest)
      | '-' :: letter :: letters =>
          let (wanted, isTaken) := readLetters (letters.length + 2) (letter :: letters) rest.head? wanted
          match rest, isTaken with
          | _ :: rest, true => readOptions rest wanted
          | rest, _ => readOptions rest wanted
      | _ => (wanted, argument :: rest)

/-- The options in the first line of a script. -/
def lineOptions (text : String) (wanted : Wanted) : Wanted :=
  let line := text.toList.takeWhile (· != '\n')
  match line with
  | '#' :: '!' :: rest =>
      let words := wordsOf rest
      if words.any fun word => 1 < (word.splitOn "perl").length then
        let options := (words.dropWhile fun word => (word.splitOn "perl").length = 1).tail
        (readOptions (options.filter fun word => word.toList.head? = some '-') wanted).1
      else wanted
  | _ => wanted

/-- The statements for each line of the input. -/
def loopText (wanted : Wanted) (text : String) : String :=
  let separator := match wanted.separator with
    | none => "' '"
    | some text =>
        match text.toList with
        | '/' :: _ | '"' :: _ | '\'' :: _ => text
        | _ => "/" ++ text ++ "/"
  if !wanted.loops then text
  else
    "LINE: while (defined($_ = readline ARGV)) \x7b " ++
      (if wanted.chomps then "chomp; " else "") ++
      (if wanted.splits then "our @F = split(" ++ separator ++ "); " else "") ++ text ++ ";\n\x7d" ++
      (if wanted.prints then " continue \x7b die \"-p destination: $!\\n\" unless print $_; \x7d" else "")

/-- The lines of a script from the first one that names the language on. -/
def withoutFront (text : String) : String :=
  let lines := List.splitOnP (· == '\n') text.toList
  let isFirst (line : List Char) : Bool :=
    "#!".toList.isPrefixOf line && 1 < ((String.ofList line).splitOn "perl").length
  String.ofList (List.intercalate ['\n'] (lines.dropWhile fun line => !isFirst line))

/-- The names that options behind the script set, with their values, and the other arguments. -/
def settingsOf : List String → List (String × Held) × List String
  | [] => ([], [])
  | argument :: rest =>
      match argument.toList with
      | ['-', '-'] => ([], rest)
      | '-' :: letters =>
          let (name, value) := letters.span (· != '=')
          let value : Held := if value.isEmpty then .number 1 else .text (String.ofList value.tail)
          let (settings, others) := settingsOf rest
          ((String.ofList name, value) :: settings, others)
      | _ => ([], argument :: rest)

end Statement

/-- Runs a script of statements. -/
def runPerl (again : Runner) (arguments : List String) : Action Nat := do
  let (wanted, operands) := Statement.readOptions arguments { }
  match wanted.refusal with
  | some message => do
      let _ ← write 2 message
      pure 29
  | none =>
      if wanted.tellsVersion then
        answer "\nThis is perl 5, version 38, subversion 2 (v5.38.2) built for x86_64-linux-gnu-thread-multi\n"
      else match wanted.lines with
      | some lines => run wanted (String.intercalate "\n" lines ++ "\n") "-e" operands
      | none => do
          let path := operands.headD "-"
          match ← readOperand path with
          | .error fault => do
              let _ ← write 2 ("Can't open perl script \"" ++ path ++ "\": " ++ fault.reason ++ "\n")
              pure (Statement.faultNumber fault)
          | .ok text => do
              let text := if wanted.skips then Statement.withoutFront text else text
              run (Statement.lineOptions text wanted) text path operands.tail
where
  /-- Runs a text as the options want it. -/
  run (wanted : Statement.Wanted) (text name : String) (operands : List String) : Action Nat := do
    let text := Statement.loopText wanted text
    let directories := wanted.directories.map fun path => "use lib q\x00" ++ path ++ "\x00;"
    let text := String.join (directories ++ wanted.uses) ++ text
    match Statement.readScript name text with
    | .error refusal => do
        let _ ← write 2 refusal.message
        pure refusal.status
    | .ok script => do
        if wanted.checks then do
          let _ ← write 2 (name ++ " syntax OK\n")
          pure 0
        else do
          let (settings, operands) := if wanted.takesSettings then Statement.settingsOf operands
            else ([], operands)
          let ending := (wanted.ending.map fun ending => ("/", ending)).toList
          let written := (wanted.written.map fun text => ("\\", Statement.Held.text text)).toList
          let inPlace := (wanted.inPlace.map fun text => ("^I", Statement.Held.text text)).toList
          Statement.runScript again script name (ending ++ written ++ inPlace ++ settings) operands

end StaticMulticast.Host.Utility
