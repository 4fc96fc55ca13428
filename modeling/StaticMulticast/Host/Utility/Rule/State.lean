import StaticMulticast.Host.Utility.Rule.Basic
import StaticMulticast.Host.Utility.Start
import StaticMulticast.Text.Regular

/-!
# The state of scripts of rules

The records that are read, and what a script keeps between them.
-/

/-!
## Records and their fields

The input is cut into records, and a record into fields. What cuts them is a character or an
expression. A blank cuts fields at any blanks, and nothing cuts records at empty lines and fields
between all characters.
-/

namespace StaticMulticast.Host.Utility.Rule

open StaticMulticast.Text (Regular)

/-- The character is blank between fields. -/
def isGap (letter : Char) : Bool :=
  letter = ' ' || letter = '\t' || letter = '\n'

/-- The words of a text. The bound is on their number. -/
def gapWords : Nat → List Char → List (List Char)
  | 0, _ => []
  | bound + 1, text =>
      let text := text.dropWhile isGap
      if text.isEmpty then []
      else
        let (word, rest) := text.span fun letter => !isGap letter
        word :: gapWords bound rest

/-- The pieces of a text between characters that cut it. -/
def cutAtLetters (cuts : Char → Bool) : List Char → List Char → List (List Char)
  | done, [] => [done.reverse]
  | done, letter :: rest =>
      if cuts letter then done.reverse :: cutAtLetters cuts [] rest
      else cutAtLetters cuts (letter :: done) rest

/-- The first place from a position on where an expression stands for at least one character. The
bound is on the number of tries. -/
def searchFilled (expression : Regular) (setting : Regular.Setting) :
    Nat → Nat → Option Regular.Match
  | 0, _ => none
  | bound + 1, position =>
      match Regular.search expression setting position with
      | none => none
      | some found =>
          if found.start < found.stop then some found
          else searchFilled expression setting bound (found.stop + 1)

/-- The pieces of a text from a position on between what an expression stands for. The bound is on
their number. -/
def cutAtMatches (expression : Regular) (setting : Regular.Setting) :
    Nat → Nat → List (List Char)
  | 0, position => [setting.text.drop position]
  | bound + 1, position =>
      match searchFilled expression setting (setting.text.length + 1) position with
      | none => [setting.text.drop position]
      | some found =>
          (setting.text.drop position).take (found.start - position) ::
            cutAtMatches expression setting bound found.stop

/-- What cuts a text. -/
inductive Separator where
  | gaps
  | everywhere
  | mark (mark : Char)
  | expression (expression : Regular)

/-- How expressions are written. -/
def ruleManner : Regular.Manner := ⟨true, .everywhere, true⟩

/-- What a text stands for that says what cuts fields. There is nothing if it is a wrong expression.
-/
def Separator.ofText? (text : String) : Option Separator :=
  match text.toList with
  | [] => some .everywhere
  | [' '] => some .gaps
  | [letter] => some (.mark letter)
  | _ => (Regular.ofText? ruleManner text).map .expression

/-- The fields of a text. It is given whether the end of a line always cuts them. -/
def Separator.fields (separator : Separator) (isLineCut : Bool) (text : List Char) :
    List (List Char) :=
  if text.isEmpty then []
  else match separator with
  | .gaps => gapWords (text.length + 1) text
  | .everywhere => text.map List.singleton
  | .mark cut => cutAtLetters (fun letter => letter = cut || (isLineCut && letter = '\n')) [] text
  | .expression cut =>
      let lines := if isLineCut then cutAtLetters (· == '\n') [] text else [text]
      lines.flatMap fun line => cutAtMatches cut { text := line } (line.length + 1) 0

/-- The record that a text begins with up to an empty line, and what follows the empty lines. -/
def takeParagraph : List Char → List Char → List Char × List Char
  | done, '\n' :: '\n' :: rest => (done.reverse, rest.dropWhile (· == '\n'))
  | done, ['\n'] => (done.reverse, [])
  | done, letter :: rest => takeParagraph (letter :: done) rest
  | done, [] => (done.reverse, [])

/-- The first record of a text, and what follows it, if there is one. The text says what cuts
records. -/
def takeRecord? (separator : String) (text : List Char) : Option (List Char × List Char) :=
  match separator.toList with
  | [] =>
      let text := text.dropWhile (· == '\n')
      if text.isEmpty then none else some (takeParagraph [] text)
  | [letter] =>
      if text.isEmpty then none
      else
        let (record, rest) := text.span (· != letter)
        some (record, rest.drop 1)
  | _ =>
      if text.isEmpty then none
      else do
        let expression ← Regular.ofText? ruleManner separator
        match searchFilled expression { text } (text.length + 1) 0 with
        | some found => some (text.take found.start, text.drop found.stop)
        | none => some (text, [])

/-- A text with what an expression stands for replaced, once or everywhere, and how often. The end
of the last match is given. The bound is on the number of matches. -/
def replaceMatches (expression : Regular) (setting : Regular.Setting) (isEverywhere : Bool)
    (replacement : List Char → List Char) : Nat → Nat → Option Nat → List Char × Nat
  | 0, position, _ => (setting.text.drop position, 0)
  | bound + 1, position, last =>
      match Regular.search expression setting position with
      | none => (setting.text.drop position, 0)
      | some found =>
          let before := (setting.text.drop position).take (found.start - position)
          let own := (setting.text.drop found.start).take (found.stop - found.start)
          let isAgain := own.isEmpty && last = some found.start
          let piece := if isAgain then [] else replacement own
          let count := if isAgain then 0 else 1
          if !isEverywhere then (before ++ piece ++ setting.text.drop found.stop, count)
          else
            let step := if own.isEmpty then (setting.text.drop found.stop).take 1 else []
            if own.isEmpty && step.isEmpty then (before ++ piece, count)
            else
              let (rest, others) := replaceMatches expression setting isEverywhere replacement bound
                (found.stop + step.length) (some found.stop)
              (before ++ piece ++ step ++ rest, count + others)

/-- A replacement for what has been found, which stands in the place of marks in it. -/
def replacementFor (found : List Char) : List Char → List Char
  | '\\' :: '&' :: rest => '&' :: replacementFor found rest
  | '\\' :: '\\' :: rest => '\\' :: replacementFor found rest
  | '&' :: rest => found ++ replacementFor found rest
  | letter :: rest => letter :: replacementFor found rest
  | [] => []

end StaticMulticast.Host.Utility.Rule

/-!
## What a script of rules works on

A script has variables and tables, the record that is at hand with its fields, the input that is
left, and the files and commands that it reads from and writes to.
-/

namespace StaticMulticast.Host.Utility.Rule

open Action
open StaticMulticast.Text (Regular)

/-! ## The state -/

/-- What a name stands for. -/
inductive Holding where
  | unused
  | value (value : Datum)
  | table (number : Nat)
  /-- A name of its caller that has not been used, and that is a table if this one is. -/
  | shared (number : Nat)

/-- Something that is written to: a file that has been opened, or a command that runs when all of
its input is there. -/
structure Output where
  name : String
  file : Option Nat
  text : List String := []

/-- The state of a script. -/
structure Running where
  again : Runner
  script : Script
  globals : List (String × Holding) := []
  /-- The variables of the function that runs. -/
  own : List (String × Holding) := []
  tables : Array (List (String × Datum)) := #[]
  record : String := ""
  fields : List Datum := []
  /-- What is left of the file that is read. -/
  input : Option (List Char) := none
  /-- The number of the next argument that can name a file. -/
  argument : Nat := 1
  hasInput : Bool := false
  /-- What is left of other files and of commands that are read, with the status of commands. -/
  sources : List (String × List Char × Nat) := []
  outputs : List Output := []
  written : List String := []
  /-- The numbers of the rows that are between their first and their last record. -/
  openRows : List Nat := []
  /-- The last numbers that have been drawn by lot, and what the first of them were made of. -/
  lots : List Nat := []
  seed : Datum := .nothing
  status : Nat := 0

/-- What ends deeds. -/
inductive Stop where
  | leaves
  | repeats
  | skips
  | skipsFile
  | exits
  /-- The script is wrong. -/
  | fails
  | gives (value : Datum)

/-- What runs a script. -/
abbrev Ruler := ExceptT Stop (StateT Running Action)

/-- Does something that a process can do. -/
def act {Result : Type} (action : Action Result) : Ruler Result :=
  ExceptT.lift (StateT.lift action)

/-- Reports that the script is wrong. -/
def fault {Result : Type} (message : String) : Ruler Result := do
  act (complain message)
  throw .fails

/-! ## Names -/

/-- What a name stands for. -/
def holding (name : String) : Ruler Holding := do
  let state ← get
  pure (((state.own.lookup name).or (state.globals.lookup name)).getD .unused)

/-- Lets a name stand for something. -/
def setHolding (name : String) (held : Holding) : Ruler Unit :=
  modify fun state =>
    let put (rows : List (String × Holding)) : List (String × Holding) :=
      (name, held) :: rows.filter fun row => row.1 != name
    if (state.own.lookup name).isSome then { state with own := put state.own }
    else { state with globals := put state.globals }

/-- Adds a table, and gives its number. -/
def addTable (rows : List (String × Datum)) : Ruler Nat := do
  let number := (← get).tables.size
  modify fun state => { state with tables := state.tables.push rows }
  pure number

/-- The number of the table of a name. -/
def tableOf (name : String) : Ruler Nat := do
  match ← holding name with
  | .table number => pure number
  | .shared number => do
      setHolding name (.table number)
      pure number
  | .unused => do
      let number ← addTable []
      setHolding name (.table number)
      pure number
  | .value _ => fault (name ++ " is no table")

/-- The rows of a table. -/
def rowsOf (number : Nat) : Ruler (List (String × Datum)) := do
  pure ((← get).tables[number]?.getD [])

/-- Changes the rows of a table. -/
def modifyRows (number : Nat) (change : List (String × Datum) → List (String × Datum)) :
    Ruler Unit :=
  modify fun state => { state with tables := state.tables.modify number change }

/-- Rows with a value in the place of another one, or behind them. -/
def withRow (key : String) (value : Datum) : List (String × Datum) → List (String × Datum)
  | [] => [(key, value)]
  | row :: rest =>
      if row.1 = key then (key, value) :: rest else row :: withRow key value rest

/-- The text of a variable. -/
def textOf (name : String) : Ruler String := do
  match ← holding name with
  | .value value => pure (value.toText "%.6g")
  | _ => pure ""

/-- A value as a text. -/
def toText (value : Datum) : Ruler String := do
  match value with
  | .number _ => do pure (value.toText (← textOf "CONVFMT"))
  | _ => pure (value.toText "")

/-! ## Fields -/

/-- What cuts fields. -/
def separatorOf (text : String) : Ruler Separator := do
  match Separator.ofText? text with
  | some separator => pure separator
  | none => fault "wrong expression"

/-- Takes a text as the record. -/
def setRecord (text : String) : Ruler Unit := do
  let separator ← separatorOf (← textOf "FS")
  let fields := separator.fields ((← textOf "RS").isEmpty) text.toList
  modify fun state =>
    { state with record := text, fields := fields.map fun field => .ofInput (String.ofList field) }

/-- Makes the record of its fields. -/
def joinFields : Ruler Unit := do
  let texts ← (← get).fields.mapM toText
  let separator ← textOf "OFS"
  modify fun state => { state with record := String.intercalate separator texts }

/-- The first fields, so many of them. -/
def sizedFields (count : Nat) (fields : List Datum) : List Datum :=
  (fields ++ List.replicate (count - fields.length) (Datum.text "")).take count

/-- The greatest number of fields. -/
def mostFields : Nat := 0x8000

/-- The number of a field, if it is one. -/
def fieldNumber (value : Datum) : Ruler Nat := do
  match value.toWhole with
  | .ofNat number => if number < mostFields then pure number else fault "no such field"
  | _ => fault "no such field"

/-! ## Places -/

/-- A place that has a value. -/
inductive Spot where
  | variable (name : String)
  | member (table : Nat) (key : String)
  | field (number : Nat)

/-- The value in a place. A member of a table that is not there is made. -/
def Spot.read : Spot → Ruler Datum
  | .variable "NF" => do pure (.ofNat (← get).fields.length)
  | .variable name => do
      match ← holding name with
      | .value value => pure value
      | .table _ => fault (name ++ " is a table")
      | _ => pure .nothing
  | .member table key => do
      match (← rowsOf table).lookup key with
      | some value => pure value
      | none => do
          modifyRows table fun rows => rows ++ [(key, .nothing)]
          pure .nothing
  | .field 0 => do pure (.ofInput (← get).record)
  | .field (number + 1) => do pure ((← get).fields[number]?.getD .nothing)

/-- Puts a value into a place. -/
def Spot.write (value : Datum) : Spot → Ruler Unit
  | .variable "NF" => do
      let count ← fieldNumber value
      modify fun state => { state with fields := sizedFields count state.fields }
      joinFields
  | .variable name => do
      match ← holding name with
      | .table _ => fault (name ++ " is a table")
      | _ => setHolding name (.value value)
  | .member table key => modifyRows table (withRow key value)
  | .field 0 => do setRecord (← toText value)
  | .field (number + 1) => do
      modify fun state =>
        let count := max state.fields.length (number + 1)
        { state with fields := (sizedFields count state.fields).set number value }
      joinFields

/-- Sets a variable. -/
def setVariable (name : String) (value : Datum) : Ruler Unit :=
  (Spot.variable name).write value

/-- Adds one to a variable. -/
def count (name : String) : Ruler Unit := do
  let value ← (Spot.variable name).read
  setVariable name (.number (value.toNumber + 1))

/-! ## Output -/

/-- Adds a text to what is written to standard output. -/
def emit (text : String) : Ruler Unit :=
  modify fun state => { state with written := text :: state.written }

/-- Writes what is to be written to standard output. -/
def flush : Ruler Unit := do
  let text := String.join (← get).written.reverse
  modify fun state => { state with written := [] }
  if !text.isEmpty then
    if (← act (write 1 text)).isSome then throw .fails

/-- Writes a text to an open file. -/
def writeFile (number : Nat) (text : String) : Action Unit := do
  let before := (← process).descriptors
  setDescriptor 9 (some number)
  let _ ← write 9 text
  modifyProcess fun process => { process with descriptors := before }

/-- Writes what is to be written to files. -/
def flushFiles : Ruler Unit := do
  (← get).outputs.forM fun output =>
    output.file.forM fun number => act (writeFile number (String.join output.text.reverse))
  modify fun state =>
    { state with
      outputs := state.outputs.map fun output =>
        if output.file.isSome then { output with text := [] } else output }

/-- The status of a command, as scripts see it. -/
def commandStatus : ExitStatus → Nat
  | .code status => status
  | .signal signal => 256 + signal

/-- Runs a command. It is given what comes to its input, if that is not the one of the script. -/
def runCommand (again : Runner) (command : String) (input : Option String) : Action Nat := do
  let status ← inChild do
    input.forM fun text => do
      let (reading, writing) ← makePipe
      setDescriptor 0 (some reading)
      writeFile writing text
    setStatus (← becomeWords again ["/bin/sh", "-c", command])
  pure (commandStatus status)

/-- Runs a command, and gives what it writes, and its status. -/
def captureCommand (again : Runner) (command : String) : Action (String × Nat) := do
  let (reading, writing) ← makePipe
  let before := (← process).descriptors
  setDescriptor 1 (some writing)
  let status ← runCommand again command none
  setDescriptor 0 (some reading)
  let octets ← readAll 0
  modifyProcess fun process => { process with descriptors := before }
  let text := match octets with
    | .ok octets => Text.Octets.ofList octets
    | .error _ => ""
  pure (text, status)

/-- Ends the output to a file or a command, and gives the status. -/
def finishOutput (output : Output) : Ruler Nat := do
  let text := String.join output.text.reverse
  modify fun state =>
    { state with
      outputs := state.outputs.filter fun other =>
        other.name != output.name || other.file.isSome != output.file.isSome }
  match output.file with
  | some number => do
      act (writeFile number text)
      pure 0
  | none => do
      let again := (← get).again
      act (runCommand again output.name (some text))

/-- Ends all output. -/
def finishAll : Ruler Unit := do
  if (← textOf "FILENAME") = "-" then
    act (giveBackBlocks 0x40000 (((← get).input.getD []).length))
  flushFiles
  (← get).outputs.forM fun output => do
    let _ ← finishOutput output
  flush

/-- Adds a text to what is written to a file or a command, which is opened at first. -/
def emitTo (name : String) (file : Ruler (Option Nat)) (isFile : Bool) (text : String) :
    Ruler Unit := do
  let isMeant (output : Output) : Bool := output.name = name && output.file.isSome = isFile
  if !(← get).outputs.any isMeant then do
    let file ← file
    modify fun state => { state with outputs := state.outputs ++ [{ name, file }] }
  modify fun state =>
    { state with
      outputs := state.outputs.map fun output =>
        if isMeant output then { output with text := text :: output.text } else output }

/-- Writes a text to a file. -/
def emitToFile (isAdded : Bool) (path text : String) : Ruler Unit := do
  if path = "-" || path = "/dev/stdout" then emit text
  else if path = "/dev/stderr" then do
    let _ ← act (write 2 text)
  else
    let opened : Ruler (Option Nat) := do
      match ← act (openPath path (if isAdded then .appending else .writing)) with
      | .ok number => pure (some number)
      | .error error => fault (path ++ ": " ++ error.reason)
    emitTo path opened true text

/-- Writes a text to a command. What has been written before comes before its output. -/
def emitToCommand (command text : String) : Ruler Unit := do
  let started : Ruler (Option Nat) := do
    flush
    flushFiles
    pure none
  emitTo command started false text

/-! ## Input -/

/-- The name and the value of an argument that is an assignment. -/
def assignmentOf? (argument : String) : Option (String × String) :=
  let (name, value) := argument.toList.span (· != '=')
  if Shell.isName name && !value.isEmpty then
    some (String.ofList name, String.ofList value.tail)
  else none

/-- Makes an assignment that is an argument. Backslashes in it have the meaning that they have in
scripts. -/
def assignArgument (name text : String) : Ruler Unit := do
  let letters := text.toList.flatMap fun letter => if letter = '"' then ['\\', '"'] else [letter]
  let read := takeQuoted (letters.length + 2) [] (letters ++ ['"'])
  let text := match read with
    | some (meant, _) => meant
    | none => text
  setVariable name (.ofInput text)

/-- Takes a file as the input. -/
def openInput (path : String) : Ruler Unit := do
  match ← act (readOperand path) with
  | .ok text => do
      modify fun state => { state with input := some text.toList, hasInput := true }
      setVariable "FILENAME" (.text path)
      setVariable "FNR" (.number 0)
  | .error error => fault ("cannot open " ++ path ++ ": " ++ error.reason)

/-- Opens the next file that an argument names, if there is one. The bound is on the number of
arguments. -/
def openNext : Nat → Ruler Bool
  | 0 => pure false
  | bound + 1 => do
      let state ← get
      let count := ((← (Spot.variable "ARGC").read).toWhole).toNat
      if count ≤ state.argument then
        if state.hasInput then pure false
        else do
          openInput "-"
          pure true
      else do
        modify fun state => { state with argument := state.argument + 1 }
        let table ← tableOf "ARGV"
        let argument ← toText (((← rowsOf table).lookup (toString state.argument)).getD .nothing)
        match assignmentOf? argument with
        | some (name, text) => do
            assignArgument name text
            openNext bound
        | none =>
            if argument.isEmpty then openNext bound
            else do
              openInput argument
              pure true

/-- Takes the next record of the input. The bound is on the number of files. -/
def takeRecord : Nat → Ruler (Option String)
  | 0 => pure none
  | bound + 1 => do
      match (← get).input with
      | some text =>
          match takeRecord? (← textOf "RS") text with
          | some (record, rest) => do
              modify fun state => { state with input := some rest }
              count "NR"
              count "FNR"
              pure (some (String.ofList record))
          | none => do
              modify fun state => { state with input := none }
              takeRecord bound
      | none => if ← openNext (bound + 1) then takeRecord bound else pure none

/-- Takes the next record of the input. -/
def nextRecord : Ruler (Option String) := do
  let count := ((← (Spot.variable "ARGC").read).toWhole).toNat
  takeRecord (2 * count + 8)

/-- Takes the next record of something else, which is read at first. -/
def nextOfSource (name : String) (opened : Ruler (Option (List Char × Nat))) :
    Ruler (Except Nat String) := do
  let source ← match (← get).sources.lookup name with
    | some source => pure (some source)
    | none => opened
  match source with
  | none => pure (.error 1)
  | some (text, status) => do
      let taken := takeRecord? (← textOf "RS") text
      let rest := match taken with
        | some (_, rest) => rest
        | none => []
      modify fun state =>
        { state with
          sources := (name, rest, status) :: state.sources.filter fun other => other.1 != name }
      pure (match taken with
        | some (record, _) => .ok (String.ofList record)
        | none => .error 0)

/-- Takes the next record of a file. -/
def nextOfFile (path : String) : Ruler (Except Nat String) :=
  nextOfSource path do
    match ← act (readOperand path) with
    | .ok text => pure (some (text.toList, 0))
    | .error _ => pure none

/-- Takes the next record of what a command writes. -/
def nextOfCommand (command : String) : Ruler (Except Nat String) :=
  nextOfSource command do
    flush
    flushFiles
    let again := (← get).again
    let (text, status) ← act (captureCommand again command)
    pure (some (text.toList, status))

/-- Closes what is read from or written to, and gives the status. -/
def closeName (name : String) : Ruler Int := do
  let state ← get
  match state.outputs.find? fun output => output.name = name, state.sources.lookup name with
  | some output, _ => Int.ofNat <$> finishOutput output
  | none, some (_, status) => do
      modify fun state =>
        { state with sources := state.sources.filter fun other => other.1 != name }
      pure status
  | none, none => pure (-1)

end StaticMulticast.Host.Utility.Rule
