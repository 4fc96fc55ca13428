import StaticMulticast.Host.Utility.Datum
import StaticMulticast.Host.Utility.Rule.Reader
import StaticMulticast.Host.Utility.Rule.State
import StaticMulticast.Text.Calendar

/-!
# Running scripts of rules

`awk` does the deeds of the rules for the start, then those for the records of the input, one record
after the other, and then those for the end. A loop is given what it does in a round, and what ends
a round can end the loop, or more.
-/

namespace StaticMulticast.Host.Utility

open Action
open StaticMulticast.Text (Regular)

namespace Rule

/-! ## Functions of every script -/

/-- The expression of a text. -/
def regularOf (text : String) : Ruler Regular := do
  match Regular.ofText? ruleManner text with
  | some expression => pure expression
  | none => fault "wrong expression"

/-- A part of a text: from a place on, and perhaps so many characters. -/
def partOf (text : String) (start : Int) (length : Option Int) : String :=
  let letters := text.toList
  let stop := match length with
    | some length => start + length
    | none => Int.ofNat letters.length + 1
  let first := (max start 1).toNat - 1
  String.ofList ((letters.drop first).take ((stop - 1).toNat - first))

/-- The place at which a text is found in another one. -/
def placeOf (wanted : List Char) : Nat → List Char → Nat
  | place, [] => if wanted.isEmpty then place else 0
  | place, letter :: rest =>
      if wanted.isPrefixOf (letter :: rest) then place else placeOf wanted (place + 1) rest

/-- Fills a table with the pieces of a text, and gives their number. -/
def fillTable (table : Nat) (separator : Separator) (text : String) : Ruler Datum := do
  let pieces := separator.fields false text.toList
  modifyRows table fun _ => pieces.mapIdx fun index piece =>
    (toString (index + 1), .ofInput (String.ofList piece))
  pure (.ofNat pieces.length)

/-- Finds an expression in a text, and tells where. -/
def findExpression (text : String) (expression : Regular) : Ruler Datum := do
  match Regular.search expression { text := text.toList } 0 with
  | some found => do
      setVariable "RSTART" (.ofNat (found.start + 1))
      setVariable "RLENGTH" (.ofNat (found.stop - found.start))
      pure (.ofNat (found.start + 1))
  | none => do
      setVariable "RSTART" (.number 0)
      setVariable "RLENGTH" (.number (-1))
      pure (.number 0)

/-- Plants the numbers that are drawn by lot. -/
def plantLots (seed : Datum) : Ruler Unit :=
  modify fun state =>
    let seedNumber := seed.toWhole % 0x100000000
    { state with lots := Lot.planted seedNumber.toNat, seed := seed }

/-- Draws a number by lot. -/
def drawLot : Ruler Rat := do
  if (← get).lots.isEmpty then
    plantLots (.number ((← act now) / 1000000))
  let (lot, lots) := Lot.next (← get).lots
  modify fun state => { state with lots }
  pure (Datum.limited (lot / Lot.greatest))

/-- The seconds up to a moment, which a text tells by six numbers: the year, the month, the day, the
hour, the minute and the second. -/
def secondsOf (text : String) : Int :=
  let words := (List.splitOnP (· == ' ') text.toList).filter fun word => !word.isEmpty
  let numbers := words.map fun word => Datum.truncated (Datum.leadingValue (String.ofList word))
  match numbers with
  | year :: month :: day :: hour :: minute :: second :: _ =>
      let first := Text.Day.afterMonths ⟨year, 1, 1⟩ (month - 1)
      (first + day - 1) * Text.Calendar.daySeconds + hour * 3600 + minute * 60 + second
  | _ => -1

/-- The result of a function of texts and numbers. -/
def plainResult (name : String) (arguments : List Datum) : Ruler Datum := do
  let textAt (index : Nat) : Ruler String := toText (arguments[index]?.getD .nothing)
  let value := arguments[0]?.getD .nothing
  match name with
  | "substr" => do
      let length := arguments[2]?.map Datum.toWhole
      let start := (arguments[1]?.getD Datum.nothing).toWhole
      pure (.text (partOf (← textAt 0) start length))
  | "index" => do pure (.ofNat (placeOf (← textAt 1).toList 1 (← textAt 0).toList))
  | "tolower" => do pure (.text (String.ofList ((← textAt 0).toList.map Char.toLower)))
  | "toupper" => do pure (.text (String.ofList ((← textAt 0).toList.map Char.toUpper)))
  | "atan2" =>
      let right := (arguments[1]?.getD Datum.nothing).toNumber
      pure (.number (Datum.limited (Elementary.angleOf value.toNumber right)))
  | "rand" => .number <$> drawLot
  | "srand" => do
      let present ← act now
      let before := (← get).seed
      plantLots (if arguments.isEmpty then .number (present / 1000000) else value)
      pure before
  | "systime" => do pure (.number ((← act now) / 1000000))
  | "strftime" => do
      let present ← act now
      let format ← if arguments.isEmpty then pure "%c" else textAt 0
      let seconds := (arguments[1]?.map Datum.toWhole).getD (present / 1000000)
      let text := Text.Calendar.format (.ofSeconds seconds 0) format
      let isGreenwich := (arguments[2]?.getD Datum.nothing).isTrue
      pure (.text (if isGreenwich then text.replace "UTC" "GMT" else text))
  | "mktime" => do pure (.number (secondsOf (← textAt 0)))
  | "sprintf" => do
      let (text, isFull) := Datum.filled (← textOf "CONVFMT") (← textAt 0) arguments.tail
      if isFull then pure (.text text) else fault "wrong format"
  | "system" => do
      flush
      flushFiles
      let again := (← get).again
      let command ← textAt 0
      .ofNat <$> act (runCommand again command none)
  | "close" => do pure (.number (← closeName (← textAt 0)))
  | "fflush" => do
      flush
      flushFiles
      pure (.number 0)
  | _ => pure ((functionOf? name value.toNumber).getD .nothing)

/-! ## Loops -/

/-- A bound on the rounds of a loop. -/
def mostRounds : Nat := 1000000

/-- Does rounds as long as they ask for another one. -/
def rounds (round : Ruler Bool) : Nat → Ruler Unit
  | 0 => pure ()
  | bound + 1 => do
      if ← round then rounds round bound

/-- Does the body of a loop, and tells whether the loop goes on. -/
def oneRound (body : Ruler Unit) : Ruler Bool :=
  tryCatch (do
    body
    pure true) fun stop =>
      match stop with
      | .leaves => pure false
      | .repeats => pure true
      | _ => throw stop

/-- Does something for each key, up to a round that ends the loop. -/
def eachKey (body : String → Ruler Unit) : List String → Ruler Unit
  | [] => pure ()
  | key :: rest => do
      if ← oneRound (body key) then eachKey body rest

/-! ## Calls -/

/-- What the name that is an argument stands for in a function. A name that has not been used may be
one for a table. -/
def passName (name : String) : Ruler Holding := do
  match ← holding name with
  | .unused => do
      let number ← addTable []
      setHolding name (.shared number)
      pure (.shared number)
  | held => pure held

/-- Does the body of a function with variables of its own, and gives its value. -/
def inFunction (own : List (String × Holding)) (body : Ruler Unit) : Ruler Datum := do
  let caller := (← get).own
  modify fun state => { state with own }
  let value ← tryCatch (do
    body
    pure Datum.nothing) fun stop =>
      match stop with
      | .gives value => pure value
      | _ => throw stop
  modify fun state => { state with own := caller }
  pure value

/-- How what has been read is taken: as the record, or into a place. It is given whether it counts
as a record of the input. -/
def takeRead (isCounted : Bool) (place : Option Spot) (result : Except Nat String) :
    Ruler Datum := do
  match result with
  | .error 0 => pure (.number 0)
  | .error _ => pure (.number (-1))
  | .ok text => do
      if isCounted then count "NR"
      match place with
      | some spot => spot.write (.ofInput text)
      | none => setRecord text
      pure (.number 1)

/-! ## Terms and deeds -/

mutual

/-- The value of a term. The bound is on how deep terms are nested and functions called. -/
def evaluate : Nat → Term → Ruler Datum
  | 0, _ => fault "too deep"
  | fuel + 1, term => do
      match term with
      | .number value => pure (.number value)
      | .text text => pure (.text text)
      | .expression text => do
          let expression ← regularOf text
          let record := (← get).record.toList
          pure (.ofBool (Regular.search expression { text := record } 0).isSome)
      | .variable _ | .member _ _ | .field _ => do (← spotOf fuel term).read
      | .assign place none value => do
          let value ← evaluate fuel value
          (← spotOf fuel place).write value
          pure value
      | .assign place (some operation) value => do
          let value ← evaluate fuel value
          let spot ← spotOf fuel place
          let result := operation.apply (← spot.read).toNumber value.toNumber
          spot.write result
          pure result
      | .advance amount isAfter place => do
          let spot ← spotOf fuel place
          let before := (← spot.read).toNumber
          spot.write (.number (before + amount))
          pure (.number (if isAfter then before + amount else before))
      | .not term => do pure (.ofBool !(← evaluate fuel term).isTrue)
      | .minus term => do pure (.number (-(← evaluate fuel term).toNumber))
      | .plus term => do pure (.number (← evaluate fuel term).toNumber)
      | .calculate operation first second => do
          let first ← evaluate fuel first
          let second ← evaluate fuel second
          pure (operation.apply first.toNumber second.toNumber)
      | .compare comparison first second => do
          let first ← evaluate fuel first
          let second ← evaluate fuel second
          let order := first.order (← textOf "CONVFMT") second
          pure (.ofBool (comparison.holds order))
      | .join first second => do
          let first ← toText (← evaluate fuel first)
          let second ← toText (← evaluate fuel second)
          pure (.text (first ++ second))
      | .search isWanted text expression => do
          let text ← toText (← evaluate fuel text)
          let expression ← expressionOf fuel expression
          let found := (Regular.search expression { text := text.toList } 0).isSome
          pure (.ofBool (found = isWanted))
      | .both first second => do
          if (← evaluate fuel first).isTrue then
            return .ofBool (← evaluate fuel second).isTrue
          pure (.ofBool false)
      | .either first second => do
          if (← evaluate fuel first).isTrue then
            return .ofBool true
          pure (.ofBool (← evaluate fuel second).isTrue)
      | .choice condition consequence alternative => do
          if (← evaluate fuel condition).isTrue then evaluate fuel consequence
          else evaluate fuel alternative
      | .isMember places name => do
          let key ← keyOf fuel places
          let rows ← rowsOf (← tableOf name)
          pure (.ofBool (rows.lookup key).isSome)
      | .call name arguments => do
          match (← get).script.functions.find? fun function => function.name = name with
          | none => fault (name ++ " is no function")
          | some function => do
              if function.parameters.length < arguments.length then fault "too many arguments"
              let held ← arguments.mapM fun argument => do
                match argument with
                | .variable name =>
                    if name = "NF" then .value <$> evaluate fuel argument else passName name
                | _ => .value <$> evaluate fuel argument
              let missing := function.parameters.length - arguments.length
              let own := function.parameters.zip (held ++ List.replicate missing .unused)
              inFunction own (perform fuel function.body)
      | .builtin name arguments => callBuiltin fuel name arguments
      | .next place => do
          let spot ← place.mapM (spotOf fuel)
          match ← nextRecord with
          | some record => takeRead false spot (.ok record)
          | none => pure (.number 0)
      | .nextOf place path => do
          let path ← toText (← evaluate fuel path)
          let spot ← place.mapM (spotOf fuel)
          takeRead false spot (← nextOfFile path)
      | .nextFrom place command => do
          let command ← toText (← evaluate fuel command)
          let spot ← place.mapM (spotOf fuel)
          takeRead true spot (← nextOfCommand command)

/-- The place that a term is. -/
def spotOf : Nat → Term → Ruler Spot
  | 0, _ => fault "too deep"
  | fuel + 1, term => do
      match term with
      | .variable name => pure (.variable name)
      | .member name places => do
          let key ← keyOf fuel places
          pure (.member (← tableOf name) key)
      | .field number => do pure (.field (← fieldNumber (← evaluate fuel number)))
      | _ => fault "no place"

/-- The key of a member of a table. -/
def keyOf : Nat → List Term → Ruler String
  | 0, _ => fault "too deep"
  | fuel + 1, places => do
      let texts ← places.mapM fun place => do toText (← evaluate fuel place)
      pure (String.intercalate (← textOf "SUBSEP") texts)

/-- The expression that a term stands for. -/
def expressionOf : Nat → Term → Ruler Regular
  | 0, _ => fault "too deep"
  | fuel + 1, term => do
      match term with
      | .expression text => regularOf text
      | _ => do regularOf (← toText (← evaluate fuel term))

/-- The value of a function of every script. -/
def callBuiltin : Nat → String → List Term → Ruler Datum
  | 0, _, _ => fault "too deep"
  | fuel + 1, name, arguments => do
      match name, arguments with
      | "length", [] => do pure (.ofNat (← get).record.length)
      | "length", [.variable name] => do
          match ← holding name with
          | .table number => do pure (.ofNat (← rowsOf number).length)
          | _ => do pure (.ofNat (← toText (← evaluate fuel (.variable name))).length)
      | "length", [argument] => do pure (.ofNat (← toText (← evaluate fuel argument)).length)
      | "split", text :: .variable name :: rest => do
          let text ← toText (← evaluate fuel text)
          let separator ← match rest with
            | [.expression expression] => .expression <$> regularOf expression
            | [term] => do separatorOf (← toText (← evaluate fuel term))
            | _ => do separatorOf (← textOf "FS")
          fillTable (← tableOf name) separator text
      | "match", [text, expression] => do
          let text ← toText (← evaluate fuel text)
          findExpression text (← expressionOf fuel expression)
      | "sub", expression :: replacement :: rest =>
          replaceIn fuel false expression replacement (rest.headD (.field (.number 0)))
      | "gsub", expression :: replacement :: rest =>
          replaceIn fuel true expression replacement (rest.headD (.field (.number 0)))
      | _, _ => do plainResult name (← arguments.mapM (evaluate fuel))

/-- Replaces an expression in the text of a place, and gives how often. -/
def replaceIn : Nat → Bool → Term → Term → Term → Ruler Datum
  | 0, _, _, _, _ => fault "too deep"
  | fuel + 1, isEverywhere, expression, replacement, place => do
      let expression ← expressionOf fuel expression
      let replacement ← toText (← evaluate fuel replacement)
      let text := (← toText (← evaluate fuel place)).toList
      let (changed, number) := replaceMatches expression { text } isEverywhere
        (fun found => replacementFor found replacement.toList) (text.length + 2) 0 none
      if number != 0 && place.isPlace then
        (← spotOf fuel place).write (.text (String.ofList changed))
      pure (.ofNat number)

/-- Writes a text where it is to go. -/
def emitAt : Nat → Target → String → Ruler Unit
  | 0, _, _ => fault "too deep"
  | fuel + 1, target, text => do
      match target with
      | .output => emit text
      | .file isAdded path => do emitToFile isAdded (← toText (← evaluate fuel path)) text
      | .command command => do emitToCommand (← toText (← evaluate fuel command)) text

/-- Does a deed. -/
def perform : Nat → Deed → Ruler Unit
  | 0, _ => fault "too deep"
  | fuel + 1, deed => do
      match deed with
      | .nothing => pure ()
      | .evaluate term => do
          let _ ← evaluate fuel term
      | .write terms target => do
          let format ← textOf "OFMT"
          let texts ← terms.mapM fun term => do pure ((← evaluate fuel term).toText format)
          let record := (← get).record
          let texts := if terms.isEmpty then [record] else texts
          let text := String.intercalate (← textOf "OFS") texts ++ (← textOf "ORS")
          emitAt fuel target text
      | .format terms target => do
          let values ← terms.mapM (evaluate fuel)
          let format ← toText (values.headD .nothing)
          let (text, isFull) := Datum.filled (← textOf "CONVFMT") format values.tail
          emitAt fuel target text
          if !isFull then fault "wrong format"
      | .block deeds => deeds.forM (perform fuel)
      | .choice condition consequence alternative => do
          if (← evaluate fuel condition).isTrue then perform fuel consequence
          else perform fuel alternative
      | .loop condition step body =>
          rounds (do
            if (← evaluate fuel condition).isTrue then
              if ← oneRound (perform fuel body) then
                perform fuel step
                return true
            pure false) mostRounds
      | .lateLoop body condition =>
          rounds (do
            if ← oneRound (perform fuel body) then
              return (← evaluate fuel condition).isTrue
            pure false) mostRounds
      | .each name table body => do
          let rows ← rowsOf (← tableOf table)
          eachKey (fun key => do
            setVariable name (.ofInput key)
            perform fuel body) (rows.map (·.1))
      | .leave => throw .leaves
      | .again => throw .repeats
      | .next => throw .skips
      | .nextFile => throw .skipsFile
      | .exit status => do
          status.forM fun status => do
            let value ← evaluate fuel status
            modify fun state => { state with status := (value.toWhole % 256).toNat }
          throw .exits
      | .give value => do
          let value ← value.mapM (evaluate fuel)
          throw (.gives (value.getD .nothing))
      | .delete name places => do
          let key ← keyOf fuel places
          modifyRows (← tableOf name) fun rows => rows.filter fun row => row.1 != key
      | .clear name => do
          modifyRows (← tableOf name) fun _ => []

end

/-! ## Scripts -/

/-- A bound on how deep a script can go. -/
def deepest : Nat := 10000

/-- The rule is for the record at hand. -/
def isMeant (index : Nat) : Occasion → Ruler Bool
  | .start | .finish => pure false
  | .always => pure true
  | .holds condition => do pure (← evaluate deepest condition).isTrue
  | .between first last => do
      let isOpen := (← get).openRows.contains index
      let isIn ← if isOpen then pure true else Datum.isTrue <$> evaluate deepest first
      if isIn then
        let isLast := (← evaluate deepest last).isTrue
        modify fun state =>
          let others := state.openRows.filter (· != index)
          { state with openRows := if isLast then others else index :: others }
      pure isIn

/-- Applies rules to the record at hand. -/
def applyRows : Nat → List Row → Ruler Unit
  | _, [] => pure ()
  | index, row :: rest => do
      if ← isMeant index row.occasion then perform deepest row.deed
      applyRows (index + 1) rest

/-- Applies rules to the next record, and tells whether there was one. -/
def applyToNext (rows : List Row) : Ruler Bool := do
  match ← nextRecord with
  | none => pure false
  | some record => do
      setRecord record
      tryCatch (applyRows 0 rows) fun stop =>
        match stop with
        | .skips => pure ()
        | .skipsFile => modify fun state => { state with input := none }
        | _ => throw stop
      pure true

/-- The occasion is the start. -/
def Occasion.isStart : Occasion → Bool
  | .start => true
  | _ => false

/-- The occasion is the end. -/
def Occasion.isFinish : Occasion → Bool
  | .finish => true
  | _ => false

/-- Does the deeds of rules whose occasion has a property. -/
def performWhere (property : Occasion → Bool) : Ruler Unit := do
  let rows := (← get).script.rows.filter fun row => property row.occasion
  rows.forM fun row => perform deepest row.deed

/-- Runs something that can end the script, and tells whether it goes on. -/
def upToExit (body : Ruler Unit) : Ruler Unit :=
  tryCatch body fun stop =>
    match stop with
    | .fails => throw .fails
    | _ => pure ()

/-- Runs a script: the rules for the start, those for records, and those for the end. -/
def runScript : Ruler Unit := do
  upToExit do
    performWhere Occasion.isStart
    let rows := (← get).script.rows
    if rows.any fun row => !row.occasion.isStart then
      rounds (applyToNext rows) mostRounds
  upToExit (performWhere Occasion.isFinish)
  finishAll

/-- The status of a script that is wrong. -/
def failure : Nat := 2

/-- Sets the variables that a script has from the beginning. -/
def setUp (separator : Option String) (assignments arguments : List String) : Ruler Unit := do
  let texts := [("FS", " "), ("OFS", " "), ("ORS", "\n"), ("RS", "\n"), ("SUBSEP", "\x1c"),
    ("CONVFMT", "%.6g"), ("OFMT", "%.6g"), ("FILENAME", "")]
  texts.forM fun (name, text) => setVariable name (.text text)
  ["NR", "FNR", "RSTART"].forM fun name => setVariable name (.number 0)
  setVariable "RLENGTH" (.number (-1))
  let words := "awk" :: arguments
  setVariable "ARGC" (.ofNat words.length)
  let named := words.mapIdx fun index word => (toString index, Datum.ofInput word)
  setHolding "ARGV" (.table (← addTable named))
  let known ← act environment
  let known := known.map fun (name, text) => (name, Datum.ofInput text)
  setHolding "ENVIRON" (.table (← addTable known))
  separator.forM fun text => assignArgument "FS" text
  assignments.forM fun assignment => do
    match assignmentOf? assignment with
    | some (name, text) => assignArgument name text
    | none => fault "no assignment"

/-- Runs a script with arguments, and gives its status. -/
def runWith (again : Runner) (script : Script) (separator : Option String)
    (assignments arguments : List String) : Action Nat := do
  let body : Ruler Unit := do
    setUp separator assignments arguments
    runScript
  let (result, state) ← (body.run).run { again, script }
  match result with
  | .ok _ => pure state.status
  | .error _ => do
      let _ ← (finishAll.run).run state
      pure failure

end Rule

/-- Runs a script of rules. -/
def runAwk (again : Runner) (arguments : List String) : Action Nat := do
  let known : List Known := [⟨'F', "", .text⟩, ⟨'f', "", .text⟩, ⟨'v', "", .text⟩, ⟨'W', "", .text⟩,
    ⟨Char.ofNat 1, "version", .nothing⟩, ⟨Char.ofNat 1, "help", .nothing⟩]
  match readLeading known arguments with
  | none => refuse Rule.failure "not an option"
  | some given => do
      if given.has (Char.ofNat 1) || given.has 'W' then answer "awk\n"
      else do
        let (texts, status) ← readEach Rule.failure (given.texts 'f')
        let isGiven := given.has 'f'
        let text := if isGiven then String.intercalate "\n" (texts.map (·.2))
          else given.operands.headD ""
        let operands := if isGiven then given.operands else given.operands.tail
        if status != 0 then pure status
        else match Rule.script? text with
        | none => refuse Rule.failure "wrong script"
        | some script => Rule.runWith again script (given.text? 'F') (given.texts 'v') operands

end StaticMulticast.Host.Utility
