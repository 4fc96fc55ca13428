import StaticMulticast.Host.Process.Task
import StaticMulticast.Host.Shell.Calculation
import StaticMulticast.Host.Shell.Declaration
import StaticMulticast.Text.Calendar

/-!
# Values that are calculated

Texts with signs for the shell, and calculations with variables.
-/

/-!
## Texts with signs for the shell

In the text that a shell writes to ask for a command, a backslash and a letter stand for something
that the shell knows: the time, the working directory or the user.
-/

namespace StaticMulticast.Host.Shell

open Action

/-- The value of octal digits in front of characters, and the characters after them. -/
def octalFront (characters : List Char) : Nat × List Char :=
  let isDigit (character : Char) : Bool := '0' ≤ character && character ≤ '7'
  let digits := (characters.take 3).takeWhile isDigit
  (digits.foldl (fun value digit => 8 * value + (digit.toNat - '0'.toNat)) 0,
    characters.drop digits.length)

/-- What a sign for the time stands for, as a format of times. -/
def timeSign? (letter : Char) : Option String :=
  match letter with
  | 'd' => some "%a %b %d"
  | 't' => some "%H:%M:%S"
  | 'T' => some "%I:%M:%S"
  | '@' => some "%I:%M %p"
  | 'A' => some "%H:%M"
  | _ => none

/-- What a letter behind a backslash stands for, if it stands for something. -/
def promptSign? (letter : Char) : Action (Option String) := do
  let process ← process
  let path := process.path.getD (Text.Octets.encode (Files.pathOf process.working))
  let home ← parameter "HOME"
  let moment := Text.Calendar.Moment.ofMillionths (← now)
  match timeSign? letter with
  | some format => pure (some (Text.Calendar.format moment format))
  | none =>
      pure (match letter with
        | 'a' => some (String.singleton (Char.ofNat 7))
        | 'e' => some (String.singleton (Char.ofNat 27))
        | 'n' => some "\n"
        | 'r' => some "\r"
        | '\\' => some "\\"
        | '[' | ']' => some ""
        | '$' => some "#"
        | 'u' => some "root"
        | 'h' | 'H' => some "localhost"
        | 's' => some "bash"
        | 'v' => some "5.2"
        | 'V' => some "5.2.15"
        | 'j' => some (toString process.jobs.length)
        | 'l' => some "tty"
        | '!' | '#' => some "1"
        | 'w' => some (withTilde home path)
        | 'W' =>
            let name := (Files.parts path).getLast?.getD ""
            some (if withTilde home path = "~" then "~" else if name.isEmpty then "/" else name)
        | _ => none)

/-- A text in which the signs are replaced by what they stand for. The bound is on its length. -/
def withSigns : Nat → List Char → Action (List Char)
  | 0, text => pure text
  | bound + 1, text => do
      match text with
      | '\\' :: 'D' :: '\x7b' :: rest => do
          let (format, rest) := rest.span (· != '\x7d')
          let moment := Text.Calendar.Moment.ofMillionths (← now)
          let format := if format.isEmpty then "%H:%M:%S" else String.ofList format
          let after ← withSigns bound rest.tail
          pure ((Text.Calendar.format moment format).toList ++ after)
      | '\\' :: letter :: rest =>
          if '0' ≤ letter && letter ≤ '7' then do
            let (code, rest) := octalFront (letter :: rest)
            let after ← withSigns bound rest
            pure (Char.ofNat (code % 256) :: after)
          else do
            let meant ← promptSign? letter
            let after ← withSigns bound rest
            pure ((meant.map String.toList).getD ['\\', letter] ++ after)
      | letter :: rest => do pure (letter :: (← withSigns bound rest))
      | [] => pure []

end StaticMulticast.Host.Shell

/-!
## Calculations with variables

The value of a variable can be at a place of a list, and it can itself be the text of a calculation.
What an expression comes to is found from left to right, and so is the first flaw of it.
-/

namespace StaticMulticast.Host.Shell.Expansion

open Action
open Calculation (Expression Flaw)

/-- A bound on how deep words and calculations can be nested. -/
def depth : Nat := 512

/-- A value that is needed is missing, which ends the script. -/
def missing {Result : Type} (message : String) : Action Result := do
  complain message
  let { dialect, options, copies, .. } ← process
  if dialect = .plain then throw (.fails 2)
  else throw (.exits (if copies = 0 && options.startLetters.contains 'c' then 127 else 1))

/-! ## Values at places -/

/-- The texts of a list that the shell itself keeps. -/
def keptList? (name : String) : Action (Option (List String)) := do
  let process ← process
  let { frames, script, calls, .. } := process
  let withScript (texts : List String) (text : String → String) : List String :=
    texts ++ (script.map text).toList
  let home ← parameter "HOME"
  pure (if process.dialect = .plain then none
    else match name with
    | "PIPESTATUS" => some (process.pipeStatus.map toString)
    | "FUNCNAME" =>
        some (if calls = 0 then [] else withScript (frames.map Frame.name) fun _ => "main")
    | "BASH_LINENO" => some (withScript (frames.map fun frame => toString frame.line) fun _ => "0")
    | "BASH_SOURCE" => some (withScript (frames.map Frame.source) id)
    | "BASH_VERSINFO" => some ["5", "2", "15", "1", "release", "x86_64-pc-linux-gnu"]
    | "GROUPS" => some ["0"]
    | "DIRSTACK" =>
        let path := process.path.getD (Text.Octets.encode (Files.pathOf process.working))
        some ((path :: process.places).map (withTilde home))
    | _ => none)

/-- What a variable holds. -/
def valueOf (name : String) : Action Value := do
  match (← binding? name).map Binding.value, ← keptList? name with
  | some value, _ => pure value
  | none, some texts => pure (.list ((List.range texts.length).zip texts))
  | none, none => pure .absent

/-- A place of a variable: the usual one, or one of a list or of a table. -/
inductive Spot where
  | usual
  | number (place : Int)
  | name (place : String)
deriving DecidableEq, Repr

/-- There is no such place in a list. -/
def refusePlace {Result : Type} (name place : String) : Action Result := do
  report (name ++ "[" ++ place ++ "]: bad array subscript")
  throw (.abandons 1)

/-- A parameter cannot be replaced in the way that is written. -/
def refuseParameter {Result : Type} (text : String) : Action Result := do
  if ← isExtended then do
    report (text ++ ": bad substitution")
    throw (.abandons 1)
  else giveUp "Bad substitution"

/-- Puts a text at a place of a variable. -/
def setMember (name : String) (spot : Spot) (text : String) : Action Unit := do
  match spot, ← valueOf name with
  | .usual, _ => setText name text
  | .name place, .table members => setValue name (.table (Value.insertNamed place text members))
  | .name _, _ => pure ()
  | .number place, value => do
      let members := value.members
      let meant := if place < 0 then place + Value.nextPlace members else place
      if meant < 0 then refusePlace name (toString place)
      else setValue name (.list (Value.insert meant.toNat text members))

/-- The text at a place of a variable. -/
def member? (name : String) (spot : Spot) : Action (Option String) := do
  match spot, ← valueOf name with
  | .usual, _ => parameter? name
  | .number place, .single text => pure (if place = 0 then some text else none)
  | .number place, .list members =>
      let place := if place < 0 then place + Value.nextPlace members else place
      pure (if place < 0 then none else members.lookup place.toNat)
  | .name place, .table members => pure (members.lookup place)
  | _, _ => pure none

/-! ## Results of expressions -/

/-- The calculation cannot be done. It is told as it is written, without blanks in front, with the text
from the flaw on. -/
def refuseCalculation {Result : Type} (whole : String) (flaw : Flaw) (text : String) :
    Action Result := do
  if ← isExtended then
    let front := ((← process).running.map (· ++ ": ")).getD ""
    let shown := String.ofList (whole.toList.dropWhile fun letter => letter = ' ' || letter = '\t')
    giveUp (front ++ shown ++ ": " ++ flaw.message ++ " (error token is \"" ++ text ++ "\")")
  else giveUp ("arithmetic expression: " ++ flaw.plainMessage ++ ": \"" ++ whole ++ "\"")

/-- The number that the text of a variable stands for in the plain language. -/
def variableNumber? (text : String) : Option Int :=
  let text := text.toList.dropWhile Char.isWhitespace
  let (isNegative, digits) := match text with
    | '-' :: digits => (true, digits)
    | '+' :: digits => (false, digits)
    | digits => (false, digits)
  let (value, rest) := Calculation.plainNumber digits
  let fits := value ≤ Calculation.greatest + (if isNegative then 1 else 0)
  if text.isEmpty then some 0
  else if !(digits.head?).any Char.isDigit || !rest.all Char.isWhitespace || !fits then none
  else some (if isNegative then -Int.ofNat value else Int.ofNat value)

/-- A text without the quotes around it. -/
def withoutQuotes (text : String) : String :=
  match text.toList with
  | mark :: rest =>
      if (mark = '"' || mark = '\'') && rest.getLast? = some mark then String.ofList rest.dropLast
      else text
  | [] => text

/-- What calculations need to know of the text in which they stand: what places in lists come to, and how
the text of a variable is calculated. -/
structure Calculator where
  whole : String
  expand : String → Action String
  calculate : String → Action Int

/-- An expression that does not matter is not calculated, but must have no flaw. -/
def Calculator.skip (calculator : Calculator) (expression : Expression) : Action Unit :=
  match expression.flaw? with
  | some (flaw, text) => refuseCalculation calculator.whole flaw text
  | none => pure ()

/-- The place of a variable that is meant. -/
def Calculator.spot (calculator : Calculator) (name : String) (place : Option String) :
    Action Spot := do
  match place, ← valueOf name with
  | none, _ => pure .usual
  | some place, .table _ => do pure (.name (← calculator.expand (withoutQuotes place)))
  | some place, _ => do
      let text ← calculator.expand place
      pure (.number (← whileRunning none (calculator.calculate text)))

/-- The number of a variable. -/
def Calculator.read (calculator : Calculator) (name : String) (spot : Spot) : Action Int := do
  match ← member? name spot, ← isExtended with
  | none, true =>
      if (← process).options.needsValues && (← valueOf name) = .absent then
        missing (name ++ ": unbound variable")
      else pure 0
  | none, false => pure 0
  | some text, true => calculator.calculate text
  | some text, false =>
      match variableNumber? text with
      | some value => pure value
      | none => giveUp ("Illegal number: " ++ text)

/-- The result of an operator between two numbers. -/
def Calculator.join (calculator : Calculator) (operator : String) (left right : Int)
    (text : String) : Action Int :=
  match Calculation.joined operator left right with
  | .ok value => pure value
  | .error flaw => refuseCalculation calculator.whole flaw text

/-- The result of an expression. -/
def Calculator.result (calculator : Calculator) : Expression → Action Int
  | .number value => pure value
  | .flaw flaw text => refuseCalculation calculator.whole flaw text
  | .name name place => do calculator.read name (← calculator.spot name place)
  | .sign operator body => do pure (Calculation.signed operator (← calculator.result body))
  | .join operator left right text => do
      let first ← calculator.result left
      if (operator = "&&" && first = 0) || (operator = "||" && first ≠ 0) then do
        calculator.skip right
        pure (Calculation.ofBool (first ≠ 0))
      else do
        let second ← calculator.result right
        if operator = "&&" || operator = "||" then pure (Calculation.ofBool (second ≠ 0))
        else calculator.join operator first second text
  | .choice condition consequence alternative => do
      if (← calculator.result condition) ≠ 0 then do
        let value ← calculator.result consequence
        calculator.skip alternative
        pure value
      else do
        calculator.skip consequence
        calculator.result alternative
  | .assign operator name place value text => do
      let extended ← isExtended
      let joint := String.ofList operator.toList.dropLast
      let (spot, value) ←
        if joint.isEmpty then do
          let value ← calculator.result value
          pure (← calculator.spot name place, value)
        else if extended then do
          let spot ← calculator.spot name place
          let held ← calculator.read name spot
          pure (spot, ← calculator.join joint held (← calculator.result value) text)
        else do
          let value ← calculator.result value
          pure (.usual, ← calculator.join joint (← calculator.read name .usual) value text)
      setMember name spot (toString value)
      pure value
  | .step name place amount isBefore => do
      let spot ← calculator.spot name place
      let held ← calculator.read name spot
      let value := Calculation.wrap (held + amount)
      setMember name spot (toString value)
      pure (if isBefore then held else value)

/-- The number of variables through which a calculation may go. -/
def mostReferences : Nat := 1024

/-- The result of a calculation that may go through so many variables. It is given what places in lists
come to. -/
def calculateFrom (expand : String → Action String) : Nat → String → Action Int
  | 0, text => refuseCalculation text .depth text
  | bound + 1, text =>
      Calculator.result ⟨text, expand, calculateFrom expand bound⟩
        (Calculation.expression true text.toList)

/-- The result of a calculation. It is given what places in lists come to. -/
def calculateWith (expand : String → Action String) (text : String) : Action Int := do
  if ← isExtended then calculateFrom expand mostReferences text
  else
    Calculator.result ⟨text, pure, fun _ => pure 0⟩ (Calculation.expression false text.toList)

/-- The result of a calculation whose places in lists stand for themselves. -/
def calculate (text : String) : Action Int :=
  calculateWith pure text

/-- The place in a list that a text stands for. -/
def placeOf (text : String) : Action Int :=
  whileRunning none (calculate text)

/-- The result of a calculation, unless it cannot be done. -/
def tried (calculation : Action Int) : Action (Option Int) := do
  match ← attempt calculation with
  | .ok value => pure (some value)
  | .error (.abandons _) => pure none
  | .error jump => throw jump

end StaticMulticast.Host.Shell.Expansion
