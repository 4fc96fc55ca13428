import StaticMulticast.Host.Shell.Builtin.Signal
import StaticMulticast.Host.Utility.Datum
import StaticMulticast.Host.Utility.Start
import StaticMulticast.Host.Utility.Statement.Held
import StaticMulticast.Host.Utility.Statement.Reader
import StaticMulticast.Text.Regular.Rich

/-!
# The state of scripts of statements

What has been found by expressions, and the cells that a script works on.
-/

/-!
## Expressions of scripts of statements

They are rich expressions. A text is searched for them from a position on, again and again, and cut
or changed where they stand for something.
-/

namespace StaticMulticast.Host.Utility.Statement

open StaticMulticast.Text (Regular)

/-- An expression, the number of its groups, those that have names, and whether it can only stand
for something at the position from which a text is searched. -/
structure Pattern where
  expression : Regular
  groups : Nat
  names : List (String × Nat) := []
  isFixed : Bool := false

/-- A match in a text. -/
structure Finding where
  pattern : Pattern
  found : Regular.Match
  text : List Char

namespace Finding

/-- Where a group begins and ends, if it stands for something. -/
def bounds? (finding : Finding) (number : Nat) : Option (Nat × Nat) :=
  if number = 0 then some (finding.found.start, finding.found.stop)
  else finding.found.groups.lookup number

/-- What a group stands for, if it does. -/
def group? (finding : Finding) (number : Nat) : Option String :=
  (finding.bounds? number).map fun (start, stop) =>
    String.ofList ((finding.text.drop start).take (stop - start))

/-- What all groups stand for. -/
def groups (finding : Finding) : List (Option String) :=
  (List.range finding.pattern.groups).map fun index => finding.group? (index + 1)

/-- The text before the match. -/
def before (finding : Finding) : String :=
  String.ofList (finding.text.take finding.found.start)

/-- The text behind the match. -/
def after (finding : Finding) : String :=
  String.ofList (finding.text.drop finding.found.stop)

end Finding

namespace Pattern

/-- The expression that a text is. -/
def ofText? (text flags : String) : Option Pattern :=
  let isFixed := "\\G".toList.isPrefixOf text.toList
  let text := if isFixed then String.ofList (text.toList.drop 2) else text
  let flags := String.ofList (flags.toList.filter fun flag => "imsx".toList.contains flag)
  (Regular.Rich.ofText? text flags).map fun rich =>
    ⟨rich.expression, rich.expression.groups, rich.names, isFixed⟩

/-- The first match from a position on that a test of its start and its end accepts. -/
def findWith (pattern : Pattern) (text : List Char) (position : Nat)
    (accepts : Nat → Nat → Bool) : Option Finding :=
  let accepts (start stop : Nat) : Bool :=
    accepts start stop && (!pattern.isFixed || start = position)
  let setting := { Regular.Rich.setting text with accepts }
  (Regular.search pattern.expression setting position).map fun found => ⟨pattern, found, text⟩

/-- The first match from a position on. -/
def find (pattern : Pattern) (text : List Char) (position : Nat) : Option Finding :=
  pattern.findWith text position fun _ _ => true

/-- The match after one that ends at a position and may stand for nothing. It does not stand for
nothing at that place again. -/
def findNext (pattern : Pattern) (text : List Char) (position : Nat) (wasEmpty : Bool) :
    Option Finding :=
  pattern.findWith text position fun start stop =>
    !(wasEmpty && start = position && stop = position)

/-- All matches from a position on. The bound is on their number. -/
def findAll (pattern : Pattern) (text : List Char) : Nat → Nat → Bool → List Finding
  | 0, _, _ => []
  | bound + 1, position, wasEmpty =>
      match pattern.findNext text position wasEmpty with
      | none => []
      | some finding =>
          let isEmpty := finding.found.stop = finding.found.start
          finding :: pattern.findAll text bound finding.found.stop isEmpty

/-- The pieces of a text between matches from a position on, with what groups stand for between
them. It is given how many further pieces are wanted, if that is told. -/
def piecesFrom (pattern : Pattern) (text : List Char) :
    Nat → Nat → Option Nat → List (Option String) → List (Option String)
  | 0, start, _, done => (some (String.ofList (text.drop start)) :: done).reverse
  | bound + 1, start, most, done =>
      let last := (some (String.ofList (text.drop start)) :: done).reverse
      if most = some 1 || text.length ≤ start then last
      else match pattern.findWith text start fun _ stop => start < stop with
        | none => last
        | some finding =>
            if text.length ≤ finding.found.start then last
            else
              let piece := String.ofList ((text.drop start).take (finding.found.start - start))
              let isBare := finding.found.stop = finding.found.start && finding.found.start = 0
              if isBare then pattern.piecesFrom text bound start most done
              else pattern.piecesFrom text bound finding.found.stop (most.map (· - 1))
                (finding.groups.reverse ++ some piece :: done)

/-- The pieces of a text between matches. So many of them are wanted at most, or all of them, even
the empty ones at the end. -/
def pieces (pattern : Pattern) (text : List Char) (most : Int) : List (Option String) :=
  if text.isEmpty then []
  else
    let all := pattern.piecesFrom text (text.length + 1) 0
      (if 0 < most then some most.toNat else none) []
    if most = 0 then
      (all.reverse.dropWhile fun piece => piece.all String.isEmpty).reverse
    else all

end Pattern

end StaticMulticast.Host.Utility.Statement

/-!
## What a script of statements works on

Everything that a name or a reference can stand for has a cell with an address. A list holds the
addresses of its elements, and a table those of its members, so that several names can stand for the
same thing. What is hidden comes back when what is around ends.
-/

namespace StaticMulticast.Host.Utility.Statement

open Action
open StaticMulticast.Text (Regular)

/-! ## Cells -/

/-- An open file of a script. -/
structure Handle where
  descriptor : Option Nat := none
  /-- What has been read, but not been taken. -/
  held : List Char := []
  isEnded : Bool := false
  /-- What is to be written, the last text first. -/
  kept : List String := []
  /-- The number of lines that have been taken. -/
  lines : Nat := 0
  /-- The cell that is written to instead of a file. -/
  memory : Option Nat := none
  /-- The command that gets what is written when the file is closed. -/
  command : Option (List String) := none
  /-- How the command has ended that is read. -/
  status : Option Int := none
  /-- The names of an open directory that are left, and all of them. -/
  names : List String := []
  allNames : List String := []
  isDirectory : Bool := false
  isWritten : Bool := false
  /-- What is written is not kept. -/
  flushes : Bool := false

/-- What stands at an address. -/
inductive Cell where
  | scalar (value : Held)
  | array (elements : Array Nat)
  /-- The members in order, and the place of the next one to tell. -/
  | table (members : List (String × Nat)) (next : Nat)
  /-- A function, with the cells that it has been made with, unless it has a name. -/
  | function (name : String) (body : Nat) (slots : Option (List (Nat × Nat)))
  /-- A function of the library. -/
  | tool (name : String)
  | handle (handle : Handle)
  | expression (text flags : String)

/-- What comes back. -/
inductive Undo where
  | shared (key : String) (address : Option Nat)
  | member (table : Nat) (key : String) (cell : Option Nat)
  | element (array index cell : Nat)

/-- A function that has been called: its package, the line of the call, its name and whether a list
is wanted. -/
structure Call where
  package : String
  line : Nat
  name : String
  wanted : Option Bool

/-- A process that goes on with the script from some statements on. -/
structure Child where
  process : Process
  start : Nat
  body : Action Unit

/-- The state of a script. -/
structure Running where
  again : Runner
  script : Script
  name : String
  cells : Array Cell := #[]
  /-- The packages of objects, by address. -/
  blessed : List (Nat × String) := []
  shared : List (String × Nat) := []
  /-- The cells of declared names that have been declared again. -/
  slots : List (Nat × Nat) := []
  /-- The declared names that have been declared. -/
  introduced : Array Bool := #[]
  undo : List Undo := []
  wanted : Option Bool := none
  line : Nat := 1
  calls : List Call := []
  /-- What terms remember. -/
  memories : List (Nat × Nat) := []
  /-- Where the search of a text goes on. -/
  positions : List (Nat × Nat × Bool) := []
  finding : Option Finding := none
  lastPattern : Option Pattern := none
  /-- The addresses of all open files. -/
  handles : List Nat := []
  selected : Nat := 0
  lastRead : Option Nat := none
  /-- The time at which the alarm goes off. -/
  alarm : Option Nat := none
  /-- The processes that have not run yet. -/
  children : List Child := []
  /-- The processes whose end has not been asked for. -/
  living : List Nat := []
  /-- The numbers that the next forks give. -/
  forks : List Nat := []
  fault : Nat := 0
  lot : Option Nat := none
  /-- The number of attempts around. -/
  attempts : Nat := 0
  /-- What a path has been asked about last. -/
  lastPath : Held := .nothing

/-- What ends statements. -/
inductive Stop where
  | leaves (label : String)
  | repeats (label : String)
  | anew (label : String)
  | gives (values : List Held)
  | dies (value : Held)
  | exits (status : Int)
  /-- The process is to be copied. -/
  | forks

/-- What runs a script. -/
abbrev Actor := ExceptT Stop (StateT Running Action)

/-- Does something that a process can do. -/
def act {Result : Type} (action : Action Result) : Actor Result :=
  ExceptT.lift (StateT.lift action)

/-! ## Addresses -/

/-- Adds a cell, and gives its address. -/
def addCell (cell : Cell) : Actor Nat := do
  let address := (← get).cells.size
  modify fun state => { state with cells := state.cells.push cell }
  pure address

/-- Adds a cell for a value. -/
def addValue (value : Held) : Actor Nat :=
  addCell (.scalar value)

/-- Changes a cell. -/
def setCell (address : Nat) (cell : Cell) : Actor Unit :=
  modify fun state => { state with cells := state.cells.setIfInBounds address cell }

/-- What stands at an address. -/
def cellAt (address : Nat) : Actor Cell := do
  pure ((← get).cells[address]?.getD (.scalar .nothing))

/-- The value at an address. -/
def readCell (address : Nat) : Actor Held := do
  match ← cellAt address with
  | .scalar value => pure value
  | _ => pure (.reference address)

/-- Puts a value at an address. A search of it begins anew. -/
def writeCell (address : Nat) (value : Held) : Actor Unit :=
  modify fun state =>
    { state with
      cells := state.cells.setIfInBounds address (.scalar value)
      positions := if state.positions.isEmpty then []
        else state.positions.filter fun row => row.1 != address }

/-- The addresses of the elements of a list. -/
def elementsAt (address : Nat) : Actor (Array Nat) := do
  match ← cellAt address with
  | .array elements => pure elements
  | _ => pure #[]

/-- The addresses of the members of a table. -/
def membersAt (address : Nat) : Actor (List (String × Nat)) := do
  match ← cellAt address with
  | .table members _ => pure members
  | _ => pure []

/-- Members with one in the place of another one with its key, or behind them. -/
def withMember {Value : Type} (key : String) (value : Value) :
    List (String × Value) → List (String × Value)
  | [] => [(key, value)]
  | member :: rest =>
      if member.1 = key then (key, value) :: rest else member :: withMember key value rest

/-- Puts a cell into a table. -/
def setMember (table : Nat) (key : String) (cell : Nat) : Actor Unit := do
  match ← cellAt table with
  | .table members next => setCell table (.table (withMember key cell members) next)
  | _ => setCell table (.table [(key, cell)] 0)

/-- A new cell of some shape. -/
def freshCell : Shape → Cell
  | .scalar => .scalar .nothing
  | .array => .array #[]
  | .table => .table [] 0
  | .function => .scalar .nothing

/-- The address of what a declared name stands for. -/
def ownAddress (slot : Nat) : Actor Nat := do
  pure (((← get).slots.lookup slot).getD slot)

/-- The key of what a name stands for in all of the script. -/
def sharedKey (shape : Shape) (name : String) : String :=
  String.singleton shape.mark ++ name

/-- The address of what a name stands for in all of the script. -/
def sharedAddress (shape : Shape) (name : String) : Actor Nat := do
  let key := sharedKey shape name
  match (← get).shared.lookup key with
  | some address => pure address
  | none => do
      let address ← addCell (freshCell shape)
      modify fun state => { state with shared := (key, address) :: state.shared }
      pure address

/-- Lets a name stand for something else. -/
def setShared (key : String) (address : Option Nat) : Actor Unit :=
  modify fun state =>
    let others := state.shared.filter fun row => row.1 != key
    { state with
      shared := match address with
        | some address => (key, address) :: others
        | none => others }

/-- The value of a name of all of the script. -/
def sharedValue (name : String) : Actor Held := do
  readCell (← sharedAddress .scalar ("main::" ++ name))

/-- Gives a name of all of the script a value. -/
def setSharedValue (name : String) (value : Held) : Actor Unit := do
  writeCell (← sharedAddress .scalar ("main::" ++ name)) value

/-! ## Values -/

/-- The package of the object at an address. -/
def packageOf? (address : Nat) : Actor (Option String) := do
  pure ((← get).blessed.lookup address)

/-- The word for what a reference leads to. -/
def kindAt (address : Nat) : Actor String := do
  pure (match ← cellAt address with
    | .scalar (.reference _) => "REF"
    | .scalar _ => "SCALAR"
    | .array _ => "ARRAY"
    | .table _ _ => "HASH"
    | .function _ _ _ | .tool _ => "CODE"
    | .handle _ => "GLOB"
    | .expression _ _ => "Regexp")

/-- The number that a reference is taken for. -/
def addressNumber (address : Nat) : Nat := 0x55D0C0000000 + 24 * address

/-- The text of a value. -/
def textOf (value : Held) : Actor String := do
  match value with
  | .plain value => pure (datumText value)
  | .reference address => do
      match ← cellAt address with
      | .expression text flags => do
          pure ("(?^" ++ flags ++ ":" ++ text ++ ")")
      | _ => do
          let digits := String.ofList (Nat.toDigits 16 (addressNumber address))
          let text := (← kindAt address) ++ "(0x" ++ digits ++ ")"
          pure (match ← packageOf? address with
            | some package => package ++ "=" ++ text
            | none => text)

/-- A value as a plain one. A reference is a text and a number. -/
def datumOf (value : Held) : Actor Datum := do
  match value with
  | .plain value => pure value
  | .reference address => do pure (.both (← textOf value) (addressNumber address))

/-- The number of a value. -/
def numberOfValue (value : Held) : Actor Rat := do
  pure (datumNumber (← datumOf value))

/-- The whole number of a value. -/
def wholeOf (value : Held) : Actor Int := do
  pure (Datum.truncated (← numberOfValue value))

/-- The value counts as true. -/
def isTrue : Held → Bool
  | .plain value => isTrueDatum value
  | .reference _ => true

/-- The package, the file and the line in a message. -/
def placeText : Actor String := do
  let state ← get
  let read ← match state.lastRead with
    | some address => do
        match ← cellAt address with
        | .handle handle =>
            let isInput := (state.shared.lookup "*main::STDIN") = some address
            let isList := (state.shared.lookup "*main::ARGV") = some address
            let name := if isInput then "<STDIN>" else if isList then "<>" else "<$fh>"
            pure (if handle.lines = 0 then ""
              else ", " ++ name ++ " line " ++ toString handle.lines)
        | _ => pure ""
    | none => pure ""
  pure (" at " ++ state.name ++ " line " ++ toString state.line ++ read ++ ".\n")

/-- Gives up with a message. -/
def die {Result : Type} (message : String) : Actor Result := do
  throw (.dies (.text (message ++ (← placeText))))

/-- The number of a fault. -/
def faultNumber : Fault → Nat
  | .system number => number.toNat
  | _ => 22

/-- Takes note of a fault, and gives the value of a failure. -/
def failed (fault : Fault) : Actor Held := do
  modify fun state => { state with fault := faultNumber fault }
  pure (.number 0)

/-- Takes note of the number of a fault, and gives no value. -/
def failedWith (number : Nat) : Actor Held := do
  modify fun state => { state with fault := number }
  pure .nothing

/-- The value of a success, or of a failure. -/
def outcome : Option Fault → Actor Held
  | some fault => failed fault
  | none => pure (.number 1)

/-! ## What comes back -/

/-- Gives back what has been hidden since there was so much of it. -/
def comeBack (size : Nat) : Actor Unit := do
  let undo := (← get).undo
  if size < undo.length then do
    let (recent, rest) := undo.splitAt (undo.length - size)
    modify fun state => { state with undo := rest }
    recent.forM fun item => do
      match item with
      | .shared key address => setShared key address
      | .member table key (some cell) => setMember table key cell
      | .member table key none => do
          match ← cellAt table with
          | .table members next =>
              setCell table (.table (members.filter fun member => member.1 != key) next)
          | _ => pure ()
      | .element array index cell => do
          let elements ← elementsAt array
          setCell array (.array (elements.setIfInBounds index cell))

/-- Does something, after which everything that has been hidden in it comes back. -/
def inScope {Result : Type} (body : Actor Result) : Actor Result := do
  let size := (← get).undo.length
  let result ← tryCatch (Except.ok <$> body) fun stop => pure (Except.error stop)
  comeBack size
  match result with
  | .ok result => pure result
  | .error stop => throw stop

/-- Lets a name stand for something else until what is around ends. -/
def hideShared (key : String) (address : Nat) : Actor Unit := do
  let before := (← get).shared.lookup key
  modify fun state => { state with undo := .shared key before :: state.undo }
  setShared key (some address)

/-! ## Bounds -/

/-- A bound on the rounds of a loop. -/
def mostRounds : Nat := 2000000

/-- The greatest index of a list. -/
def greatestIndex : Nat := 1000000

end StaticMulticast.Host.Utility.Statement
