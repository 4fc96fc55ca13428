import StaticMulticast.Host.Utility.Statement.BuiltIn

/-!
# Values of terms of scripts of statements

A term is asked for one value or for the values of a list. What is nested in it is carried out by
others, which are given.
-/

namespace StaticMulticast.Host.Utility.Statement

/-! ## Parts -/

/-- The term stands for several values even in a text. -/
def isPluralTerm : Term → Bool
  | .own shape _ | .shared shape _ | .behind shape _ => shape.isPlural
  | .elements _ _ | .members _ _ => true
  | _ => false

/-- The text of a part of a text. -/
def partText (inner : Actors) (part : Term) : Actor String := do
  match part with
  | .text text => pure text
  | part =>
      if isPluralTerm part then do
        let texts ← (← inner.values part).mapM textOf
        pure (String.intercalate (← textOf (← sharedValue "\"")) texts)
      else do textOf (← inner.value part)

/-- The number of values of a list or members of a table that a term stands for. -/
def countOf (inner : Actors) (shape : Shape) (term : Term) : Actor Held := do
  match ← containerOf inner shape false term with
  | none => pure (.number 0)
  | some address => do
      match ← cellAt address with
      | .array elements => pure (.count elements.size)
      | .table members _ => pure (.count members.length)
      | _ => pure (.number 0)

/-- The value of an element of a list. -/
def elementValue (inner : Actors) (array index : Term) : Actor Held := do
  match ← containerOf inner .array true array with
  | none => pure .nothing
  | some address => do
      let index ← wholeOf (← inner.value index)
      match ← elementCell? address index with
      | some cell => readCell cell
      | none => pure .nothing

/-- The value of a member of a table. -/
def memberValue (inner : Actors) (table key : Term) : Actor Held := do
  match ← containerOf inner .table true table with
  | none => pure .nothing
  | some address => do
      let key ← keyOf inner key
      match table, key with
      | .shared .table "main::!", key =>
          let number := (faultNames.lookup key).getD 0
          pure (.number (if (← get).fault = number && number != 0 then number else 0))
      | _, _ => do
          match ← memberCell? address key with
          | some cell => readCell cell
          | none => pure .nothing

/-- A reference to what a term stands for. -/
def referenceTo (inner : Actors) (term : Term) : Actor Held := do
  match term with
  | .own .array _ | .shared .array _ | .behind .array _ => .reference <$> arrayAddress inner term
  | .own .table _ | .shared .table _ | .behind .table _ => .reference <$> tableAddress inner term
  | .shared .function name => do
      match ← functionAddress? name with
      | some address => pure (.reference address)
      | none => .reference <$> sharedAddress .function name
  | .behind .function reference => inner.value reference
  | .callValue (.reference function) none => inner.value (.reference function)
  | .callValue function none => inner.value function
  | .bare name => .reference <$> namedHandle name
  | term => .reference <$> inner.cell term

/-- Assigns one value. -/
def assignOne (inner : Actors) (operator : String) (place value : Term) : Actor Held := do
  match operator with
  | "" => do
      let value ← inner.value value
      setPlace inner place value
      pure value
  | operator => do
      let cell ← inner.cell place
      let before ← readCell cell
      let keeps : Bool := match operator with
        | "||" => isTrue before
        | "&&" => !isTrue before
        | "//" => before.isDefined
        | _ => false
      if keeps then pure before
      else do
        let result ← match operator with
          | "||" | "&&" | "//" => inner.value value
          | operator => do
              let second ← datumOf (← inner.value value)
              match operated operator (← datumOf before) second with
              | .ok result => pure result
              | .error message => die message
        match place with
        | .shared .scalar _ | .last _ | .call _ _ => setPlace inner place result
        | _ => writeCell cell result
        pure result

/-- Assigns a list whose operator is not the plain one. -/
def assignChanged (inner : Actors) (operator : String) (place value : Term) : Actor Unit := do
  match operator with
  | "x" => do
      let values ← inner.values place
      let count := (← wholeOf (← inner.value value)).toNat
      assignList inner place (List.replicate count values).flatten
  | "||" => do
      if (← inner.values place).isEmpty then assignList inner place (← inner.values value)
  | _ => die "Can't modify array dereference"

/-- Counts a place up or down. -/
def advancePlace (inner : Actors) (amount : Int) (isAfter : Bool) (place : Term) : Actor Held := do
  let cell ← inner.cell place
  let before ← readCell cell
  let after ← match before with
    | .plain (.text text) =>
        if amount = 1 && isCountable text then pure (.text (nextText text))
        else do pure (.number (preciseNumber ((textNumber text) + amount)))
    | value => do pure (.number (preciseNumber ((← numberOfValue value) + amount)))
  match place with
  | .shared .scalar _ | .last _ => setPlace inner place after
  | _ => writeCell cell after
  pure (if isAfter then after
    else match before with
      | .plain .nothing => if amount = 1 then .number 0 else .nothing
      | before => before)

/-- The opposite of a value. That of a word has a sign in front of it. -/
def opposite (value : Held) : Actor Held := do
  match value with
  | .plain (.text text) =>
      match text.toList with
      | '-' :: rest =>
          pure (if looksNumeric text then .number (-(textNumber text))
            else .text (String.ofList ('+' :: rest)))
      | letter :: _ =>
          pure (if isNameStart letter then .text ("-" ++ text) else .number (-(textNumber text)))
      | [] => pure (.number 0)
  | value => do pure (.number (-(← numberOfValue value)))

/-! ## Ranges -/

/-- The condition of an event. A number is that of a line. -/
def eventHappens (inner : Actors) (term : Term) : Actor Bool := do
  match term with
  | .number number => do pure ((← numberOfValue (← specialValue ".")) = number)
  | term => do pure (isTrue (← inner.value term))

/-- Whether the script is between two events: the number of the round, or nothing. -/
def betweenEvents (inner : Actors) (number : Nat) (isLong : Bool) (first last : Term) :
    Actor Held := do
  let count := ((← get).memories.lookup number).getD 0
  let finish (count : Nat) : Actor Held := do
    setMemory number 0
    pure (.text (toString count ++ "E0"))
  if count = 0 then
    if ← eventHappens inner first then
      if !isLong && (← eventHappens inner last) then finish 1
      else do
        setMemory number 1
        pure (.number 1)
    else pure (.answer false)
  else if ← eventHappens inner last then finish (count + 1)
  else do
    setMemory number (count + 1)
    pure (.count (count + 1))

/-- The values from one to another. -/
def rangeValues (first last : Held) : Actor (List Held) := do
  let isText (value : Held) : Bool := match value with
    | .plain (.text text) => !looksNumeric text && !text.isEmpty
    | _ => false
  let startText ← textOf first
  let isZeros := match first with
    | .plain (.text text) => 1 < text.length && text.toList.head? = some '0'
    | _ => false
  if isText first || isZeros then do
    let lastText ← textOf last
    if startText.length ≤ lastText.length then
      pure ((textRange lastText mostRounds startText).map Held.text)
    else pure [.text startText]
  else do
    let start ← wholeOf first
    let stop ← wholeOf last
    let count := min (stop + 1 - start).toNat mostRounds
    pure ((List.range count).map fun step => .number (start + Int.ofNat step : Int))

/-! ## Attempts -/

/-- Does something, and keeps the message if it is given up. -/
def attemptBody (wanted : Option Bool) (body : Actor (List Held)) : Actor (List Held) := do
  let before ← do
    let state ← get
    pure (state.undo.length, state.attempts, state.wanted)
  let (size, attempts, ownWanted) := before
  modify fun state => { state with attempts := attempts + 1, wanted }
  let result ← tryCatch (Except.ok <$> body) fun stop => pure (Except.error stop)
  comeBack size
  modify fun state => { state with attempts, wanted := ownWanted }
  match result with
  | .ok values | .error (.gives values) => do
      setSharedValue "@" (.text "")
      pure values
  | .error (.dies value) => do
      setSharedValue "@" value
      pure (if wanted = some true then [] else [.nothing])
  | .error stop => throw stop

/-- Makes places for names that have been declared in statements that have been read later. -/
def makeSlots (count : Nat) : Actor Unit := do
  let shapes := (← get).script.slots.toList.drop count
  shapes.zipIdx.forM fun (shape, index) => do
    let address ← addCell (freshCell shape)
    modify fun state =>
      { state with
        slots := (count + index, address) :: state.slots
        introduced := state.introduced.push false }

/-- Gives the functions of a script their names, as far as they do not have them. -/
def makeFunctions (known : Nat) (slots : Option (List (Nat × Nat))) : Actor Unit := do
  let functions := (← get).script.functions
  let fresh := functions.take (functions.length - known)
  fresh.reverse.forM fun (name, body) => do
    let address ← addCell (.function name body slots)
    setShared (sharedKey .function name) (some address)

/-- Does the statements of a text. -/
def interpretText (inner : Actors) (wanted : Option Bool) (text : String)
    (names : List (String × Term)) (package : String) : Actor (List Held) := do
  let script := (← get).script
  match readInto script "(eval 1)" text package names with
  | .error refusal => do
      setSharedValue "@" (.text refusal.message)
      pure (if wanted = some true then [] else [.nothing])
  | .ok (fresh, body) => do
      let known := script.functions.length
      let slots := script.slots.size
      let early := fresh.early.drop script.early.length
      modify fun state => { state with script := fresh }
      makeSlots slots
      let own := (← get).slots
      makeFunctions known (some own)
      attemptBody wanted do
        early.forM inner.perform
        let deed := (fresh.bodies[body]?).getD .nothing
        inner.finish wanted deed

/-! ## Values -/

/-- The cells of the arguments of a function. -/
def argumentCells (inner : Actors) (arguments : Option (List Term)) : Actor (List Nat) := do
  match arguments with
  | some terms => do pure (← terms.mapM inner.cells).flatten
  | none => do
      let list ← sharedAddress .array "main::_"
      pure (← elementsAt list).toList

/-- The function that a term stands for. -/
def calledFunction (inner : Actors) (function : Term) : Actor Nat := do
  match function with
  | .reference (.shared .function name) => do
      match ← functionAddress? name with
      | some address => pure address
      | none => die ("Undefined subroutine &" ++ name ++ " called")
  | function => do functionOf (← inner.value function)

/-- The values of a term that calls something, if it is one. -/
def calledValues? (inner : Actors) (wanted : Option Bool) (term : Term) :
    Actor (Option (List Held)) := do
  match term with
  | .call name arguments => some <$> callBuiltIn inner name wanted arguments
  | .callNamed name arguments => do
      let cells ← argumentCells inner arguments
      some <$> callFull inner name cells wanted
  | .callValue function arguments => do
      let address ← calledFunction inner function
      let cells ← argumentCells inner arguments
      some <$> inner.call address cells wanted
  | .callMethod object name arguments => do
      let cells ← argumentCells inner (some arguments)
      let name ← inner.value name
      some <$> callMethod inner object name cells wanted
  | .perform body => do
      let deed := (← get).script.bodies[body]?.getD .nothing
      some <$> inner.finish wanted deed
  | .attempt body => do
      let deed := (← get).script.bodies[body]?.getD .nothing
      some <$> attemptBody wanted (inner.finish wanted deed)
  | .interpret text names package => do
      let text ← textOf (← inner.value text)
      some <$> interpretText inner wanted text names package
  | .sift way package body list => do
      let values ← siftList inner way package body list
      let isCounted := wanted != some true && ["map", "grep", "sort"].contains way
      pure (some (if isCounted then [.count values.length] else values))
  | _ => pure none

/-- The value of a term. -/
def valueOf (inner : Actors) (term : Term) : Actor Held := do
  match term with
  | .number value => pure (.number value)
  | .text text => pure (.text text)
  | .noted text value => pure (.plain (.both text value))
  | .bare word => do
      match ← functionAddress? (qualified "main" word) with
      | some address => do
          pure ((← inner.call address [] (some false)).getLast?.getD .nothing)
      | none => pure (.text word)
  | .joined parts => do
      let texts ← parts.mapM (partText inner)
      pure (.text (String.join texts))
  | .own .scalar slot => do readCell (← ownAddress slot)
  | .shared .scalar name =>
      match specialName? name with
      | some special => specialValue special
      | none => do readCell (← sharedAddress .scalar name)
  | .behind .scalar reference => do
      match ← behindAddress inner .scalar false reference with
      | some address => readCell address
      | none => pure .nothing
  | .own shape _ | .shared shape _ | .behind shape _ => countOf inner shape term
  | .element array index => elementValue inner array index
  | .member table key => memberValue inner table key
  | .elements _ _ | .members _ _ | .pairs _ _ _ | .pick _ _ => do
      pure ((← inner.values term).getLast?.getD .nothing)
  | .list terms =>
      match terms.getLast? with
      | none => pure .nothing
      | some last => do
          terms.dropLast.forM fun term => do
            let _ ← inner.value term
          inner.value last
  | .last array => do
      match ← containerOf inner .array true array with
      | some address => do
          pure (.number (Int.ofNat (← elementsAt address).size - 1 : Int))
      | none => pure (.number (-1))
  | .reference (.list terms) | .reference (.declare true terms) => do
      if term matches .reference (.declare _ _) then terms.forM declare
      let references ← terms.mapM (referenceTo inner)
      pure (references.getLast?.getD .nothing)
  | .reference term => referenceTo inner term
  | .newArray terms => do
      let values ← inner.values (.list terms)
      let cells ← values.mapM addValue
      .reference <$> addCell (.array cells.toArray)
  | .newTable terms => do
      let values ← inner.values (.list terms)
      let address ← addCell (.table [] 0)
      setTable address values
      pure (.reference address)
  | .newFunction body => do
      let slots := (← get).slots
      .reference <$> addCell (.function "main::__ANON__" body (some slots))
  | .declare _ places => do
      places.forM declare
      match places with
      | [place] => inner.value place
      | _ => pure .nothing
  | .hide _ places => do
      places.forM (hide inner)
      pure .nothing
  | .once number first later => do
      if ((← get).memories.lookup number).isSome then inner.value later
      else do
        setMemory number 1
        let _ ← if first.isListPlace then inner.values first
          else List.singleton <$> inner.value first
        inner.value later
  | .assign operator place value =>
      if place.isListPlace then
        if operator = "" then do
          let values ← inner.values value
          assignList inner place values
          pure (.count values.length)
        else do
          assignChanged inner operator place value
          inner.value place
      else assignOne inner operator place value
  | .advance amount isAfter place => advancePlace inner amount isAfter place
  | .operate operator first second => do
      let first ← inner.value first
      let second ← inner.value second
      match operator with
      | "isa" => do
          match first with
          | .reference address => do
              match ← packageOf? address with
              | some package => do
                  pure (.answer (← isKindOf mostBases package (← textOf second)))
              | none => pure (.answer false)
          | .plain _ => pure (.answer false)
      | operator => do
          match operated operator (← datumOf first) (← datumOf second) with
          | .ok result => pure result
          | .error message => die message
  | .copies list count => do
      let value ← inner.value list
      let count ← datumOf (← inner.value count)
      match operated "x" (← datumOf value) count with
      | .ok result => pure result
      | .error message => die message
  | .not term => do pure (.answer !(isTrue (← inner.value term)))
  | .minus term => do opposite (← inner.value term)
  | .complement term => do
      pure (.count (0xFFFFFFFFFFFFFFFF - bitsOf (← datumOf (← inner.value term))))
  | .both first second => do
      let value ← inner.value first
      if isTrue value then inner.value second else pure value
  | .either first second => do
      let value ← inner.value first
      if isTrue value then pure value else inner.value second
  | .exclusive first second => do
      let first ← inner.value first
      let second ← inner.value second
      pure (.answer (isTrue first != isTrue second))
  | .instead first second => do
      let value ← inner.value first
      if value.isDefined then pure value else inner.value second
  | .choice condition consequence alternative => do
      if isTrue (← inner.value condition) then inner.value consequence
      else inner.value alternative
  | .range number isLong first last => betweenEvents inner number isLong first last
  | .search isWanted text pattern flags => do
      let pattern ← patternOf true (← inner.value pattern) flags
      let isFound ← searchOnce inner (text.getD .topic) pattern flags
      pure (.answer (isFound = isWanted))
  | .replace text pattern replacement flags => do
      let pattern ← patternOf true (← inner.value pattern) flags
      replaceIn inner (text.getD .topic) pattern replacement flags
  | .translate text first second flags => translateIn inner (text.getD .topic) first second flags
  | .expression pattern flags => do
      let text ← textOf (← inner.value pattern)
      let _ ← patternOf false (.text text) flags
      .reference <$> addCell (.expression text
        (String.ofList (flags.toList.filter fun flag => "imsx".toList.contains flag)))
  | .check letter path => do
      let value ← match path with
        | .bare "_" => do pure (← get).lastPath
        | .bare name => pure (.text name)
        | path => inner.value path
      modify fun state => { state with lastPath := value }
      checkPath letter value
  | .capture command => do
      let text ← captureProgram (commandWords [← textOf (← inner.value command)])
      takeSent inner
      pure (.text text)
  | .read handle => readOne inner handle
  | .paths patterns => do nextPath (← textOf (← inner.value patterns))
  | .write way handle terms => writeTerms inner way handle terms
  | term => do
      match ← calledValues? inner (some false) term with
      | some values => pure (values.getLast?.getD .nothing)
      | none => pure .nothing

/-- The lines of a text, each with its end. -/
def linesWithEnds (text : String) : List Held :=
  let (lines, isEnded) := linesOf text
  if text.isEmpty then []
  else lines.mapIdx fun index line =>
    .text (if index + 1 < lines.length || isEnded then line ++ "\n" else line)

/-- Keys or indices, each with its value. -/
def pairValues (inner : Actors) (isTable : Bool) (container keys : Term) : Actor (List Held) := do
  let keys ← inner.values keys
  match ← containerOf inner (if isTable then .table else .array) true container with
  | none => pure []
  | some address => do
      let rows ← keys.mapM fun key => do
        let cell ← if isTable then memberCell? address (← textOf key)
          else elementCell? address (← wholeOf key)
        match cell with
        | some cell => do pure [key, ← readCell cell]
        | none => pure [key, .nothing]
      pure rows.flatten

/-- The values of a term where a list is wanted. -/
def valuesOf (inner : Actors) (term : Term) : Actor (List Held) := do
  match term with
  | .own .array _ | .shared .array _ | .behind .array _ => do
      match ← containerOf inner .array false term with
      | some address => listValues address
      | none => pure []
  | .own .table _ | .shared .table _ | .behind .table _ => do
      match ← containerOf inner .table false term with
      | some address => tableValues address
      | none => pure []
  | .list terms => do pure (← terms.mapM inner.values).flatten
  | .elements array indices => do
      let indices ← inner.values indices
      match ← containerOf inner .array true array with
      | none => pure []
      | some address => indices.mapM fun index => do
          match ← elementCell? address (← wholeOf index) with
          | some cell => readCell cell
          | none => pure .nothing
  | .members table keys => do
      let keys ← inner.values keys
      match ← containerOf inner .table true table with
      | none => pure []
      | some address => keys.mapM fun key => do
          match ← memberCell? address (← textOf key) with
          | some cell => readCell cell
          | none => pure .nothing
  | .pairs isTable container keys => pairValues inner isTable container keys
  | .pick list indices => do
      let values ← inner.values list
      let indices ← inner.values indices
      if values.isEmpty then pure []
      else indices.mapM fun index => do
        pure (((indexIn values.length (← wholeOf index)).bind fun place => values[place]?).getD
          .nothing)
  | .reference (.list terms) => terms.mapM (referenceTo inner)
  | .reference (.declare true places) => do
      places.forM declare
      places.mapM (referenceTo inner)
  | .declare isList places => do
      places.forM declare
      pure (if isList then places.map fun _ => .nothing
        else if isPluralTerm (places.headD .topic) then [] else [.nothing])
  | .once _ first later => do
      let _ ← inner.value term
      if first.isListPlace then inner.values later else List.singleton <$> inner.value later
  | .assign "" place value =>
      if place.isListPlace then do
        let values ← inner.values value
        assignList inner place values
        match place with
        | .list places => inner.values (.list (places.filter fun place =>
            !(place matches .list [] | .declare _ _)))
        | _ => pure values
      else List.singleton <$> inner.value term
  | .copies list count => do
      let values ← inner.values list
      let count := (← wholeOf (← inner.value count)).toNat
      pure (List.replicate (min count (greatestIndex / (values.length + 1))) values).flatten
  | .both first second => do
      let value ← inner.value first
      if isTrue value then inner.values second else pure [value]
  | .either first second => do
      let value ← inner.value first
      if isTrue value then pure [value] else inner.values second
  | .instead first second => do
      let value ← inner.value first
      if value.isDefined then pure [value] else inner.values second
  | .choice condition consequence alternative => do
      if isTrue (← inner.value condition) then inner.values consequence
      else inner.values alternative
  | .range _ _ first last => do
      let first ← inner.value first
      rangeValues first (← inner.value last)
  | .search true text pattern flags => do
      let pattern ← patternOf true (← inner.value pattern) flags
      searchAll inner (text.getD .topic) pattern flags
  | .capture command => do
      let text ← captureProgram (commandWords [← textOf (← inner.value command)])
      takeSent inner
      pure (linesWithEnds text)
  | .read handle => readAllLines inner handle
  | .paths patterns => do
      let pattern ← textOf (← inner.value patterns)
      pure ((← act (pathsOf pattern)).map Held.text)
  | .bare word => do
      match ← functionAddress? (qualified "main" word) with
      | some address => inner.call address [] (some true)
      | none => pure [.text word]
  | term => do
      match ← calledValues? inner (some true) term with
      | some values => pure values
      | none => List.singleton <$> inner.value term

end StaticMulticast.Host.Utility.Statement
