import StaticMulticast.Host.Shell.Field
import StaticMulticast.Host.Utility.Statement.Call
import StaticMulticast.Host.Utility.Statement.Container
import StaticMulticast.Host.Utility.Statement.Held

/-!
# Built-in functions of scripts of statements

Functions that take their arguments as terms, since they need the places that those stand for, or
ask for one value where others ask for a list.
-/

namespace StaticMulticast.Host.Utility.Statement

open Action

/-! ## Patterns of paths -/

/-- The paths that a pattern stands for. -/
def pathsOf (pattern : String) : Action (List String) := do
  let home := ((← environment).lookup "HOME").getD ""
  let matching : Shell.Matching :=
    { files := ← files, working := (← process).working, isPlain := true }
  let words := (wordsOf pattern.toList).flatMap fun word =>
    (Shell.braceWords (word.length + 1) (Shell.bare word)).map fun pieces =>
      String.ofList (pieces.filterMap fun piece => match piece with
        | .letter letter _ => some letter
        | _ => none)
  pure (words.flatMap fun word =>
    let word := match word.toList with
      | '~' :: '/' :: rest => home ++ "/" ++ String.ofList rest
      | ['~'] => home
      | _ => word
    let field := word.toList.map fun letter => (letter, false)
    if Text.Pattern.isOpen false field then matching.paths "" (Shell.slashPieces field)
    else [word])

/-- The next path that a pattern stands for, or nothing once after the last one. -/
def nextPath (pattern : String) : Actor Held := do
  let key := "paths " ++ pattern
  match (← get).shared.lookup key with
  | some address => do
      match ← cellAt address with
      | .array elements =>
          match elements[0]? with
          | some cell => do
              setCell address (.array (elements.extract 1 elements.size))
              readCell cell
          | none => do
              setShared key none
              pure .nothing
      | _ => pure .nothing
  | none => do
      match ← act (pathsOf pattern) with
      | [] => pure .nothing
      | first :: rest => do
          let cells ← rest.mapM fun path => addValue (.text path)
          setShared key (some (← addCell (.array cells.toArray)))
          pure (.text first)

/-! ## Open files -/

/-- The address of the open file that a place is to stand for. -/
def handlePlace (inner : Actors) (place : Term) : Actor Nat := do
  match place with
  | .bare name | .text name => namedHandle name
  | .hide _ [.bare name] => namedHandle name
  | place => do
      let cell ← inner.cell place
      let value ← readCell cell
      match value with
      | .plain .nothing => do
          let address ← addHandle { }
          writeCell cell (.reference address)
          pure address
      | value => do
          match ← handleOf value with
          | some address => pure address
          | none => die "Bad filehandle"

/-- How a file is opened by a text of its own, without the code that is named behind it. -/
def plainMode (mode : String) : String :=
  String.ofList ((mode.toList.filter fun letter => !letter.isWhitespace).takeWhile (· != ':'))

/-- Opens a file whose text is the value of a place. -/
def openText (address cell : Nat) (mode : String) : Actor Held := do
  let text ← textOf (← readCell cell)
  let _ ← closeHandle address
  if mode = "<" then
    setCell address (.handle { held := text.toList })
  else do
    if mode = ">" then writeCell cell (.text "")
    setCell address (.handle { memory := some cell, isWritten := true })
  pure (.number 1)

/-- Opens a file in some way. -/
def openBy (address : Nat) (mode : String) (rest : List Held) : Actor Held := do
  let first := rest.headD .nothing
  let handle ← handleAt address
  if handle.command.isSome || handle.status.isSome then
    let _ ← closeHandle address
  match mode with
  | "-|" => do openCommand address (commandWords (← rest.mapM textOf))
  | "|-" => do openFed address (commandWords (← rest.mapM textOf))
  | "<&" | "<&=" => openLike address first false
  | ">&" | ">&=" | ">>&" | "+<&" | "+>&" => openLike address first true
  | mode => do
      match first with
      | .reference cell => do
          match ← cellAt cell with
          | .scalar _ => openText address cell mode
          | _ => do openFile address mode (← textOf first)
      | .plain .nothing => do
          let path := "/tmp/PerlIO_" ++ (← drawnName)
          let opened ← openFile address "+>" path
          let _ ← act (removeFile path)
          pure opened
      | .plain _ => do openFile address mode (← textOf first)

/-- Opens a file. -/
def openTerms (inner : Actors) (arguments : List Term) : Actor Held := do
  match arguments with
  | [] => die "Not enough arguments for open"
  | place :: rest => do
      let values ← inner.values (.list rest)
      let address ← handlePlace inner place
      match values with
      | [] => failed .missing
      | [spec] => do
          let (mode, path) := modeOf (← textOf spec)
          match mode, path with
          | "<", "-" => openLike address (.text "0") false
          | ">", "-" => openLike address (.text "1") true
          | "-|", command | "|-", command => openBy address mode [.text command]
          | mode, path => openBy address mode [.text path]
      | mode :: rest => do openBy address (plainMode (← textOf mode)) rest

/-- Opens a file with the flags of the system. -/
def openFlags (inner : Actors) (place : Term) (path : String) (flags : Nat) (mode : Option Nat) :
    Actor Held := do
  let address ← handlePlace inner place
  let isThere := (← act (find? true path)).isSome
  let makes := flags &&& 0x40 != 0
  if isThere && makes && flags &&& 0x80 != 0 then failed .present
  else if !isThere && !makes then failed .missing
  else do
    let way := flags % 4
    let opened ← openFile address (if way = 0 && isThere then "<"
      else if flags &&& 0x400 != 0 then ">>"
      else if flags &&& 0x200 != 0 || !isThere then (if way = 2 then "+>" else ">")
      else "+<") path
    if !isThere && isTrue opened then do
      let mask := (← act process).mask
      match mode with
      | some mode => do
          let _ ← act (changeNode path fun node =>
            { node with mode := mode &&& (0x1FF - (mask &&& 0x1FF)) })
      | none => pure ()
    pure opened

/-- Makes a pipe between two open files. -/
def openPipe (inner : Actors) (reading writing : Term) : Actor Held := do
  let source ← handlePlace inner reading
  let target ← handlePlace inner writing
  let (first, second) ← act makePipe
  let _ ← takeFile source first false
  takeFile target second true

/-- Opens a directory. -/
def openDirectory (inner : Actors) (place : Term) (path : String) : Actor Held := do
  match ← act (namesIn path) with
  | .error fault => failed fault
  | .ok names => do
      let address ← handlePlace inner place
      setCell address (.handle { names, allNames := names, isDirectory := true })
      pure (.number 1)

/-- Changes the open file that a term stands for, if there is one. -/
def withHandle (inner : Actors) (term : Term) (body : Nat → Actor Held) : Actor Held := do
  match ← handleOfTerm inner term with
  | some address => body address
  | none => failed .badDescriptor

/-- The value of a function of open files, if it is one. -/
def handleValue? (inner : Actors) (name : String) (arguments : List Term) :
    Actor (Option Held) := do
  match name, arguments with
  | "open", _ => some <$> openTerms inner arguments
  | "close", [term] => some <$> withHandle inner term closeHandle
  | "close", [] => do
      let address := (← get).selected
      some <$> closeHandle address
  | "binmode", _ => pure (some (.number 1))
  | "fileno", [term] => some <$> withHandle inner term fun address => do
      pure (((← handleAt address).descriptor.map Held.count).getD .nothing)
  | "eof", _ => do pure (some (.answer (← isAtFileEnd inner arguments.head?)))
  | "seek", [term, place, way] | "sysseek", [term, place, way] => do
      let place ← wholeOf (← inner.value place)
      let way ← wholeOf (← inner.value way)
      some <$> withHandle inner term fun address => moveTo address place way.toNat
  | "tell", _ => do
      let address ← match arguments with
        | [term] => handleOfTerm inner term
        | _ => do pure (← get).lastRead
      match address with
      | some address => do
          pure (some (((← placeIn address).map Held.count).getD (.number (-1))))
      | none => pure (some (.number (-1)))
  | "select", [] => do pure (some (.reference (← get).selected))
  | "select", [term] => do
      let before := (← get).selected
      match ← handleOfTerm inner term with
      | some address => modify fun state => { state with selected := address }
      | none => pure ()
      pure (some (.reference before))
  | "select", [_, _, _, time] => do
      let duration ← durationOf (← inner.value time)
      let _ ← waitFor inner duration
      pure (some (.number 0))
  | "opendir", [place, path] => do
      some <$> (do openDirectory inner place (← textOf (← inner.value path)))
  | "closedir", [term] => some <$> withHandle inner term fun address => do
      setCell address (.handle { })
      pure (.number 1)
  | "rewinddir", [term] => some <$> withHandle inner term fun address => do
      modifyHandle address fun handle => { handle with names := handle.allNames }
      pure (.number 1)
  | "telldir", _ | "seekdir", _ => pure (some (.number 0))
  | "pipe", [reading, writing] => some <$> openPipe inner reading writing
  | "read", handle :: place :: count :: rest | "sysread", handle :: place :: count :: rest =>
      some <$> readCharacters inner handle place count rest.head?
  | "getc", _ => do
      some <$> withHandle inner (arguments.headD (.bare "STDIN")) fun address => do
        let text ← takeCharacters address 1
        pure (if text.isEmpty then .nothing else .text text)
  | "syswrite", term :: text :: rest => do
      let text ← textOf (← inner.value text)
      let numbers ← rest.mapM fun term => do wholeOf (← inner.value term)
      let text := match numbers with
        | [] => text
        | [count] => String.ofList (text.toList.take count.toNat)
        | count :: start :: _ => String.ofList ((text.toList.drop start.toNat).take count.toNat)
      some <$> withHandle inner term fun address => do
        let written ← emit address text
        let _ ← flushHandle address
        pure (if isTrue written then .count text.length else .nothing)
  | "sysopen", place :: path :: flags :: rest => do
      let path ← textOf (← inner.value path)
      let flags ← wholeOf (← inner.value flags)
      let mode ← rest.head?.mapM fun mode => do pure (← wholeOf (← inner.value mode)).toNat
      some <$> openFlags inner place path flags.toNat mode
  | "truncate", [.bare name, size] => do
      let size ← inner.value size
      let address ← namedHandle name
      match ← functionValues? "truncate" none [.reference address, size] with
      | some values => pure values.head?
      | none => pure none
  | _, _ => pure none

/-! ## Places -/

/-- The places that a term stands for, after it has been evaluated. -/
def cellsAfter (inner : Actors) (term : Term) : Actor (List Nat) := do
  match term with
  | .assign _ place _ | .list [.assign _ place _] =>
      if place.isListPlace then do
        let _ ← inner.values term
        let places := match place with
          | .declare _ places | .hide _ places | .list places => places
          | place => [place]
        pure (← places.mapM inner.cells).flatten
      else List.singleton <$> inner.cell term
  | .own .table _ | .shared .table _ | .behind .table _ => inner.cells (.call "values" [term])
  | term => inner.cells term

/-- Takes the ends of lines off the values of places, and gives their number. -/
def chompCells (cells : List Nat) : Actor Held := do
  let ending ← lineEnding
  let counts ← cells.mapM fun cell => do
    let value ← readCell cell
    let letters := (← textOf value).toList
    let size := match ending with
      | .text ending => if ending.isSuffixOf letters then ending.length else 0
      | .paragraph => (letters.reverse.takeWhile (· == '\n')).length
      | _ => 0
    if value.isDefined && size != 0 then
      writeCell cell (.text (String.ofList (letters.take (letters.length - size))))
    pure size
  pure (.count (counts.foldl (· + ·) 0))

/-- Takes the last letters off the values of places, and gives the last of them. -/
def chopCells (cells : List Nat) : Actor Held := do
  let taken ← cells.mapM fun cell => do
    let letters := (← textOf (← readCell cell)).toList
    writeCell cell (.text (String.ofList letters.dropLast))
    pure (String.ofList letters.getLast?.toList)
  pure (.text (taken.getLast?.getD ""))

/-- Makes the functions that give constants. -/
def makeConstants (inner : Actors) (package : String) (terms : List Term) : Actor Unit := do
  let rows ← match terms with
    | [.newTable members] => do
        let values ← inner.values (.list members)
        let rows ← rowsOf values []
        pure (rows.map fun (name, value) => (name, [value]))
    | name :: rest => do
        let name ← textOf (← inner.value name)
        pure [(name, ← inner.values (.list rest))]
    | [] => pure []
  rows.forM fun (name, values) => do
    let full := package ++ "::" ++ name
    let isSingle := values.length = 1
    let shape : Shape := if isSingle then .scalar else .array
    let hidden := "constant " ++ full
    match values, isSingle with
    | [value], _ => do writeCell (← sharedAddress .scalar hidden) value
    | values, _ => do setList (← sharedAddress .array hidden) values
    match (← get).script.functions.lookup full with
    | some body =>
        modify fun state =>
          { state with
            script := { state.script with
              bodies := state.script.bodies.setIfInBounds body
                (.evaluate 0 (.shared shape hidden)) } }
    | none => pure ()

/-! ## Functions -/

/-- The value of a function that asks for the places of its arguments, if it is one. -/
def placeValue? (inner : Actors) (name : String) (arguments : List Term) :
    Actor (Option Held) := do
  match name, arguments with
  | "shift", [term] => some <$> takeOff inner true term
  | "pop", [term] => some <$> takeOff inner false term
  | "push", term :: rest => do
      let values ← inner.values (.list rest)
      some <$> putOn inner false term values
  | "unshift", term :: rest => do
      let values ← inner.values (.list rest)
      some <$> putOn inner true term values
  | "defined", [term] => do pure (some (.answer (← isSet inner term)))
  | "exists", [term] => do pure (some (.answer (← isThere inner term)))
  | "scalar", [term] => some <$> inner.value term
  | "chomp", terms => do
      let cells ← terms.mapM (cellsAfter inner)
      some <$> chompCells cells.flatten
  | "chop", terms => do
      let cells ← terms.mapM (cellsAfter inner)
      some <$> chopCells cells.flatten
  | "undef", [] => pure (some .nothing)
  | "undef", [term] => do
      undefine inner term
      pure (some .nothing)
  | "pos", [term] => do
      let address ← inner.cell term
      pure (some (((← positionOf address).map fun row => .count row.1).getD .nothing))
  | "substr", [text, start, length, replacement] => do
      let start ← wholeOf (← inner.value start)
      let length ← inner.value length
      let length ← if length.isDefined then some <$> wholeOf length else pure none
      let replacement ← textOf (← inner.value replacement)
      some <$> replacePart inner text start length replacement
  | "constant", .text package :: terms => do
      makeConstants inner package terms
      pure (some .nothing)
  | "require", [.bare name] | "require", [.text name] => do
      if (modules.any fun own => own.name = name || modulePath own.name = name) ||
          pragmas.contains name then pure (some (.number 1))
      else if (← get).shared.any fun row => (name ++ "::").toList.isPrefixOf row.1.toList.tail then
        pure (some (.number 1))
      else
        die ("Can't locate " ++ modulePath name ++ " in @INC (you may need to install the " ++ name ++
          " module) (@INC entries checked: /etc/perl)")
  | "require", [.number _] => pure (some (.number 1))
  | _, _ => pure none

/-- The values of a function that gives a list and asks for the places of its arguments, if it is
one. -/
def placeValues? (inner : Actors) (name : String) (wanted : Option Bool) (arguments : List Term) :
    Actor (Option (List Held)) := do
  let isList := wanted = some true
  let counted (values : List Held) : List Held := if isList then values else [.count values.length]
  match name, arguments with
  | "keys", [term] => do pure (some (counted (← keysOf (← containerAt inner term))))
  | "values", [term] => do pure (some (counted (← valuesIn (← containerAt inner term))))
  | "each", [term] => do
      let row ← nextMember (← containerAt inner term)
      pure (some (if isList then row else [row.headD .nothing]))
  | "delete", [term] => some <$> delete inner term
  | "splice", term :: rest => do
      let bounds ← (rest.take 2).mapM inner.value
      let values ← inner.values (.list (rest.drop 2))
      let taken ← spliceList inner term bounds values
      pure (some (if isList then taken else [taken.getLast?.getD .nothing]))
  | "split", terms => do pure (some (counted (← splitText inner terms)))
  | "reverse", terms => do
      if isList then do pure (some (← inner.values (.list terms)).reverse)
      else do
        let terms := if terms.isEmpty then [.topic] else terms
        let texts ← (← inner.values (.list terms)).mapM textOf
        pure (some [.text (String.ofList (String.join texts).toList.reverse)])
  | "return", terms => do
      let ownWanted := (← get).wanted
      let values ← match ownWanted, terms with
        | some true, terms => inner.values (.list terms)
        | _, [] => pure [.nothing]
        | _, [term] => List.singleton <$> inner.value term
        | _, terms => List.singleton <$> inner.value (.list terms)
      throw (.gives values)
  | "last", [.text label] => throw (.leaves label)
  | "next", [.text label] => throw (.repeats label)
  | "redo", [.text label] => throw (.anew label)
  | "wantarray", _ => do
      pure (some [match (← get).wanted with
        | none => .nothing
        | some isList => .answer isList])
  | "exit", terms => do
      let status ← match terms with
        | term :: _ => do wholeOf (← inner.value term)
        | [] => pure 0
      throw (.exits status)
  | "die", terms => do some <$> dieOf inner (← inner.values (.list terms))
  | "warn", terms => do
      some <$> (List.singleton <$> warnOf inner (← inner.values (.list terms)))
  | "unpack", template :: rest => do
      let template ← textOf (← inner.value template)
      let text ← textOf (← inner.value (rest.headD .topic))
      let values := unpackedBy template text.toList
      pure (some (if isList then values else [values.headD .nothing]))
  | "pack", terms => do
      let values ← inner.values (.list terms)
      let template := (← textOf (values.headD .nothing)).toList
      let values ← values.tail.mapM datumOf
      let letters := packed (templateParts (template.length + 1) template) values
      pure (some [.text (String.ofList letters)])
  | "readline", [term] => do
      if isList then some <$> readAllLines inner term
      else some <$> (List.singleton <$> readOne inner term)
  | "readdir", [term] => do
      match ← handleOfTerm inner term with
      | none => pure (some [])
      | some address => do
          if !(← handleAt address).isDirectory then pure (some (if isList then [] else [.nothing]))
          else if isList then some <$> allLines address mostRounds []
          else do
            let name ← nextLine address
            pure (some [(name.map Held.text).getD .nothing])
  | "glob", [term] => do
      let pattern ← textOf (← inner.value term)
      if isList then do pure (some ((← act (pathsOf pattern)).map Held.text))
      else some <$> (List.singleton <$> nextPath pattern)
  | "stat", [.bare name] | "lstat", [.bare name] => do
      let value ← if name = "_" then do pure (← get).lastPath
        else do pure (.reference (← namedHandle name))
      listValues? "stat" wanted [value]
  | "readpipe", [term] => inner.values (.capture term) >>= fun values => pure (some values)
  | "tie", _ | "untie", _ | "tied", _ | "formline", _ | "dump", _ => pure (some [.nothing])
  | _, _ => pure none

/-- The values of the arguments of a function of values. -/
def argumentValues (inner : Actors) (name : String) (arguments : List Term) : Actor (List Held) := do
  if singleFunctions.contains name || unaryFunctions.contains name then arguments.mapM inner.value
  else inner.values (.list arguments)

/-- Calls a built-in function. -/
def callBuiltIn (inner : Actors) (name : String) (wanted : Option Bool) (arguments : List Term) :
    Actor (List Held) := do
  match ← placeValue? inner name arguments with
  | some value => pure [value]
  | none => do
      match ← placeValues? inner name wanted arguments with
      | some values => pure values
      | none => do
          match ← handleValue? inner name arguments with
          | some value => pure [value]
          | none => do
              let values ← argumentValues inner name arguments
              match ← processValue? inner name values with
              | some value => pure [value]
              | none => do
                  if name = "stat" || name = "lstat" then
                    modify fun state => { state with lastPath := values.headD .nothing }
                  match ← functionValues? name wanted values with
                  | some values => pure values
                  | none => die ("Undefined subroutine &main::" ++ name ++ " called")

end StaticMulticast.Host.Utility.Statement
