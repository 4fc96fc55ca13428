import StaticMulticast.Host.Utility.Statement.Handle

/-!
# Places of scripts of statements

What a term stands for has an address, where a value can be put. A place in a list or a table that
is not there is made, and so is what an empty place should lead to.
-/

namespace StaticMulticast.Host.Utility.Statement

open Action

/-- What carries out what is nested in something else. -/
structure Actors where
  /-- The value of a term. -/
  value : Term → Actor Held
  /-- The values of a term where a list is wanted. -/
  values : Term → Actor (List Held)
  /-- The address of what a term stands for. -/
  cell : Term → Actor Nat
  /-- The addresses of all that a term stands for. -/
  cells : Term → Actor (List Nat)
  perform : Deed → Actor Unit
  /-- Does a statement, and gives its values. It is told whether a list is wanted. -/
  finish : Option Bool → Deed → Actor (List Held)
  /-- Calls the function at an address with arguments. -/
  call : Nat → List Nat → Option Bool → Actor (List Held)

/-- What carries out nothing, since it would be nested too deeply. -/
def Actors.nothing : Actors :=
  ⟨fun _ => die "Deep recursion", fun _ => die "Deep recursion", fun _ => die "Deep recursion",
    fun _ => die "Deep recursion", fun _ => die "Deep recursion", fun _ _ => die "Deep recursion",
    fun _ _ _ => die "Deep recursion"⟩

/-! ## Names with a meaning -/

/-- The name behind that of the first package, if it is one with a meaning of its own. -/
def specialName? (name : String) : Option String :=
  match name.toList with
  | 'm' :: 'a' :: 'i' :: 'n' :: ':' :: ':' :: rest =>
      let isMeant := match rest with
        | [letter] => (letter.isDigit && letter != '0') || "&'+!$].<>()".toList.contains letter ||
            letter.toNat = 0x60
        | '^' :: _ => true
        | letter :: _ => letter.isDigit
        | [] => false
      if isMeant then some (String.ofList rest) else none
  | _ => none

/-- The value of a name with a meaning of its own. -/
def specialValue (name : String) : Actor Held := do
  let state ← get
  let told (text : Option String) : Held :=
    match text with
    | some text => .text text
    | none => .nothing
  match name with
  | "&" => pure (told (state.finding.bind fun finding => finding.group? 0))
  | "'" => pure (told (state.finding.map Finding.after))
  | "+" =>
      let groups := (state.finding.map Finding.groups).getD []
      pure (told ((groups.filterMap id).getLast?))
  | "!" =>
      pure (if state.fault = 0 then .plain (.both "" 0)
        else .plain (.both (Fault.description (Int.ofNat state.fault)) state.fault))
  | "$" => do pure (.count (← act process).number)
  | "]" => pure (.plain (.both "5.038002" (5038002 / 1000000)))
  | "." =>
      match state.lastRead with
      | some address => do
          let lines := (← handleAt address).lines
          pure (.count lines)
      | none => sharedValue "."
  | "<" | ">" => pure (.number 0)
  | "(" | ")" => pure (.plain (.both "0 0" 0))
  | "^O" => pure (.text "linux")
  | "^T" => do pure (.number (Int.fdiv Computer.beginning 1000000))
  | "^V" => pure (.text "v5.38.2")
  | "^X" => pure (.text "/usr/bin/perl")
  | "^W" => pure (.number 0)
  | "^S" => pure (.count (if state.attempts = 0 then 0 else 1))
  | "^N" =>
      let groups := (state.finding.map Finding.groups).getD []
      pure (told ((groups.filterMap id).getLast?))
  | _ =>
      match name.toNat? with
      | some number => pure (told (state.finding.bind fun finding => finding.group? number))
      | none => pure (told (state.finding.map Finding.before))

/-- Puts a value at a name that has a meaning of its own when it is set. -/
def noteValue (name : String) (value : Held) : Actor Unit := do
  match name with
  | "main::!" => do
      let number ← wholeOf value
      modify fun state => { state with fault := number.toNat }
  | "main::|" => do
      let address := (← get).selected
      let flushes := isTrue value
      modifyHandle address fun handle => { handle with flushes }
      if flushes then
        let _ ← flushHandle address
  | "main::." => do
      let number ← wholeOf value
      match (← get).lastRead with
      | some address => modifyHandle address fun handle => { handle with lines := number.toNat }
      | none => pure ()
  | _ => pure ()

/-- Fills a list of all of the script that tells about the last match. -/
def fillFound (isStart : Bool) (address : Nat) : Actor Unit := do
  match (← get).finding with
  | none => pure ()
  | some finding => do
      let bounds := (List.range (finding.pattern.groups + 1)).map finding.bounds?
      let cells ← bounds.mapM fun bounds => addValue (match bounds with
        | some (start, stop) => .count (if isStart then start else stop)
        | none => .nothing)
      setCell address (.array cells.toArray)

/-- Remembers a match. -/
def remember (finding : Finding) : Actor Unit := do
  modify fun state => { state with finding := some finding, lastPattern := some finding.pattern }
  if !finding.pattern.names.isEmpty then
    let table ← sharedAddress .table "main::+"
    let rows := finding.pattern.names.filterMap fun (name, number) =>
      (finding.group? number).map fun text => (name, text)
    let rows := rows.foldl (fun rows (name, text) =>
      if (rows.lookup name).isSome then rows else rows ++ [(name, text)]) []
    let members ← rows.mapM fun (name, text) => do pure (name, ← addValue (.text text))
    setCell table (.table members 0)

/-! ## Lists and tables -/

/-- The word for a shape in messages. -/
def shapeWord : Shape → String
  | .scalar => "a SCALAR"
  | .array => "an ARRAY"
  | .table => "a HASH"
  | .function => "a CODE"

/-- What is at an address has a shape. -/
def hasShape (shape : Shape) (address : Nat) : Actor Bool := do
  pure (match shape, ← cellAt address with
    | .scalar, .scalar _ | .array, .array _ | .table, .table _ _ => true
    | .function, .function _ _ _ | .function, .tool _ => true
    | .scalar, .handle _ => true
    | _, _ => false)

/-- The term stands for a place that has an address. -/
def isAddressed : Term → Bool
  | .own .scalar _ | .element _ _ | .member _ _ | .behind .scalar _ | .declare _ _ => true
  | .shared .scalar name => (specialName? name).isNone
  | _ => false

/-- The address behind a reference. What should be there is made, if that is wanted. -/
def behindAddress (inner : Actors) (shape : Shape) (creates : Bool) (reference : Term) :
    Actor (Option Nat) := do
  let cell ← if creates && isAddressed reference then some <$> inner.cell reference else pure none
  let value ← match cell with
    | some cell => readCell cell
    | none => inner.value reference
  match value with
  | .reference address => do
      if ← hasShape shape address then pure (some address)
      else if shape = .scalar then pure (some address)
      else die ("Not " ++ shapeWord shape ++ " reference")
  | .plain .nothing => do
      match cell with
      | some cell => do
          let address ← addCell (freshCell shape)
          writeCell cell (.reference address)
          pure (some address)
      | none =>
          if creates then some <$> addCell (freshCell shape)
          else if (← get).script.isStrict then
            die ("Can't use an undefined value as " ++ shapeWord shape ++ " reference")
          else pure none
  | .plain value =>
      let text := datumText value
      if (← get).script.isStrict then
        die ("Can't use string (\"" ++ text ++ "\") as " ++ shapeWord shape ++
          " ref while \"strict refs\" in use")
      else some <$> sharedAddress shape (qualified "main" text)

/-- Declares what a term stands for anew. -/
def declare (place : Term) : Actor Unit := do
  match place with
  | .own shape slot => do
      let state ← get
      if !(state.introduced[slot]?.getD false) then
        modify fun state => { state with introduced := state.introduced.setIfInBounds slot true }
      else if state.calls.isEmpty && !state.script.kept.contains slot then do
        let address ← ownAddress slot
        setCell address (freshCell shape)
        if !state.positions.isEmpty then
          modify fun state =>
            { state with positions := state.positions.filter fun row => row.1 != address }
      else do
        let address ← addCell (freshCell shape)
        modify fun state =>
          { state with
            slots := (slot, address) :: state.slots.filter fun row => row.1 != slot }
  | _ => pure ()

/-- The address of the list or the table that a term stands for. -/
def containerOf (inner : Actors) (shape : Shape) (creates : Bool) (term : Term) :
    Actor (Option Nat) := do
  match term with
  | .own _ slot => some <$> ownAddress slot
  | .shared .array "main::-" | .shared .array "main::+" => do
      let address ← addCell (.array #[])
      fillFound (term matches .shared .array "main::-") address
      pure (some address)
  | .shared _ name => some <$> sharedAddress shape name
  | .behind _ reference => behindAddress inner shape creates reference
  | _ => some <$> inner.cell term

/-- The address of the list that a term stands for. It is made if it is not there. -/
def arrayAddress (inner : Actors) (term : Term) : Actor Nat := do
  match ← containerOf inner .array true term with
  | some address => pure address
  | none => addCell (.array #[])

/-- The address of the table that a term stands for. It is made if it is not there. -/
def tableAddress (inner : Actors) (term : Term) : Actor Nat := do
  match ← containerOf inner .table true term with
  | some address => pure address
  | none => addCell (.table [] 0)

/-- The place in a list that an index means. A negative one counts from the end. -/
def indexIn (size : Nat) (index : Int) : Option Nat :=
  let place := if index < 0 then index + Int.ofNat size else index
  if place < 0 then none else some place.toNat

/-- The address of an element of a list, if it is there. -/
def elementCell? (array : Nat) (index : Int) : Actor (Option Nat) := do
  let elements ← elementsAt array
  pure ((indexIn elements.size index).bind fun place => elements[place]?)

/-- Makes a list longer. -/
def extend (array size : Nat) : Actor Unit := do
  let elements ← elementsAt array
  let fresh ← (List.range (size - elements.size)).mapM fun _ => addValue .nothing
  setCell array (.array (elements ++ fresh.toArray))

/-- The address of an element of a list, which is made if it is not there. -/
def elementCell (array : Nat) (index : Int) : Actor Nat := do
  match ← elementCell? array index with
  | some cell => pure cell
  | none => do
      match (indexIn (← elementsAt array).size index).filter (· ≤ greatestIndex) with
      | none => die ("Modification of non-creatable array value attempted, subscript " ++
          toString index)
      | some place => do
          extend array (place + 1)
          pure ((← elementsAt array)[place]?.getD 0)

/-- The address of a member of a table, if it is there. -/
def memberCell? (table : Nat) (key : String) : Actor (Option Nat) := do
  pure ((← membersAt table).lookup key)

/-- The address of a member of a table, which is made if it is not there. -/
def memberCell (table : Nat) (key : String) : Actor Nat := do
  match ← memberCell? table key with
  | some cell => pure cell
  | none => do
      let cell ← addValue .nothing
      match ← cellAt table with
      | .table members next => setCell table (.table (members ++ [(key, cell)]) next)
      | _ => pure ()
      pure cell

/-- The key that a term stands for. -/
def keyOf (inner : Actors) (term : Term) : Actor String := do
  match term with
  | .text key => pure key
  | _ => do textOf (← inner.value term)

/-- The values of a list. -/
def listValues (address : Nat) : Actor (List Held) := do
  (← elementsAt address).toList.mapM readCell

/-- The keys and values of a table in turn. -/
def tableValues (address : Nat) : Actor (List Held) := do
  let rows ← (← membersAt address).mapM fun (key, cell) => do pure [Held.text key, ← readCell cell]
  pure rows.flatten

/-- Sets all values of a list. -/
def setList (address : Nat) (values : List Held) : Actor Unit := do
  let cells ← values.mapM addValue
  setCell address (.array cells.toArray)

/-- The rows that keys and values in turn are. -/
def rowsOf : List Held → List (String × Held) → Actor (List (String × Held))
  | key :: value :: rest, rows => do rowsOf rest (withMember (← textOf key) value rows)
  | [key], rows => do pure (withMember (← textOf key) .nothing rows)
  | [], rows => pure rows

/-- Sets all members of a table. -/
def setTable (address : Nat) (values : List Held) : Actor Unit := do
  let rows ← rowsOf values []
  let members ← rows.mapM fun (key, value) => do pure (key, ← addValue value)
  setCell address (.table members 0)

/-! ## Addresses of terms -/

/-- Hides what a term stands for until what is around ends. -/
def hide (inner : Actors) (place : Term) : Actor Unit := do
  match place with
  | .shared shape name => do
      let address ← addCell (freshCell shape)
      hideShared (sharedKey shape name) address
  | .member table key => do
      let table ← tableAddress inner table
      let key ← keyOf inner key
      let before ← memberCell? table key
      modify fun state => { state with undo := .member table key before :: state.undo }
      setMember table key (← addValue .nothing)
  | .element array index => do
      let array ← arrayAddress inner array
      let index ← wholeOf (← inner.value index)
      let cell ← elementCell array index
      match indexIn (← elementsAt array).size index with
      | some place => do
          modify fun state => { state with undo := .element array place cell :: state.undo }
          let fresh ← addValue .nothing
          setCell array (.array ((← elementsAt array).setIfInBounds place fresh))
      | none => pure ()
  | _ => pure ()

/-- The place to which a term assigns, without what is declared. -/
def assignedPlace : Term → Term
  | .declare _ [place] | .hide _ [place] | .list [place] => place
  | .once _ _ later => later
  | place => place

/-- The address of what a term stands for. What has none gets one for its value. -/
def cellOf (inner : Actors) (term : Term) : Actor Nat := do
  match term with
  | .own _ slot => ownAddress slot
  | .shared .scalar name =>
      match specialName? name with
      | some special => do addValue (← specialValue special)
      | none => sharedAddress .scalar name
  | .shared shape name => sharedAddress shape name
  | .behind shape reference => do
      match ← behindAddress inner shape true reference with
      | some address => pure address
      | none => addCell (freshCell shape)
  | .element array index => do
      let array ← arrayAddress inner array
      elementCell array (← wholeOf (← inner.value index))
  | .member table key => do
      let table ← tableAddress inner table
      memberCell table (← keyOf inner key)
  | .declare _ [place] => do
      declare place
      inner.cell place
  | .hide _ [place] => do
      hide inner place
      inner.cell place
  | .list [term] => inner.cell term
  | .assign _ place _ => do
      if place.isListPlace then
        let _ ← inner.values term
      else
        let _ ← inner.value term
      inner.cell (assignedPlace place)
  | .once _ _ later => do
      let _ ← inner.value term
      inner.cell later
  | .advance _ true place => do
      let _ ← inner.value term
      inner.cell place
  | .choice condition consequence alternative => do
      if isTrue (← inner.value condition) then inner.cell consequence else inner.cell alternative
  | _ => do addValue (← inner.value term)

/-- The addresses of all that a term stands for. -/
def cellsOf (inner : Actors) (term : Term) : Actor (List Nat) := do
  match term with
  | .list terms => do pure (← terms.mapM inner.cells).flatten
  | .own .array _ | .shared .array _ | .behind .array _ => do
      let creates : Bool := match term with
        | .behind _ reference => isAddressed reference
        | _ => true
      match ← containerOf inner .array creates term with
      | some address => do pure (← elementsAt address).toList
      | none => pure []
  | .own .table _ | .shared .table _ | .behind .table _ => do
      match ← containerOf inner .table true term with
      | some address => do
          let cells ← (← membersAt address).mapM fun (key, cell) => do
            pure [← addValue (.text key), cell]
          pure cells.flatten
      | none => pure []
  | .elements array indices => do
      let array ← arrayAddress inner array
      (← inner.values indices).mapM fun index => do elementCell array (← wholeOf index)
  | .members table keys => do
      let table ← tableAddress inner table
      (← inner.values keys).mapM fun key => do memberCell table (← textOf key)
  | .element array index => do
      let array ← arrayAddress inner array
      match ← elementCell? array (← wholeOf (← inner.value index)) with
      | some cell => pure [cell]
      | none => List.singleton <$> addValue .nothing
  | .member table key => do
      let table ← tableAddress inner table
      match ← memberCell? table (← keyOf inner key) with
      | some cell => pure [cell]
      | none => List.singleton <$> addValue .nothing
  | .own .scalar _ | .shared .scalar _ | .behind .scalar _ => List.singleton <$> inner.cell term
  | .declare false [place] => do
      declare place
      inner.cells place
  | .choice condition consequence alternative => do
      if isTrue (← inner.value condition) then inner.cells consequence
      else inner.cells alternative
  | .call "values" [table] => do
      match ← containerOf inner .table true table with
      | some address => do
          match ← cellAt address with
          | .table members _ => pure (members.map (·.2))
          | .array elements => pure elements.toList
          | _ => pure []
      | none => pure []
  | _ => do (← inner.values term).mapM addValue

/-! ## Assignments -/

/-- Puts a part of a text in the place of another one. -/
def replacePart (inner : Actors) (place : Term) (start : Int) (length : Option Int)
    (replacement : String) : Actor Held := do
  let cell ← inner.cell place
  let text ← textOf (← readCell cell)
  match partBounds? text.length start length with
  | none => die "substr outside of string"
  | some (start, length) => do
      let letters := text.toList
      let changed := letters.take start ++ replacement.toList ++ letters.drop (start + length)
      writeCell cell (.text (String.ofList changed))
      pure (.text (String.ofList ((letters.drop start).take length)))

/-- Lets a name stand for what a reference leads to. -/
def assignName (name : String) (value : Held) : Actor Unit := do
  let full := qualified "main" name
  match value with
  | .reference address => do
      match ← cellAt address with
      | .function _ _ _ | .tool _ => setShared (sharedKey .function full) (some address)
      | .array _ => setShared (sharedKey .array full) (some address)
      | .table _ _ => setShared (sharedKey .table full) (some address)
      | .handle _ => setShared ("*" ++ full) (some address)
      | _ => setShared (sharedKey .scalar full) (some address)
  | .plain _ => pure ()

/-- Puts a value into a place. -/
def setPlace (inner : Actors) (place : Term) (value : Held) : Actor Unit := do
  match place with
  | .shared .scalar name => do
      writeCell (← sharedAddress .scalar name) value
      noteValue name value
  | .hide false [.shared .scalar name] => do
      hide inner (.shared .scalar name)
      writeCell (← sharedAddress .scalar name) value
      noteValue name value
  | .last array => do
      let array ← arrayAddress inner array
      let size := min ((← wholeOf value) + 1).toNat greatestIndex
      let elements ← elementsAt array
      if elements.size < size then extend array size
      else setCell array (.array (elements.extract 0 size))
  | .call "substr" (text :: start :: rest) => do
      let start ← wholeOf (← inner.value start)
      let length ← (rest.head?).mapM fun length => do wholeOf (← inner.value length)
      let _ ← replacePart inner text start length (← textOf value)
  | .call "pos" [text] => do
      let cell ← inner.cell text
      let place ← wholeOf value
      modify fun state =>
        let others := state.positions.filter fun row => row.1 != cell
        { state with
          positions := if value.isDefined then (cell, place.toNat, false) :: others else others }
  | .choice condition consequence alternative => do
      let place := if isTrue (← inner.value condition) then consequence else alternative
      writeCell (← inner.cell place) value
  | .bare name => assignName name value
  | .behind .function name => do assignName (← textOf (← inner.value name)) value
  | _ => do writeCell (← inner.cell place) value

/-- Puts values into places, each list taking all that are left. -/
def spread (inner : Actors) : List Term → List Held → Actor Unit
  | [], _ => pure ()
  | place :: rest, values => do
      match place with
      | .own .array _ | .shared .array _ | .behind .array _ => do
          setList (← arrayAddress inner place) values
          spread inner rest []
      | .own .table _ | .shared .table _ | .behind .table _ => do
          setTable (← tableAddress inner place) values
          spread inner rest []
      | .elements _ _ | .members _ _ => do
          let cells ← inner.cells place
          (cells.zipIdx).forM fun (cell, index) => writeCell cell (values[index]?.getD .nothing)
          spread inner rest (values.drop cells.length)
      | .list [] => spread inner rest values.tail
      | .call "undef" _ => spread inner rest values.tail
      | .declare false [place] => do
          declare place
          spreadOne place rest values
      | .hide false [place] => do
          hide inner place
          spreadOne place rest values
      | place => do
          setPlace inner place (values.headD .nothing)
          spread inner rest values.tail
where
  /-- Puts values into a place that has been declared, and into others. -/
  spreadOne (place : Term) (rest : List Term) (values : List Held) : Actor Unit := do
    match place with
    | .own .array _ | .shared .array _ => do
        setList (← arrayAddress inner place) values
        spread inner rest []
    | .own .table _ | .shared .table _ => do
        setTable (← tableAddress inner place) values
        spread inner rest []
    | place => do
        setPlace inner place (values.headD .nothing)
        spread inner rest values.tail

/-- Assigns values to a place for a list. -/
def assignList (inner : Actors) (place : Term) (values : List Held) : Actor Unit := do
  match place with
  | .declare _ places => do
      places.forM declare
      spread inner places values
  | .hide _ places => do
      places.forM (hide inner)
      spread inner places values
  | .list places => spread inner places values
  | .once _ first _ => spread inner [first] values
  | place => spread inner [place] values

end StaticMulticast.Host.Utility.Statement
