import StaticMulticast.Host.Utility.Statement.Place

/-!
# Lists and texts in scripts of statements

What is asked of lists and tables, where texts are searched, and what is done for each value.
-/

/-!
## Lists and tables of scripts of statements

Functions that change lists and tables, or ask what is in them.
-/

namespace StaticMulticast.Host.Utility.Statement

/-- The list or the table that a term stands for. One behind a reference is made if it is wanted. -/
def containerAt (inner : Actors) (term : Term) : Actor Nat := do
  match term with
  | .own .array _ | .shared .array _ | .behind .array _ => arrayAddress inner term
  | .own .table _ | .shared .table _ | .behind .table _ => tableAddress inner term
  | .declare _ [_] => inner.cell term
  | _ => do
      match ← inner.value term with
      | .reference address => pure address
      | .plain _ => die "Experimental keys on scalar is now forbidden"

/-- Takes a value off a list, at its front or its end. -/
def takeOff (inner : Actors) (isFront : Bool) (term : Term) : Actor Held := do
  let array ← containerAt inner term
  let elements ← elementsAt array
  if elements.isEmpty then pure .nothing
  else do
    let cell := (if isFront then elements[0]? else elements.back?).getD 0
    setCell array (.array (if isFront then elements.extract 1 elements.size else elements.pop))
    readCell cell

/-- Adds values to a list, at its front or its end, and gives its new length. -/
def putOn (inner : Actors) (isFront : Bool) (term : Term) (values : List Held) : Actor Held := do
  let array ← containerAt inner term
  let cells ← values.mapM addValue
  let elements ← elementsAt array
  setCell array (.array #[])
  setCell array (.array (if isFront then cells.toArray ++ elements else cells.foldl Array.push elements))
  pure (.count (elements.size + cells.length))

/-- Puts values in the place of others in a list, and gives those. -/
def spliceList (inner : Actors) (term : Term) (arguments values : List Held) :
    Actor (List Held) := do
  let array ← containerAt inner term
  let elements := (← elementsAt array).toList
  let start ← match arguments with
    | start :: _ => wholeOf start
    | [] => pure 0
  let length ← match arguments with
    | _ :: length :: _ => if length.isDefined then some <$> wholeOf length else pure none
    | _ => pure none
  let start := min start (Int.ofNat elements.length)
  match partBounds? elements.length start length with
  | none => die "Modification of non-creatable array value attempted"
  | some (start, length) => do
      let cells ← values.mapM addValue
      let taken := (elements.drop start).take length
      setCell array (.array (elements.take start ++ cells ++ elements.drop (start + length)).toArray)
      taken.mapM readCell

/-- The keys of a table, or the indices of a list. -/
def keysOf (address : Nat) : Actor (List Held) := do
  match ← cellAt address with
  | .table members _ => do
      setCell address (.table members 0)
      pure (members.map fun member => .text member.1)
  | .array elements => pure ((List.range elements.size).map Held.count)
  | _ => pure []

/-- The values in a table or a list. -/
def valuesIn (address : Nat) : Actor (List Held) := do
  match ← cellAt address with
  | .table members _ => do
      setCell address (.table members 0)
      members.mapM fun member => readCell member.2
  | .array elements => elements.toList.mapM readCell
  | _ => pure []

/-- The number under which it is remembered how far a list has been told. -/
def listMemory (address : Nat) : Nat := 0x100000000 + address

/-- Remembers a number. -/
def setMemory (number value : Nat) : Actor Unit :=
  modify fun state =>
    { state with
      memories := (number, value) :: state.memories.filter fun row => row.1 != number }

/-- The next key and value of a table, or the next index and value of a list. -/
def nextMember (address : Nat) : Actor (List Held) := do
  match ← cellAt address with
  | .table members next => do
      match members[next]? with
      | some (key, cell) => do
          setCell address (.table members (next + 1))
          pure [.text key, ← readCell cell]
      | none => do
          setCell address (.table members 0)
          pure []
  | .array elements => do
      let next := ((← get).memories.lookup (listMemory address)).getD 0
      match elements[next]? with
      | some cell => do
          setMemory (listMemory address) (next + 1)
          pure [.count next, ← readCell cell]
      | none => do
          setMemory (listMemory address) 0
          pure []
  | _ => pure []

/-- The container is there, without anything being made. -/
def peekContainer (inner : Actors) (shape : Shape) (term : Term) : Actor (Option Nat) := do
  match term with
  | .behind _ reference => do
      match ← inner.value reference with
      | .reference address => pure (some address)
      | .plain .nothing => pure none
      | .plain _ => containerOf inner shape false term
  | _ => containerOf inner shape false term

/-- There is a place for what a term stands for. -/
def isThere (inner : Actors) (term : Term) : Actor Bool := do
  match term with
  | .member table key => do
      let table ← tableAddress inner table
      pure (← memberCell? table (← keyOf inner key)).isSome
  | .element array index => do
      let array ← arrayAddress inner array
      pure (← elementCell? array (← wholeOf (← inner.value index))).isSome
  | .shared .function name => do
      pure ((← get).shared.lookup (sharedKey .function name)).isSome
  | .callNamed name _ => do pure ((← get).shared.lookup (sharedKey .function name)).isSome
  | .bare name => do
      pure ((← get).shared.lookup (sharedKey .function (qualified "main" name))).isSome
  | .callValue (.reference (.shared .function name)) _ => do
      pure ((← get).shared.lookup (sharedKey .function name)).isSome
  | .callValue function _ => do pure (← inner.value function).isDefined
  | .list [term] => do pure (← inner.value term).isDefined
  | term => do pure (← inner.value term).isDefined

/-- The term has a value. -/
def isSet (inner : Actors) (term : Term) : Actor Bool := do
  match term with
  | .own .array _ | .shared .array _ | .behind .array _ => do
      match ← peekContainer inner .array term with
      | some address => do pure !(← elementsAt address).isEmpty
      | none => pure false
  | .own .table _ | .shared .table _ | .behind .table _ => do
      match ← peekContainer inner .table term with
      | some address => do pure !(← membersAt address).isEmpty
      | none => pure false
  | .shared .function _ | .callNamed _ none => isThere inner term
  | .callValue (.reference (.shared .function name)) none => do
      pure ((← get).shared.lookup (sharedKey .function name)).isSome
  | .member _ _ | .element _ _ => do
      if ← isThere inner term then do pure (← inner.value term).isDefined else pure false
  | .list [term] => do pure (← inner.value term).isDefined
  | term => do pure (← inner.value term).isDefined

/-- Takes a member off a table, and gives its value. -/
def deleteMember (table : Nat) (key : String) : Actor Held := do
  match ← memberCell? table key with
  | none => pure .nothing
  | some cell => do
      let members ← membersAt table
      setCell table (.table (members.filter fun member => member.1 != key) 0)
      readCell cell

/-- Takes something off a table or a list, and gives what it was. -/
def delete (inner : Actors) (term : Term) : Actor (List Held) := do
  match term with
  | .member table key => do
      match ← peekContainer inner .table table with
      | some table => do pure [← deleteMember table (← keyOf inner key)]
      | none => pure [.nothing]
  | .members table keys => do
      match ← peekContainer inner .table table with
      | some table => do
          (← inner.values keys).mapM fun key => do deleteMember table (← textOf key)
      | none => pure []
  | .element array index => do
      match ← peekContainer inner .array array with
      | some array => do
          let elements ← elementsAt array
          match indexIn elements.size (← wholeOf (← inner.value index)) with
          | some place => do
              let value ← match elements[place]? with
                | some cell => readCell cell
                | none => pure .nothing
              if place + 1 = elements.size then setCell array (.array elements.pop)
              else do
                let fresh ← addValue .nothing
                setCell array (.array (elements.setIfInBounds place fresh))
              pure [value]
          | none => pure [.nothing]
      | none => pure [.nothing]
  | .hide _ [place] => do
      let value ← inner.value place
      hide inner place
      match place with
      | .member table key => do
          let _ ← deleteMember (← tableAddress inner table) (← keyOf inner key)
      | _ => pure ()
      pure [value]
  | _ => die "delete argument is not a HASH or ARRAY element or slice"

/-- Takes away the values of what a term stands for. -/
def undefine (inner : Actors) (term : Term) : Actor Unit := do
  match term with
  | .own .array _ | .shared .array _ | .behind .array _ => do
      setCell (← arrayAddress inner term) (.array #[])
  | .own .table _ | .shared .table _ | .behind .table _ => do
      setCell (← tableAddress inner term) (.table [] 0)
  | .shared .function name => setShared (sharedKey .function name) none
  | .callValue (.reference (.shared .function name)) _ => setShared (sharedKey .function name) none
  | .list [term] => setPlace inner term .nothing
  | term => setPlace inner term .nothing

end StaticMulticast.Host.Utility.Statement

/-!
## Searching in scripts of statements

A text is searched for an expression once, again from where the last search ended, or for all places
where it stands. What is found is cut out, replaced or told.
-/

namespace StaticMulticast.Host.Utility.Statement

/-- The expression that a value is. An empty one is the last that has been found. -/
def patternOf (isSearch : Bool) (value : Held) (flags : String) : Actor Pattern := do
  let text ← textOf value
  let last := (← get).lastPattern
  match last, isSearch && text.isEmpty with
  | some pattern, true => pure pattern
  | _, _ => do
      match Pattern.ofText? text flags with
      | some pattern => pure pattern
      | none => die ("Unmatched or wrong mark in regex; marked by <-- HERE in m/" ++ text ++ "/")

/-- A number for a text that has no address. It is greater than all addresses. -/
def plainAddress (text : String) : Nat := 0x100000000 + text.hash.toNat

/-- The address of the text that is searched, which keeps where its search goes on, and the text. -/
def searchedText (inner : Actors) (term : Term) : Actor (Nat × List Char) := do
  let isPlace : Bool := match term with
    | .declare _ _ => true
    | .list [.assign _ _ _] | .assign _ _ _ => true
    | term => isAddressed term
  if isPlace then do
    let address ← inner.cell term
    pure (address, (← textOf (← readCell address)).toList)
  else do
    let text ← textOf (← inner.value term)
    pure (plainAddress text, text.toList)

/-- Where the search of a text goes on, and whether it has last found nothing there. -/
def positionOf (address : Nat) : Actor (Option (Nat × Bool)) := do
  pure ((← get).positions.lookup address)

/-- Sets where the search of a text goes on. -/
def setPosition (address : Nat) (position : Option (Nat × Bool)) : Actor Unit :=
  modify fun state =>
    let others := state.positions.filter fun row => row.1 != address
    { state with
      positions := match position with
        | some (place, wasEmpty) => (address, place, wasEmpty) :: others
        | none => others }

/-- Searches a text once, or from where the last search ended. -/
def searchOnce (inner : Actors) (term : Term) (pattern : Pattern) (flags : String) :
    Actor Bool := do
  let goesOn := flags.toList.contains 'g'
  let (address, text) ← searchedText inner term
  let position ← positionOf address
  let (start, wasEmpty) := if goesOn then position.getD (0, false) else
    ((position.map (·.1)).getD 0, false)
  let start := if goesOn || pattern.isFixed then start else 0
  match (if start ≤ text.length then pattern.findNext text start wasEmpty else none) with
  | some finding => do
      remember finding
      if goesOn then
        setPosition address (some (finding.found.stop,
          finding.found.stop = finding.found.start))
      pure true
  | none => do
      if goesOn && !flags.toList.contains 'c' then setPosition address none
      pure false

/-- What groups stand for, as values. -/
def groupValues? (finding : Finding) : List Held :=
  finding.groups.map fun text => (text.map Held.text).getD .nothing

/-- Searches a text where a list is wanted: what the groups stand for, or what the expression does
everywhere. -/
def searchAll (inner : Actors) (term : Term) (pattern : Pattern) (flags : String) :
    Actor (List Held) := do
  if flags.toList.contains 'g' then do
    let (address, text) ← searchedText inner term
    let start := ((← positionOf address).map (·.1)).getD 0
    let all := pattern.findAll text (text.length + 2) start false
    setPosition address none
    all.getLast?.forM remember
    pure (all.flatMap fun finding =>
      if pattern.groups = 0 then [((finding.group? 0).map Held.text).getD .nothing]
      else groupValues? finding)
  else do
    if ← searchOnce inner term pattern flags then
      match (← get).finding with
      | some finding =>
          pure (if pattern.groups = 0 then [.number 1] else groupValues? finding)
      | none => pure []
    else pure []

/-- A text with something in the place of each match, from a position on. -/
def replaceFindings (text : List Char) (piece : Actor String) :
    Nat → List Finding → List (List Char) → Actor (List Char)
  | position, [], done => pure ((text.drop position :: done).reverse.flatten)
  | position, finding :: rest, done => do
      remember finding
      let own := (← piece).toList
      let before := (text.drop position).take (finding.found.start - position)
      replaceFindings text piece finding.found.stop rest (own :: before :: done)

/-- Replaces what is found in a text, and gives the number of places or the changed text. -/
def replaceIn (inner : Actors) (place : Term) (pattern : Pattern) (replacement : Term)
    (flags : String) : Actor Held := do
  let gives := flags.toList.contains 'r'
  let address ← if gives then do addValue (← inner.value place) else inner.cell place
  let text := (← textOf (← readCell address)).toList
  let all := if flags.toList.contains 'g' then
      pattern.findAll text (text.length + 2) 0 false
    else (pattern.find text 0).toList
  if all.isEmpty then
    pure (if gives then .text (String.ofList text) else .answer false)
  else do
    let piece : Actor String := do textOf (← inner.value replacement)
    let changed ← replaceFindings text piece 0 all []
    let changed := Held.text (String.ofList changed)
    if gives then pure changed
    else do
      match place with
      | .shared .scalar _ => setPlace inner place changed
      | _ => writeCell address changed
      pure (.count all.length)

/-- Puts letters in the place of others, and gives the number of those or the changed text. -/
def translateIn (inner : Actors) (place : Term) (first second flags : String) : Actor Held := do
  let gives := flags.toList.contains 'r'
  if gives then do
    let text := (← textOf (← inner.value place)).toList
    pure (.text (String.ofList (translated first second flags text).1))
  else do
    let address ← inner.cell place
    let text := (← textOf (← readCell address)).toList
    let (changed, count) := translated first second flags text
    if changed != text then writeCell address (.text (String.ofList changed))
    pure (.count count)

/-- The pieces of a text between what an expression stands for. -/
def splitText (inner : Actors) (arguments : List Term) : Actor (List Held) := do
  let (pattern, rest) := match arguments with
    | pattern :: rest => (pattern, rest)
    | [] => (.text " ", [])
  let text ← textOf (← inner.value (rest.headD .topic))
  let most ← match rest with
    | _ :: most :: _ => do wholeOf (← inner.value most)
    | _ => pure 0
  let (value, flags, isQuoted) : Held × String × Bool ← match pattern with
    | .search _ none pattern flags => do pure (← inner.value pattern, flags, false)
    | term => do pure (← inner.value term, "", true)
  let source ← textOf value
  let isGap := isQuoted && source = " "
  let letters := if isGap then text.toList.dropWhile Char.isWhitespace else text.toList
  let flags := if source = "^" then flags ++ "m" else flags
  let pattern ← patternOf false (if isGap then .text "\\s+" else value) flags
  pure ((pattern.pieces letters most).map fun piece => (piece.map Held.text).getD .nothing)

end StaticMulticast.Host.Utility.Statement

/-!
## Functions that go through lists

They do statements for each value of a list, which a name stands for meanwhile, or for two values at
once.
-/

namespace StaticMulticast.Host.Utility.Statement

/-! ## Sorting -/

/-- Two lists in order as one. The bound is on their length. -/
def mergeBy (isAfter : Nat → Nat → Actor Bool) : Nat → List Nat → List Nat → List Nat →
    Actor (List Nat)
  | 0, first, second, done => pure (done.reverse ++ first ++ second)
  | bound + 1, first, second, done => do
      match first, second with
      | [], rest | rest, [] => pure (done.reverse ++ rest)
      | one :: first, other :: second =>
          if ← isAfter one other then mergeBy isAfter bound (one :: first) second (other :: done)
          else mergeBy isAfter bound first (other :: second) (one :: done)

/-- A list in the order that a comparison asks for. What is equal keeps its order. The bound is on
how often the list is halved. -/
def sortBy (isAfter : Nat → Nat → Actor Bool) : Nat → List Nat → Actor (List Nat)
  | 0, cells => pure cells
  | bound + 1, cells => do
      if cells.length ≤ 1 then pure cells
      else do
        let (first, second) := cells.splitAt (cells.length / 2)
        let first ← sortBy isAfter bound first
        let second ← sortBy isAfter bound second
        mergeBy isAfter (cells.length + 1) first second []

/-- Does something with two names of a package, which then stand for other things. -/
def withPair {Result : Type} (package : String) (body : (Nat → Nat → Actor Unit) → Actor Result) :
    Actor Result := inScope do
  let first := sharedKey .scalar (package ++ "::a")
  let second := sharedKey .scalar (package ++ "::b")
  hideShared first (← addValue .nothing)
  hideShared second (← addValue .nothing)
  body fun one other => do
    setShared first (some one)
    setShared second (some other)

/-- The values of a list in the order that a body asks for, or in that of their texts. -/
def sortList (inner : Actors) (package : String) (body : Term) (cells : List Nat) :
    Actor (List Held) := do
  let sorted ← match body with
    | .list [] => do
        let rows ← cells.mapM fun cell => do pure (← textOf (← readCell cell), cell)
        pure ((rows.mergeSort fun one other => one.1 ≤ other.1).map (·.2))
    | body => withPair package fun set =>
        let isAfter (one other : Nat) : Actor Bool := do
          set one other
          pure (0 < (← numberOfValue (← inner.value body)))
        sortBy isAfter 40 cells
  sorted.mapM readCell

/-! ## Going through lists -/

/-- The name for the value that a function of a list is at. -/
def topicKey : String := sharedKey .scalar "main::_"

/-- Does something for each cell of a list, for which a name stands meanwhile. -/
def forTopics {Result : Type} (cells : List Nat) (body : Nat → Actor Result) :
    Actor (List Result) := inScope do
  match cells with
  | [] => pure []
  | first :: _ => do
      hideShared topicKey first
      cells.mapM fun cell => do
        setShared topicKey (some cell)
        body cell

/-- The first cell of a list for which a test holds. -/
def firstTopic? (cells : List Nat) (test : Actor Bool) : Actor (Option Nat) := inScope do
  match cells with
  | [] => pure none
  | first :: _ => do
      hideShared topicKey first
      search cells
where
  /-- The first of some cells for which the test holds. -/
  search : List Nat → Actor (Option Nat)
    | [] => pure none
    | cell :: rest => do
        setShared topicKey (some cell)
        if ← test then pure (some cell) else search rest

/-- Joins the values of a list two by two from its front, and gives all that come up. -/
def reduceList (inner : Actors) (package : String) (body : Term) (cells : List Nat) :
    Actor (List Held) := do
  match cells with
  | [] => pure [.nothing]
  | first :: rest => withPair package fun set => do
      let start ← readCell first
      let (_, values) ← rest.foldlM (fun (state : Held × List Held) cell => do
        set (← addValue state.1) cell
        let value ← inner.value body
        pure (value, value :: state.2)) (start, [start])
      pure values.reverse

/-- Goes through a list two by two. -/
def forPairs (package : String) (cells : List Nat) (body : Nat → Nat → Actor (List Held)) :
    Actor (List Held) := withPair package fun set => do
  let pairs := (List.range ((cells.length + 1) / 2)).map fun index =>
    (cells[2 * index]?, cells[2 * index + 1]?)
  let values ← pairs.mapM fun (one, other) => do
    match one, other with
    | some one, some other => do
        set one other
        body one other
    | some one, none => do
        let other ← addValue .nothing
        set one other
        body one other
    | none, _ => pure []
  pure values.flatten

/-- Goes through a list with a body. -/
def siftList (inner : Actors) (way package : String) (body list : Term) : Actor (List Held) := do
  let cells ← inner.cells list
  let test : Actor Bool := do pure (isTrue (← inner.value body))
  let opposite : Actor Bool := do pure !(← test)
  match way with
  | "sort" => sortList inner package body cells
  | "map" => do
      pure (← forTopics cells fun _ => inner.values body).flatten
  | "grep" => do
      let kept ← forTopics cells fun cell => do
        if ← test then pure [← readCell cell] else pure []
      pure kept.flatten
  | "first" => do
      match ← firstTopic? cells test with
      | some cell => List.singleton <$> readCell cell
      | none => pure [.nothing]
  | "any" => do pure [.answer (← firstTopic? cells test).isSome]
  | "none" => do pure [.answer (← firstTopic? cells test).isNone]
  | "all" => do pure [.answer (← firstTopic? cells opposite).isNone]
  | "notall" => do pure [.answer (← firstTopic? cells opposite).isSome]
  | "reduce" => do pure ((← reduceList inner package body cells).getLast?.toList)
  | "reductions" => reduceList inner package body cells
  | "pairmap" => forPairs package cells fun _ _ => inner.values body
  | "pairgrep" => forPairs package cells fun one other => do
      if ← test then pure [← readCell one, ← readCell other] else pure []
  | _ => die ("Undefined subroutine &" ++ package ++ "::" ++ way ++ " called")

end StaticMulticast.Host.Utility.Statement
