import StaticMulticast.Host.Process.Task
import StaticMulticast.Host.Shell.Expansion

/-!
# What comes before a command

The assignments and redirections that stand with a command.
-/

/-!
## Assignments

What a name is given is not cut into fields. In the extended language it can be added to what is
there, it can be put at a place of a list, and it can be a whole list.
-/

namespace StaticMulticast.Host.Shell

open Action
open Expansion (valueOf)

/-- A text after another one that it is added to. What is added to a number is a number. -/
def added (isNumber adds : Bool) (held text : String) : Action String := do
  if isNumber then do
    let value ← Expansion.calculate text
    let before ← if adds then Expansion.calculate held else pure 0
    pure (toString (Calculation.wrap (before + value)))
  else pure (if adds then held ++ text else text)

/-- Puts a text at a place of a list. -/
def assignMember (name place : String) (adds : Bool) (text : String) : Action Unit := do
  if place.isEmpty then Expansion.refusePlace name place
  match ← valueOf name with
  | .table members => do
      let text := if adds then (members.lookup place).getD "" ++ text else text
      Expansion.setMember name (.name place) text
  | _ => do
      let spot := Expansion.Spot.number (← Expansion.placeOf place)
      let isNumber := (← binding? name).any Binding.isNumber
      let held ← if adds then Expansion.member? name spot else pure none
      Expansion.setMember name spot (← added isNumber adds (held.getD "") text)

/-- What the members of a list that are written come to: texts with the places that are given. -/
def memberTexts (again : Runner) (values : List (Option Word × Word)) :
    Action (List (Option String × String)) := do
  let members ← values.mapM fun (place, word) => do
    match place with
    | some place => do
        pure [(some (← Expansion.textOf again place), ← Expansion.textOf again word)]
    | none => do pure ((← Expansion.wordsOf again word).map fun text => (none, text))
  pure members.flatten

/-- Puts texts into a list, each behind the one before or at its own place. -/
def fillList (name : String) (isNumber : Bool) :
    Int → List (Option String × String) → Action Unit
  | _, [] => pure ()
  | next, (place, text) :: rest => do
      let number ← match place with
        | some place => Expansion.placeOf place
        | none => pure next
      let held := (← valueOf name).members
      let meant := if number < 0 then number + Value.nextPlace held else number
      if meant < 0 then do
        complain ("[" ++ place.getD "" ++ "]=" ++ text ++ ": bad array subscript")
        fillList name isNumber next rest
      else do
        Expansion.setMember name (.number meant) (← added isNumber false "" text)
        fillList name isNumber (meant + 1) rest

/-- Puts texts into a table, each at its own place. -/
def fillPlaces (name : String) (isNumber : Bool) :
    List (Option String × String) → Action Unit
  | [] => pure ()
  | (some place, text) :: rest => do
      Expansion.setMember name (.name place) (← added isNumber false "" text)
      fillPlaces name isNumber rest
  | (none, text) :: rest => do
      complain (name ++ ": " ++ text ++ ": must use subscript when assigning associative array")
      fillPlaces name isNumber rest

/-- Puts texts into a table: they are places and texts in turn. -/
def fillPairs (name : String) (isNumber : Bool) : List String → Action Unit
  | [] => pure ()
  | [place] => Expansion.setMember name (.name place) ""
  | place :: text :: rest => do
      Expansion.setMember name (.name place) (← added isNumber false "" text)
      fillPairs name isNumber rest

/-- Puts texts into a table. Either all of them have a place of their own, or none. -/
def fillTable (name : String) (isNumber : Bool) (members : List (Option String × String)) :
    Action Unit := do
  if (members.head?.map fun member => member.1.isNone) = some true then
    fillPairs name isNumber (members.map fun (place, text) => match place with
      | some place => "[" ++ place ++ "]=" ++ text
      | none => text)
  else fillPlaces name isNumber members

/-- Lets a variable hold a list without members, or the members that it has. A list that cannot be
changed can be filled once. -/
def openList (name : String) (adds : Bool) : Action Unit := do
  let value ← valueOf name
  let emptied : Value := match value with
    | .table members => .table (if adds then members else [])
    | value => .list (if adds then value.members else [])
  match ← binding? name with
  | some binding =>
      if binding.isFixed && value.texts.isEmpty then
        setBinding name (some { binding with value := emptied, isFixed := false })
      else setValue name emptied
  | none => setValue name emptied

/-- Assigns a list to a name. -/
def assignList (name : String) (adds : Bool) (members : List (Option String × String)) :
    Action Unit := do
  let binding ← binding? name
  let isNumber := binding.any Binding.isNumber
  openList name adds
  match ← valueOf name with
  | .table _ => fillTable name isNumber members
  | value => fillList name isNumber (Int.ofNat (Value.nextPlace value.members)) members
  if binding.any Binding.isFixed then
    match ← binding? name with
    | some binding => setBinding name (some { binding with isFixed := true })
    | none => pure ()

/-- An assignment as it is told: with its value as it is, or quoted. -/
def assignmentText (isQuoted : Bool) (target : String) (adds : Bool) (value : String) : String :=
  target ++ (if adds then "+=" else "=") ++
    (if isQuoted && !value.isEmpty then shownText value else value)

/-- Makes an assignment, after it has been told, and gives its text. -/
def assign (again : Runner) (tell : String → Action Unit) : Assignment → Action String
  | .text name none adds word => do
      let text ← Expansion.valueText again word
      tell (assignmentText true name adds text)
      let target ← nameOf name
      match target.toList.span (· != '[') with
      | (list, _ :: place) =>
          assignMember (String.ofList list) (String.ofList place.dropLast) adds text
      | _ => do
          let isNumber := (← binding? name).any Binding.isNumber
          setText name (← added isNumber adds (← if adds then parameter name else pure "") text)
      pure (assignmentText false name adds text)
  | .text name (some subscript) adds word => do
      let text ← Expansion.textOf again word
      let place ← Expansion.textOf again subscript
      let target := name ++ "[" ++ place ++ "]"
      tell (assignmentText true target adds text)
      assignMember name place adds text
      pure (assignmentText false target adds text)
  | .list text name adds values => do
      tell text
      assignList name adds (← memberTexts again values)
      pure text

/-- The name that an assignment is about. -/
def Assignment.name : Assignment → String
  | .text name _ _ _ => name
  | .list _ name _ _ => name

/-- Does something while variables have other values, which programs can see. It is given the texts of
the assignments that have been made. -/
def withAssignments {Result : Type} (again : Runner) (tell : String → Action Unit)
    (assignments : List Assignment) (body : List String → Action Result) : Action Result := do
  if assignments.isEmpty then body []
  else do
    let extended ← isExtended
    modifyProcess fun process => { process with hidden := [] :: process.hidden }
    let result ← attempt do
      let texts ← assignments.mapM fun assignment => do
        let isFixed := (← binding? assignment.name).any Binding.isFixed
        if extended && isFixed then do
          report (assignment.name ++ ": readonly variable")
          pure ""
        else match assignment with
        | .text name (some place) _ _ => do
            let place ← Expansion.textOf again place
            complain (inOldQuotes (name ++ "[" ++ place ++ "]") ++ ": not a valid identifier")
            pure ""
        | _ => do
            hide assignment.name
            let text ← match ← attempt (assignBefore assignment) with
              | .ok text => pure text
              | .error (.fails status) => throw (.exits status)
              | .error jump => throw jump
            match ← binding? assignment.name with
            | some binding => setBinding assignment.name (some { binding with isExported := true })
            | none => pure ()
            pure text
      body texts
    reveal
    match result with
    | .ok value => pure value
    | .error jump => throw jump
where
  /-- Makes an assignment in front of a command. A list is a text there. -/
  assignBefore : Assignment → Action String
    | .list text name _ _ => do
        let value := String.ofList ((text.toList.dropWhile (· != '=')).drop 1)
        setOwnBinding name (some { value := .single value })
        pure text
    | assignment => assign again tell assignment

end StaticMulticast.Host.Shell

/-!
## Redirections

Before a command runs, its descriptors are led to other files. A redirection that fails is reported,
and those after it are left out.
-/

namespace StaticMulticast.Host.Shell

open Action

/-- Lets a descriptor lead to an open file whose number is given. If there is a fault, the message for it
is written. -/
def lead (descriptor : Nat) (message : Fault → String) : Except Fault Nat → Action Bool
  | .ok number => do
      setDescriptor descriptor (some number)
      pure true
  | .error fault => do
      complain (message fault)
      pure false

/-- The reason of a fault, as the plain language tells it. If what is asked for is absent, it is another
text. -/
def plainReason (absent : String) (fault : Fault) : String :=
  if fault = .missing || fault = .throughFile then absent else fault.reason

/-- What is told about a file that cannot be opened. -/
def openMessage (isExtended reads : Bool) (path : String) (fault : Fault) : String :=
  if isExtended then
    path ++ ": " ++ (if fault = .present then "cannot overwrite existing file" else fault.reason)
  else if reads then "cannot open " ++ path ++ ": " ++ plainReason "No such file" fault
  else "cannot create " ++ path ++ ": " ++ plainReason "Directory nonexistent" fault

/-- Lets a descriptor lead to where another one leads. -/
def copyDescriptor (descriptor : Nat) (target : String) : Action Bool := do
  let (digits, rest) := target.toList.span Char.isDigit
  let message (fault : Fault) : String := target ++ ": " ++ fault.reason
  if target = "-" then do
    setDescriptor descriptor none
    pure true
  else match (String.ofList digits).toNat?, rest with
  | some source, [] => do
      match (← process).descriptors.lookup source with
      | some number => lead descriptor message (.ok number)
      | none => lead descriptor message (.error .badDescriptor)
  | some source, ['-'] => do
      match (← process).descriptors.lookup source with
      | some number => do
          let led ← lead descriptor message (.ok number)
          setDescriptor source none
          pure led
      | none => lead descriptor message (.error .badDescriptor)
  | _, _ => do
      complain "Bad fd number"
      pure false

/-- Lets a descriptor lead to text. -/
def leadToText (descriptor : Nat) (text : String) : Action Bool := do
  let (reading, _) ← makePipe
  match (← world).openFiles[reading]? with
  | some { stream := .pipe number, .. } => do
      modifyWorld fun world =>
        { world with pipes := world.pipes.modify number fun pipe =>
            pipe.push (Text.Octets.toList text) }
      lead descriptor Fault.reason (.ok reading)
  | _ => pure false

/-- Lets those in the background run, if the process is about to read from a pipe in which nothing is
yet. -/
def fillPipe (again : Runner) (descriptor : Nat) : Action Unit := do
  match ← openFile? descriptor with
  | some (_, { stream := .pipe number, isReadable := true, .. }) => do
      let isEmpty : Action Bool := do
        pure (((← world).pipes[number]?).any fun pipe => pipe.held.isEmpty)
      if ← isEmpty then
        (← world).jobs.forM fun job => do
          if ← isEmpty then runJob again job
  | _ => pure ()

/-- The first descriptor that is free for one that a variable keeps. -/
def keptDescriptor : Action Nat := do
  let process ← process
  let isFree (number : Nat) : Bool := (process.descriptors.lookup number).isNone
  pure (((List.range 50).map (· + 10)).find? isFree |>.getD 60)

/-- Makes a redirection of a descriptor. -/
def redirectOne (again : Runner) (descriptor : Option Nat) (direction : Direction)
    (target : Word) : Action Bool := do
  match direction with
  | .text => do leadToText (descriptor.getD 0) (← Expansion.textOf again target)
  | .line => do leadToText (descriptor.getD 0) ((← Expansion.textOf again target) ++ "\n")
  | _ => do
      let path ← if ← isExtended then do
          match ← Expansion.wordsOf again target with
          | [path] => pure (some path)
          | _ => pure none
        else some <$> Expansion.textOf again target
      match path with
      | none => do
          complain "ambiguous redirect"
          pure false
      | some path => do
          match direction with
          | .input => meetAtPath again path true
          | .output | .replacement | .appending | .everything _ => meetAtPath again path false
          | _ => pure ()
          let keeps := (← process).options.keepsFiles
          let extended ← isExtended
          let message := openMessage extended (direction = .input) path
          match direction with
          | .input => do lead (descriptor.getD 0) message (← openPath path .reading)
          | .both => do lead (descriptor.getD 0) message (← openPath path .both)
          | .output => do
              let manner := if keeps then .making else .writing
              let message (fault : Fault) : String :=
                openMessage extended (keeps && fault = .directory) path fault
              lead (descriptor.getD 1) message (← openPath path manner)
          | .replacement => do lead (descriptor.getD 1) message (← openPath path .writing)
          | .appending => do lead (descriptor.getD 1) message (← openPath path .appending)
          | .everything appending => do
              let manner := if appending then .appending else .writing
              let led ← lead 1 message (← openPath path manner)
              if led then copyDescriptor 2 "1" else pure false
          | _ => do
              let led ← copyDescriptor (descriptor.getD 0) path
              if led then fillPipe again (descriptor.getD 0)
              pure led

/-- Gives a variable, or a member of a list, the number of a descriptor. -/
def keepDescriptor (name : String) (number : Nat) : Action Unit := do
  match name.toList.span (· != '[') with
  | (list, _ :: place) =>
      assignMember (String.ofList list) (String.ofList place.dropLast) false (toString number)
  | _ => setText name (toString number)

/-- Makes a redirection. -/
def redirect (again : Runner) : Redirection → Action Bool
  | .mk descriptor direction target => redirectOne again descriptor direction target
  | .named name direction target => do
      let closes := direction = .copy && plainText? target = some ['-']
      if closes then do
        let (list, place) := Expansion.spotIn name
        let text ← Expansion.textOf again [.parameter list place .value [] true]
        match text.toNat? with
        | some number => do
            setDescriptor number none
            pure true
        | none => do
            complain (name ++ ": ambiguous redirect")
            pure false
      else do
        let number ← keptDescriptor
        let made ← redirectOne again (some number) direction target
        if made then keepDescriptor name number
        pure made

/-- The redirection lasts after its command. -/
def Redirection.isLasting : Redirection → Bool
  | .named _ _ _ => true
  | .mk _ _ _ => false

/-- Makes redirections one after the other. -/
def redirectAll (again : Runner) : List Redirection → Action Bool
  | [] => pure true
  | redirection :: rest => do
      if ← redirect again redirection then redirectAll again rest else pure false

end StaticMulticast.Host.Shell
