import StaticMulticast.Host.Process.Task
import StaticMulticast.Host.Shell.Builtin.Variable

/-!
# Commands about the working directory

A shell remembers the path by which it has come to its working directory, with the links on it. A
path that leads upwards is followed on this path, unless links are to be followed. The extended
language also remembers directories to go back to.
-/

namespace StaticMulticast.Host.Shell

open Action

/-! ## Paths -/

/-- The path of a place. -/
def pathOfPlace (location : Location) : String :=
  Text.Octets.encode (Files.pathOf location)

/-- The path by which the shell has come to its working directory. -/
def workingPath : Action String := do
  let process ← process
  pure (process.path.getD (pathOfPlace process.working))

/-- The parts of a path in which something stands. -/
def partsOfPath (path : String) : List String :=
  (Files.parts path).filter fun part => part != "" && part != "."

/-- The path begins with exactly two slashes, which stay. -/
def hasTwoSlashes (path : String) : Bool :=
  "//".isPrefixOf path && !"///".isPrefixOf path

/-- The path of parts. -/
def pathOfParts (hasTwo : Bool) (parts : List String) : String :=
  (if hasTwo then "//" else "/") ++ String.intercalate "/" parts

/-- The path that a target means seen from another path, if links are not looked at. -/
def joinedPath (path target : String) : String :=
  let isAbsolute := Files.isAbsolute target
  let parts := (if isAbsolute then [] else partsOfPath path) ++ partsOfPath target
  let kept := parts.foldl (fun kept part => if part = ".." then kept.tail else part :: kept) []
  pathOfParts (hasTwoSlashes (if isAbsolute then target else path)) kept.reverse

/-- Every part in front of two points is a directory, seen from the parts before them, which are given
in reverse. -/
def leadsUp (hasTwo : Bool) : List String → List String → Action Bool
  | _, [] => pure true
  | kept, part :: rest => do
      if part = ".." then
        let found ← find? true (pathOfParts hasTwo kept.reverse)
        if found.any Found.isDirectory then leadsUp hasTwo kept.tail rest else pure false
      else leadsUp hasTwo (part :: kept) rest

/-- The path that a target means seen from another path, if everything on it is there. -/
def checkedPath? (path target : String) : Action (Option String) := do
  let isAbsolute := Files.isAbsolute target
  let parts := (if isAbsolute then [] else partsOfPath path) ++ partsOfPath target
  let joined := joinedPath path target
  let isThere := (← find? true joined).isSome
  pure (if isThere && (← leadsUp (hasTwoSlashes joined) [] parts) then some joined else none)

/-! ## Going to a directory -/

/-- The directory at the end of a path. -/
def directoryAt (path : String) : Action (Except Fault Location) := do
  let files ← files
  let found := files.locate true (← process).working (pathOf path)
  pure (match found with
    | .error fault => .error fault
    | .ok location => match files.get? location with
      | some (.directory _) => .ok location
      | some _ => .error .throughFile
      | none => .error .missing)

/-- Makes a directory the working one. Without a path by which the shell has come there, it is that of
the place itself. -/
def enter (location : Location) (path : Option String) : Action Unit := do
  let extended ← isExtended
  let before ← if extended then parameter "PWD" else workingPath
  let path := path.getD (pathOfPlace location)
  modifyProcess fun process =>
    { process with
      working := location
      path
      known := process.known.map fun known => { known with isOld := true } }
  setText "OLDPWD" before
  modifyBinding "OLDPWD" fun binding => { binding with isExported := true }
  setText "PWD" path
  modifyBinding "PWD" fun binding => { binding with isExported := binding.isExported || !extended }

/-- Goes to a directory, and tells what is wrong if that cannot be done. It is told whether links are
followed before a path leads upwards. In the extended language everything on the path must be there,
or the path is followed as it stands. -/
def tryDirectory (follows : Bool) (target : String) : Action (Option Fault) := do
  let path ← workingPath
  let joined ← if follows then pure none
    else if ← isExtended then checkedPath? path target
    else pure (some (joinedPath path target))
  match ← directoryAt (joined.getD target) with
  | .ok location => do
      enter location joined
      pure none
  | .error fault => pure (some fault)

/-- Goes to the first directory in which a target is found, if there is one, and tells whether that is
another one than the working directory. -/
def tryDirectories (follows : Bool) (target : String) : List String → Action (Option Bool)
  | [] => pure none
  | directory :: rest => do
      let path := if directory.isEmpty then target else directory ++ "/" ++ target
      match ← tryDirectory follows path with
      | none => pure (some (!directory.isEmpty))
      | some _ => tryDirectories follows target rest

/-- The path is followed from where it says, and not looked for. -/
def isFixedPath (path : String) : Bool :=
  Files.isAbsolute path || ["", ".", ".."].contains ((Files.parts path).headD "")

/-- Goes to a directory, which is looked for if it is only named. It is told whether the new path is to
be written. -/
def goTo (follows tells : Bool) (target : String) : Action Nat := do
  let extended ← isExtended
  let tell (isWanted : Bool) : Action Nat := do
    let path ← workingPath
    if !isWanted then pure 0
    else answer ((if extended && tells then target else path) ++ "\n")
  let given ← parameter "CDPATH"
  let places := if isFixedPath target then [] else Files.directoriesOf given
  let searched ← if places = [""] then pure none else tryDirectories follows target places
  match searched with
  | some isElsewhere => tell (tells || isElsewhere)
  | none => do
      match ← tryDirectory follows (if target.isEmpty then "." else target) with
      | none => tell tells
      | some fault => do
          let value ← parameter? target
          let isNamed ← hasOption "cdable_vars"
          match if isNamed then value else none with
          | some path => do
              match ← tryDirectory follows path with
              | none => answer (path ++ "\n")
              | some _ => refuse fault
          | none => refuse fault
where
  /-- The directory cannot be entered. -/
  refuse (fault : Fault) : Action Nat := do
    if ← isExtended then do
      protest (target ++ ": " ++ fault.reason)
      pure 1
    else do
      protest ("can't cd to " ++ target)
      pure 2

/-- Goes to the directory that the arguments lead to. -/
def runCd (arguments : List String) : Action Nat :=
  withLeading "cd" "LP" "LPe" arguments fun options rest => do
    let extended ← isExtended
    let isUsual := (← process).options.isOn "physical"
    let follows := (options.reverse.find? fun letter => letter != 'e').elim isUsual (· = 'P')
    let refuse (message : String) : Action Nat := do
      protest message
      pure 1
    match rest with
    | [] => do
        match ← parameter? "HOME" with
        | some home => goTo follows false home
        | none => if extended then refuse "HOME not set" else goTo follows false ""
    | first :: others =>
        if extended && !others.isEmpty then refuse "too many arguments"
        else if first = "-" then do
          match ← parameter? "OLDPWD" with
          | some path => goTo follows true path
          | none => if extended then refuse "OLDPWD not set" else goTo follows true ""
        else goTo follows false first

/-- Writes the path of the working directory, with the links on it or without. -/
def runPwd (arguments : List String) : Action Nat :=
  withLeading "pwd" "LP" "LP" arguments fun options _ => do
    let process ← process
    let follows := options.getLast?.elim (process.options.isOn "physical") (· = 'P')
    let path ← workingPath
    answer ((if follows then pathOfPlace process.working else path) ++ "\n")

/-! ## Directories to go back to -/

/-- The working directory and the directories to go back to. -/
def allPlaces : Action (List String) := do
  pure ((← workingPath) :: (← process).places)

/-- Writes the working directory and the directories to go back to. -/
def answerPlaces : Action Nat := do
  let home ← parameter "HOME"
  answer (String.intercalate " " ((← allPlaces).map (withTilde home)) ++ "\n")

/-- An argument of a command about directories: a place counted from the left or from the right, an
option, or something else. -/
inductive PlaceArgument where
  | place (number : Nat)
  /-- The number is that of no place. -/
  | beyond
  /-- There is no number behind the sign. -/
  | invalid
  | option (letter : Char)
  | other
deriving DecidableEq

/-- What an argument is, if there are so many places. -/
def placeArgument (count : Nat) (text : String) : PlaceArgument :=
  let number (digits : List Char) : Option Nat := (String.ofList digits).toNat?
  match text.toList with
  | '+' :: digits => match number digits with
    | some number => if number < count then .place number else .beyond
    | none => .invalid
  | ['-', letter] =>
      if letter.isDigit then
        let number := letter.toNat - '0'.toNat
        if number < count then .place (count - 1 - number) else .beyond
      else .option letter
  | '-' :: first :: digits => match number (first :: digits) with
    | some number => if number < count then .place (count - 1 - number) else .beyond
    | none => .invalid
  | _ => .other

/-- A place is asked for that there is not. -/
def refusePlace (command text : String) : Action Nat := do
  let isEmpty := (← process).places.isEmpty && command != "dirs"
  protest ((if isEmpty then "directory stack empty"
    else text ++ ": directory stack index out of range"))
  pure 1

/-- A command about directories is used in a wrong way. -/
def refuseWith (message : String) (status : Nat) : Action Nat := do
  protest message
  pure status

/-- Writes the directories to go back to, or forgets them. -/
def runPlaces (arguments : List String) : Action Nat := do
  let paths ← allPlaces
  let known := arguments.map fun text => (text, placeArgument paths.length text)
  let bad := known.find? fun row => match row.2 with
    | .place _ | .beyond => false
    | .option letter => !(['c', 'l', 'p', 'v'].contains letter)
    | _ => true
  let asks (letter : Char) : Bool := known.any fun row => row.2 = .option letter
  let home ← parameter "HOME"
  let shown := if asks 'l' then paths else paths.map (withTilde home)
  let numbered (index : Nat) (path : String) : String :=
    (if index < 10 then " " else "") ++ toString index ++ "  " ++ path
  match bad with
  | some (text, _) => refuseWith (text ++ ": invalid option") 2
  | none =>
      if asks 'c' then do
        modifyProcess fun process => { process with places := [] }
        pure 0
      else match known.reverse.find? fun row => match row.2 with
          | .place _ | .beyond => true
          | _ => false with
      | some (_, .place number) =>
          let path := (shown[number]?).getD ""
          answer ((if asks 'v' then numbered number path else path) ++ "\n")
      | some (text, _) => refusePlace "dirs" text
      | none =>
          if asks 'v' then
            answer (String.join (shown.mapIdx fun index path => numbered index path ++ "\n"))
          else if asks 'p' then answer (String.join (shown.map (· ++ "\n")))
          else answer (String.intercalate " " shown ++ "\n")

/-- Keeps directories to go back to, and goes to a directory of which it is told whether it is another
one. All of them are written then. -/
def keepPlaces (goes : Bool) (target : String) (places : List String) : Action Nat := do
  let status ← if goes then goTo false false target else pure 0
  if status != 0 then pure 1
  else do
    modifyProcess fun process => { process with places }
    answerPlaces

/-- Goes to another directory, and remembers this one. Without arguments the two last ones are
exchanged, and with a number the directories are turned. -/
def pushPlace (goes : Bool) : List String → Action Nat
  | [] => pure 0
  | text :: rest => do
      let all ← allPlaces
      match placeArgument all.length text with
      | .option 'n' => pushPlace false rest
      | .option '-' => pushNamed rest
      | .place number => do
          let turned := all.drop number ++ all.take number
          if !goes then
            modifyProcess fun process => { process with places := turned.tail }
            pure 0
          else keepPlaces true (turned.headD "") turned.tail
      | .beyond => refusePlace "pushd" text
      | .invalid =>
          let message := if text.toList.head? = some '+' then ": invalid number"
            else ": invalid option"
          refuseWith (text ++ message) (if text.toList.head? = some '+' then 1 else 2)
      | .option _ => refuseWith (text ++ ": invalid option") 2
      | .other => pushNamed (text :: rest)
where
  /-- Goes to the directory that is named. -/
  pushNamed (texts : List String) : Action Nat := do
    let { places, .. } ← process
    let path ← workingPath
    match texts with
    | [] => pure 0
    | [text] =>
        if !goes then keepPlaces false "" (text :: places)
        else if text = "-" then do
          match ← parameter? "OLDPWD" with
          | some target => do
              let status ← goTo false true target
              if status != 0 then pure 1 else keepPlaces false "" (path :: places)
          | none => refuseWith "OLDPWD not set" 1
        else keepPlaces true text (path :: places)
    | text :: _ =>
        if goes then refuseWith "too many arguments" 1
        else keepPlaces false "" (text :: places)

/-- Goes to another directory, and remembers this one. -/
def runPush (arguments : List String) : Action Nat := do
  let { places, .. } ← process
  match arguments, places with
  | [], [] => refuseWith "no other directory" 1
  | [], place :: others => do
      let path ← workingPath
      keepPlaces true place (path :: others)
  | _, _ => pushPlace true arguments

/-- Goes back to the last directory that has been remembered, or forgets another one. -/
def runPop (arguments : List String) : Action Nat := do
  let { places, .. } ← process
  let known := arguments.map fun text => (text, placeArgument (places.length + 1) text)
  let bad := known.find? fun row => match row.2 with
    | .place _ | .beyond | .option 'n' | .option '-' => false
    | .other => row.1 != ""
    | _ => true
  let goes := !known.any fun row => row.2 = .option 'n'
  let wanted := known.reverse.find? fun row => match row.2 with
    | .place _ | .beyond => true
    | _ => false
  match bad, wanted, places with
  | some (text, _), _, _ => refuseWith (text ++ ": invalid argument") 2
  | none, some (text, .beyond), _ => refusePlace "popd" text
  | none, _, [] => refusePlace "popd" ""
  | none, some (_, .place (number + 1)), _ => keepPlaces false "" (places.eraseIdx number)
  | none, _, place :: others => keepPlaces goes place others

end StaticMulticast.Host.Shell
