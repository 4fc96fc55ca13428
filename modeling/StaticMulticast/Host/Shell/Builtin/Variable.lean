import StaticMulticast.Host.Shell.Builtin.Synopsis
import StaticMulticast.Host.Shell.Command
import StaticMulticast.Host.Shell.Redirect
import StaticMulticast.Text.Decimal
import StaticMulticast.Text.Fraction

/-!
# Commands about variables

The commands that declare, change and remove variables, and those that read into them. They are
given their arguments, and come to a status.
-/

namespace StaticMulticast.Host.Shell

open Action

/-- A command is used in a wrong way. -/
def misuse (message : String) : Action Nat := do
  protest message
  if ← isExtended then pure 1 else throw (.fails 2)

/-- Tells how a command of the extended language is used. -/
def tellUse (command : String) : Action Unit := do
  (synopsisOf? command).forM fun text => complainBriefly (command ++ ": usage: " ++ text)

/-- A command has an option that it does not know. -/
def refuseOption (command : String) (option : String) : Action Nat := do
  if ← isExtended then do
    protest (option ++ ": invalid option")
    tellUse command
    pure 2
  else do
    protest ("Illegal option " ++ option)
    throw (.fails 2)

/-- The number that an argument is. Only the extended language knows numbers below zero. -/
def number? (isExtended : Bool) (argument : String) : Option Int :=
  let text := Text.Decimal.withoutBlanks argument.toList
  let number := Text.Decimal.signed64? text
  if isExtended then number
  else number.filter fun number => 0 ≤ number && number ≤ 0x7FFFFFFF

/-- A name and the value after an equals sign, and whether the value is added. The name can have a place
in brackets, between which other equals signs can stand. -/
def nameAndValue (argument : String) : String × Option String × Bool :=
  let (front, rest) := argument.toList.span (· != '=')
  let (name, rest) := if front.contains '[' && !front.contains ']' then
      let (inside, after) := rest.span (· != ']')
      let (joint, rest) := after.span (· != '=')
      (front ++ inside ++ joint, rest)
    else (front, rest)
  match rest with
  | [] => (argument, none, false)
  | _ :: value =>
      let value := String.ofList value
      match name.getLast? with
      | some '+' => (String.ofList name.dropLast, some value, true)
      | _ => (String.ofList name, some value, false)

/-- Arguments with what the places in lists come to that they name: of all of them, or of those behind
`-v`. -/
def withPlaces (again : Runner) (ofAll : Bool) : List String → Action (List String)
  | [] => pure []
  | argument :: rest => do
      let others ← withPlaces again ofAll rest
      let first ← if ofAll then Expansion.targetWithin again argument else pure argument
      match first, others with
      | "-v", target :: others => do pure (first :: (← Expansion.targetWithin again target) :: others)
      | _, _ => pure (first :: others)

/-- The options at the front of arguments, as letters, and the other arguments. -/
def leadingOptions : List String → List Char × List String
  | [] => ([], [])
  | argument :: rest =>
      match argument.toList with
      | ['-', '-'] => ([], rest)
      | '-' :: first :: letters =>
          let (others, rest) := leadingOptions rest
          (first :: letters ++ others, rest)
      | _ => ([], argument :: rest)

/-- Reads the options at the front of arguments and goes on with them, if the command knows them in
the language of the shell. -/
def withLeading (command plain extended : String) (arguments : List String)
    (body : List Char → List String → Action Nat) : Action Nat := do
  let (options, rest) := leadingOptions arguments
  let known := (if ← isExtended then extended else plain).toList
  match options.find? fun letter => !known.contains letter with
  | none => body options rest
  | some letter => refuseOption command ("-" ++ String.singleton letter)

/-- Changes what is known about the variable of a name, whether it has a value or not. -/
def modifyBinding (name : String) (change : Binding → Binding) : Action Unit := do
  let binding := (← binding? name).getD { value := .absent }
  setBinding name (some (change binding))

/-- Gives a variable the value of an argument. -/
def assignArgument (name : String) (value : Option String) (adds : Bool) : Action Unit := do
  match value with
  | none => pure ()
  | some value => do
      let held ← if adds then parameter name else pure ""
      setText name (held ++ value)

/-! ## Declarations -/

/-- Writes variables in a form that can be read again, behind the name of a command. -/
def listBindings (front : String) (isWanted : Binding → Bool) : Action Nat := do
  let extended ← isExtended
  let wanted := (← process).bindings.filter fun (_, binding) => isWanted binding
  let lines := wanted.filterMap fun (name, binding) =>
    if extended && !front.isEmpty then some (declaration name binding ++ "\n")
    else match binding.value with
    | .absent => if front.isEmpty then none else some (front ++ name ++ "\n")
    | .single text => some (front ++ name ++ "=" ++ shownValue extended text ++ "\n")
    | value => some (name ++ declaredValue value ++ "\n")
  answer (String.join (sortTexts lines))

/-- A declaration of a function by its name, with its letters. -/
def functionMark (process : Process) (name : String) : String :=
  "declare -f" ++ (if process.fixedFunctions.contains name then "r" else "") ++
    (if process.sharedFunctions.contains name then "x" else "") ++ " " ++ name ++ "\n"

/-- The functions as they are written down, in the order of their names. -/
def allFunctions (functions : List (String × Command)) : String :=
  String.join ((sortTexts (functions.map (·.1))).filterMap fun name =>
    (functions.lookup name).map fun body => functionText name body ++ "\n")

/-- Marks functions, takes a mark from them, or tells which ones are marked. -/
def markFunctions (command : String) (options : List Char) (names : List String) : Action Nat := do
  let process ← process
  let isShared := command = "export"
  let marked := if isShared then process.sharedFunctions else process.fixedFunctions
  if names.isEmpty || options.contains 'p' then do
    let functions := process.functions.filter fun function => marked.contains function.1
    answer (String.join ((sortTexts (functions.map (·.1))).map fun name =>
      ((functions.lookup name).map fun body => functionText name body ++ "\n").getD "" ++
        functionMark process name))
  else do
    let known := names.filter fun name => (process.functions.lookup name).isSome
    let others := marked.filter fun name => !known.contains name
    let marked := if options.contains 'n' && isShared then others else known ++ others
    modifyProcess fun process =>
      if isShared then { process with sharedFunctions := marked }
      else { process with fixedFunctions := marked }
    (names.filter fun name => !known.contains name).forM fun name =>
      protest (name ++ ": not a function")
    pure (if known.length = names.length then 0 else 1)

/-- Declares that programs can see variables, or that variables cannot be changed. -/
def runMark (command : String) (mark : Binding → Binding) (isMarked : Binding → Bool)
    (clear : Binding → Binding) (arguments : List String) : Action Nat :=
  withLeading command "p" "nfpaA" arguments fun options arguments => do
    if options.contains 'f' then markFunctions command options arguments
    else if arguments.isEmpty then listBindings (command ++ " ") isMarked
    else do
      let results ← arguments.mapM fun argument => do
        let (name, value, adds) := nameAndValue argument
        if !isName name.toList then
          misuse (if ← isExtended then
              inOldQuotes argument ++ ": not a valid identifier"
            else name ++ ": bad variable name")
        else do
          if options.contains 'A' then
            modifyBinding name fun binding => { binding with value := .table [] }
          if ← tryChange (assignArgument name value adds) then do
            modifyBinding name (if options.contains 'n' then clear else mark)
            pure 0
          else pure 1
      pure (results.foldl max 0)

/-- Declares that programs can see variables. -/
def runExport (arguments : List String) : Action Nat :=
  runMark "export" (fun binding => { binding with isExported := true }) Binding.isExported
    (fun binding => { binding with isExported := false }) arguments

/-- Declares that variables cannot be changed. -/
def runReadonly (arguments : List String) : Action Nat :=
  runMark "readonly" (fun binding => { binding with isFixed := true }) Binding.isFixed id arguments

/-- The options of a declaration: those that it turns on, and those that it turns off. -/
structure Attributes where
  on : List Char := []
  off : List Char := []

/-- Reads the options in front of the arguments of a declaration. -/
def readAttributes (attributes : Attributes) : List String → Attributes × List String
  | [] => (attributes, [])
  | argument :: rest =>
      match argument.toList with
      | ['-', '-'] => (attributes, rest)
      | '-' :: first :: letters =>
          readAttributes { attributes with on := attributes.on ++ first :: letters } rest
      | '+' :: first :: letters =>
          readAttributes { attributes with off := attributes.off ++ first :: letters } rest
      | _ => (attributes, argument :: rest)

/-- Writes declarations of variables. -/
def writeDeclarations (names : List String) : Action Nat := do
  let statuses ← names.mapM fun name => do
    match ← ownBinding? name with
    | some binding => answer (declaration name binding ++ "\n")
    | none =>
        match ← Expansion.keptList? name with
        | some texts =>
            let value := Value.list ((List.range texts.length).zip texts)
            answer (declaration name { value } ++ "\n")
        | none => do
            protest (name ++ ": not found")
            pure 1
  pure (statuses.foldl max 0)

/-- The value of a variable after options for its kind. -/
def valueOfKind (options : List Char) (value : Value) : Value :=
  match options.contains 'A', options.contains 'a', value with
  | true, _, .table members => .table members
  | true, _, .single text => .table [("0", text)]
  | true, _, _ => .table []
  | _, true, .table members => .table members
  | _, true, value => .list value.members
  | _, _, value => value

/-- A variable with options turned on and off. -/
def withAttributes (attributes : Attributes) (binding : Binding) : Binding :=
  let choose (letter : Char) (held : Bool) : Bool :=
    (held || attributes.on.contains letter) && !attributes.off.contains letter
  let casings := attributes.on.filterMap fun letter => match letter with
    | 'u' => some Casing.upper
    | 'l' => some Casing.lower
    | 'c' => some Casing.capital
    | _ => none
  let makesList := attributes.on.contains 'a' || attributes.on.contains 'A'
  { binding with
    isNumber := choose 'i' binding.isNumber
    isMarked := choose 't' binding.isMarked
    casing := match casings with
      | [casing] => some casing
      | [] => binding.casing.filter fun casing =>
          !attributes.off.contains (match casing with
            | .upper => 'u'
            | .lower => 'l'
            | .capital => 'c')
      | _ => none
    isBare := binding.isBare || (makesList && binding.value = .absent)
    value := valueOfKind attributes.on binding.value }

/-- Declares that a name stands for another one, which must be the name of a variable. -/
def declareReference (name : String) (target : Option String) : Action Nat := do
  let own ← ownBinding? name
  let isList := own.any fun binding => match binding.value with
    | .list _ | .table _ => true
    | _ => false
  let calls := (← process).calls
  if isList then misuse (name ++ ": reference variable cannot be an array")
  else if target = some "" then
    misuse (inOldQuotes "" ++ ": not a valid identifier")
  else if target = some name && calls = 0 then
    misuse (name ++ ": nameref variable self references not allowed")
  else if target.any fun target => !isTarget true target then
    misuse (inOldQuotes (target.getD "") ++
      ": invalid variable name for name reference")
  else do
    let held := (own.bind fun binding => binding.value.text?).getD ""
    setOwnBinding name (some { value := .single (target.getD held), isReference := true })
    pure 0

/-- Lets the options be as they are now when the current call ends. -/
def keepOptions : Action Nat := do
  modifyProcess fun process =>
    { process with optionsOfCall := some (process.optionsOfCall.getD process.options) }
  pure 0

/-- What stands in the way of a declaration of a variable that is there. -/
def obstacle? (attributes : Attributes) (isAssigned : Bool) (binding : Binding) : Option String :=
  let isOn (letter : Char) : Bool := attributes.on.contains letter
  let isOff (letter : Char) : Bool := attributes.off.contains letter
  if binding.isFixed && (isAssigned || isOff 'r') then some "readonly variable"
  else match binding.value with
  | .list _ =>
      if isOn 'A' then some "cannot convert indexed to associative array"
      else if isOff 'a' then some "cannot destroy array variables in this way"
      else none
  | .table _ =>
      if isOn 'a' then some "cannot convert associative to indexed array"
      else if isOff 'A' then some "cannot destroy array variables in this way"
      else none
  | _ => none

/-- The members of a list that is written in a text. -/
def writtenMembers? (text : String) : Option (List (Option Word × Word)) :=
  let bound := readingBound text.toList
  match text.toList with
  | '(' :: rest =>
      match (readMembers (inner .extended bound) bound []).run { rest } with
      | some (members, source) =>
          if source.rest.isEmpty then some (members.map (·.1)) else none
      | none => none
  | _ => none

/-- Gives a variable, or a member of it, the value of a declaration. -/
def assignDeclared (again : Runner) (name : String) (place : Option String) (adds : Bool)
    (text : String) : Action Unit := do
  let binding ← binding? name
  let isNumber := binding.any Binding.isNumber
  let isList := binding.any fun binding => match binding.value with
    | .list _ | .table _ => true
    | _ => false
  match place, if isList then writtenMembers? text else none with
  | some place, _ => assignMember name (Expansion.withoutQuotes place) adds text
  | none, some members => do assignList name adds (← memberTexts again members)
  | none, none => do
      let held ← if adds then parameter name else pure ""
      setText name (← added isNumber adds held text)

/-- Does something to the variable of a name that is seen outside of all calls. -/
def atOutermost {Result : Type} (name : String) (body : Action Result) : Action Result := do
  let hidden := (← process).hidden
  if hidden.all fun call => (call.lookup name).isNone then body
  else do
    let own ← ownBinding? name
    setOwnBinding name ((hidden.reverse.findSome? fun call => call.lookup name).bind id)
    let result ← attempt body
    let changed ← ownBinding? name
    setOwnBinding name own
    modifyProcess fun process =>
      { process with hidden := (putHidden name changed process.hidden.reverse).reverse }
    match result with
    | .ok result => pure result
    | .error jump => throw jump

/-- Makes a variable one of the current call, unless it is one already. It is exported if the one that
it hides is. -/
def makeLocal (attributes : Attributes) (name : String) : Action Unit := do
  let isThere := ((← process).hidden.headD []).any fun held => held.1 = name
  if !isThere then
    let own ← ownBinding? name
    let inherits := attributes.on.contains 'I' || (← hasOption "localvar_inherit")
    hide name
    setOwnBinding name (if inherits then own
      else (own.filter Binding.isExported).map fun _ => { value := .absent, isExported := true })

/-- Declares a variable of several kinds. -/
def declare (again : Runner) (attributes : Attributes) (isLocal : Bool)
    (argument : String) : Action Nat := do
  let (target, value, adds) := nameAndValue argument
  let (name, place) := targetOf target
  let isThere := ((← process).hidden.headD []).any fun held => held.1 = name
  let isReference := attributes.on.contains 'n' || attributes.off.contains 'n'
  let known ← if isReference then ownBinding? name else binding? name
  let isFixed := known.any Binding.isFixed
  let obstacle := if isLocal && !isThere then
      if isFixed then some "readonly variable" else none
    else known.bind (obstacle? attributes value.isSome)
  if argument = "-" && isLocal then keepOptions
  else if !isTarget true target then
    misuse (inOldQuotes argument ++ ": not a valid identifier")
  else match obstacle with
  | some text => misuse (name ++ ": " ++ text)
  | none => do
      if isLocal then makeLocal attributes name
      if attributes.on.contains 'n' then declareReference name value
      else if attributes.off.contains 'n' then do
        match ← ownBinding? name with
        | some binding => setOwnBinding name (some { binding with isReference := false })
        | none => pure ()
        pure 0
      else do
        let makesList := place.isSome && !attributes.on.contains 'A'
        modifyBinding name (withAttributes
          (if makesList then { attributes with on := 'a' :: attributes.on } else attributes))
        value.forM (assignDeclared again name place adds)
        modifyBinding name fun binding =>
          { binding with
            isExported := (binding.isExported || attributes.on.contains 'x') &&
              !attributes.off.contains 'x'
            isFixed := binding.isFixed || attributes.on.contains 'r' }
        pure 0

/-- Tells about functions: they are written down, or only their names, and all of them must be there.
Functions that are named can get marks instead. -/
def tellFunctions (attributes : Attributes) (names : List String) : Action Nat := do
  let process ← process
  let functions := process.functions
  let all := sortTexts (functions.map (·.1))
  let text (name : String) : String :=
    ((functions.lookup name).map fun body => functionText name body ++ "\n").getD ""
  let marks := attributes.on.filter fun letter => letter = 'x' || letter = 'r'
  let isBrief := attributes.on.contains 'F'
  let isFull := attributes.on.contains 'p'
  if names.isEmpty then
    let wanted := all.filter fun name =>
      (!marks.contains 'x' || process.sharedFunctions.contains name) &&
        (!marks.contains 'r' || process.fixedFunctions.contains name)
    answer (String.join (wanted.map fun name =>
      if isBrief then functionMark process name
      else if marks.isEmpty && !isFull then text name
      else text name ++ functionMark process name))
  else if !marks.isEmpty && !isFull then do
    let first ← if marks.contains 'x' then markFunctions "export" [] names else pure 0
    let second ← if marks.contains 'r' then markFunctions "readonly" [] names else pure 0
    pure (max first second)
  else do
    let known := names.filter all.contains
    let written ← answer (String.join (known.map fun name =>
      if isBrief then name ++ "\n"
      else if isFull then text name ++ functionMark process name
      else text name))
    pure (if known.length = names.length then written else 1)

/-- Writes declarations of the variables of the current call. -/
def listLocals : Action Nat := do
  let names := sortTexts (((← process).hidden.headD []).map fun held => held.1)
  let lines ← names.mapM fun name => do
    pure (((← ownBinding? name).map fun binding => declaration name binding ++ "\n").getD "")
  answer (String.join lines)

/-- Declares variables of several kinds. In a call, they are variables of the call. -/
def runDeclare (again : Runner) (command : String) (arguments : List String) : Action Nat := do
  let (attributes, names) := readAttributes { } arguments
  let known := "aAcfFgiIlnrtuxp".toList
  match (attributes.on ++ attributes.off).find? fun letter => !known.contains letter with
  | some letter => do
      let sign := if attributes.on.contains letter then "-" else "+"
      protest (sign ++ String.singleton letter ++ ": invalid option")
      tellUse command
      pure 2
  | none =>
      if attributes.on.contains 'f' || attributes.on.contains 'F' then
        tellFunctions attributes names
      else if names.isEmpty && command = "local" then listLocals
      else if names.isEmpty then
        let letters := attributes.on.filter fun letter => "aAinrxlut".toList.contains letter
        let isWanted (binding : Binding) : Bool :=
          letters.all fun letter => (attributeLetters binding).toList.contains letter
        listBindings (if arguments.isEmpty then "" else "declare ") isWanted
      else if attributes.on.contains 'p' then writeDeclarations names
      else do
        let isCalled := 0 < (← process).calls
        let isLocal := isCalled && (command = "local" || !attributes.on.contains 'g')
        let statuses ← names.mapM fun name => do
          let body := declare again attributes isLocal name
          if isLocal || !isCalled then body
          else atOutermost (targetOf (nameAndValue name).1).1 body
        pure (statuses.foldl max 0)

/-- Declares a variable of a call in the plain language, where it keeps its value. -/
def declareLocal (argument : String) : Action Nat := do
  let (name, value, adds) := nameAndValue argument
  if argument = "-" then keepOptions
  else if !isName name.toList then misuse (name ++ ": bad variable name")
  else if (← binding? name).any Binding.isFixed then misuse (name ++ ": is read only")
  else do
    hide name
    assignArgument name value adds
    pure 0

/-- Declares variables of a call. -/
def runLocal (again : Runner) (arguments : List String) : Action Nat := do
  if (← process).calls = 0 then
    misuse (if ← isExtended then "can only be used in a function" else "not in a function")
  else if ← isExtended then
    runDeclare again "local" arguments
  else do
    let statuses ← arguments.mapM declareLocal
    pure (statuses.foldl max 0)

/-- Removes the members of a list at a place. -/
def removeMember (name place : String) : Action Nat := do
  match ← binding? name with
  | some { value := .list members, isFixed, .. } => do
      if isFixed then misuse (name ++ ": cannot unset: readonly variable")
      else if place = "@" || place = "*" then do
        setValue name (.list [])
        pure 0
      else do
        let number ← Expansion.placeOf place
        let meant := if number < 0 then number + Value.nextPlace members else number
        if meant < 0 then misuse ("[" ++ place ++ "]: bad array subscript")
        else do
          setValue name (.list (members.filter fun member => Int.ofNat member.1 != meant))
          pure 0
  | some { value := .table members, isFixed, .. } => do
      if isFixed then misuse (name ++ ": cannot unset: readonly variable")
      else do
        setValue name (.table (members.filter fun member => member.1 != place))
        pure 0
  | some { value := .single _, .. } => do
      if (← Expansion.placeOf place) = 0 then do
        let _ ← removeBinding name
        pure 0
      else misuse (name ++ ": not an array variable")
  | _ => pure 0

/-- Removes a variable or a function. -/
def unsetName (options : List Char) (argument : String) : Action Nat := do
  let extended ← isExtended
  let isFunction := (← process).functions.any fun function => function.1 = argument
  let isVariable := (← ownBinding? argument).isSome
  let (name, subscript) := argument.toList.span (· != '[')
  if options.contains 'f' ||
      (!options.contains 'v' && !isVariable && isFunction && extended) then do
    if (← process).fixedFunctions.contains argument then
      return ← misuse (argument ++ ": cannot unset: readonly function")
    modifyProcess fun process =>
      { process with
        functions := process.functions.filter fun function => function.1 != argument }
    pure 0
  else if !subscript.isEmpty && extended then do
    if isTarget true argument then
      removeMember (String.ofList name) (String.ofList subscript.tail.dropLast)
    else pure 0
  else if !isName argument.toList then
    if extended then pure 0 else misuse (argument ++ ": bad variable name")
  else if options.contains 'n' then do
    setOwnBinding argument none
    pure 0
  else if ← removeBinding argument then pure 0
  else misuse (argument ++ (if extended then ": cannot unset: readonly variable" else ": is read only"))

/-- Removes variables or functions. -/
def runUnset (arguments : List String) : Action Nat :=
  withLeading "unset" "fv" "fvn" arguments fun options names => do
    if options.contains 'f' && options.contains 'v' && (← isExtended) then pure 1
    else do
      let statuses ← names.mapM (unsetName options)
      pure (statuses.foldl max 0)

/-! ## Arguments -/

/-- Drops the first arguments of the script. -/
def runShift (arguments : List String) : Action Nat := do
  let extended ← isExtended
  let count := match arguments with
    | [] => some 1
    | argument :: _ => number? extended argument
  let held := (← process).arguments
  let argument := arguments.headD ""
  match count with
  | some count =>
      if count < 0 then misuse (argument ++ ": shift count out of range")
      else if held.length < count then do
        if !extended then misuse "can't shift that many"
        else do
          if ← hasOption "shift_verbose" then protest (argument ++ ": shift count out of range")
          pure 1
      else do
        modifyProcess fun process => { process with arguments := held.drop count.toNat }
        pure 0
  | none =>
      misuse (if extended then argument ++ ": numeric argument required"
        else "Illegal number: " ++ argument)

/-- The status that follows from the result of a calculation. -/
def statusOfResult (result : Option Int) : Nat :=
  if result.any (· ≠ 0) then 0 else 1

/-- Does calculations, up to the first that cannot be done. -/
def runLet (again : Runner) : List String → Action Nat
  | [] => misuse "expression expected"
  | text :: rest => do
      let result ← Expansion.tried (Expansion.calculateWithin again text)
      if rest.isEmpty || result.isNone then pure (statusOfResult result) else runLet again rest

/-! ## Options of a script -/

/-- Tells that an option of a script is not known, or that nothing follows it. In the extended language a
variable can turn this off. -/
def tellOption (letter : Char) (isKnown : Bool) : Action Unit := do
  let option := String.singleton letter
  if ← isExtended then do
    if (← parameter? "OPTERR") != some "0" then
      complainBriefly ((← process).name ++
        (if isKnown then ": option requires an argument -- " else ": illegal option -- ") ++ option)
  else if isKnown then complainBriefly ("No arg for -" ++ option ++ " option")
  else complainBriefly ("Illegal option -" ++ option)

/-- Reads the next option of the arguments of a script. -/
def readNextOption (arguments : List String) : Action Nat := do
  match arguments with
  | letters :: name :: given => do
      let process ← process
      let words := if given.isEmpty then process.arguments else given
      let position := ((← parameter "OPTIND").toNat?).getD 1
      let offset := if position = 1 && process.optionOffset = 0 then 1 else process.optionOffset
      let word := (words.drop (position - 1)).headD ""
      let isSilent := letters.toList.head? = some ':'
      let finish (position offset : Nat) : Action Unit := do
        let _ ← tryChange (setText "OPTIND" (toString position))
        modifyProcess fun process => { process with optionOffset := offset }
      let stop (position : Nat) : Action Nat := do
        finish position 0
        setText name "?"
        setBinding "OPTARG" none
        pure 1
      match word.toList with
      | ['-'] => stop position
      | ['-', '-'] => stop (position + 1)
      | '-' :: _ => do
          let offset := if offset = 0 then 1 else offset
          let letter := (word.toList.drop offset).headD '-'
          let rest := word.toList.drop (offset + 1)
          let (nextPosition, nextOffset) :=
            if rest.isEmpty then (position + 1, 0) else (position, offset + 1)
          let (_, found) := letters.toList.span (· != letter)
          if found.isEmpty || letter = ':' then do
            finish nextPosition nextOffset
            setText name "?"
            if isSilent then setText "OPTARG" (String.singleton letter)
            else do
              setBinding "OPTARG" none
              tellOption letter false
            pure 0
          else if found.tail.head? = some ':' then
            if !rest.isEmpty then do
              finish (position + 1) 0
              setText name (String.singleton letter)
              setText "OPTARG" (String.ofList rest)
              pure 0
            else match words[position]? with
            | some value => do
                finish (position + 2) 0
                setText name (String.singleton letter)
                setText "OPTARG" value
                pure 0
            | none => do
                finish (position + 1) 0
                if isSilent then do
                  setText name ":"
                  setText "OPTARG" (String.singleton letter)
                else do
                  setText name "?"
                  setBinding "OPTARG" none
                  tellOption letter true
                pure 0
          else do
            finish nextPosition nextOffset
            setText name (String.singleton letter)
            setBinding "OPTARG" none
            pure 0
      | _ => stop position
  | _ => do
      if ← isExtended then tellUse "getopts" else protest "Usage: getopts optstring var [arg...]"
      pure 2

/-- Reads the next option of the arguments of a script, unless the variable for it cannot be changed. -/
def runGetopts (arguments : List String) : Action Nat := do
  match arguments, ← isExtended with
  | _ :: name :: _, true =>
      match ← attempt (readNextOption arguments) with
      | .error (.abandons _) => pure 2
      | .error jump => throw jump
      | .ok status =>
          if isName name.toList then pure status
          else do
            setBinding name none
            misuse (inOldQuotes name ++ ": not a valid identifier")
  | _, _ => readNextOption arguments

/-! ## Reading -/

/-- The characters of a line after backslashes have been looked at: each with the note whether it is
quoted. A backslash at the end of the line continues it. -/
def readLetters (raw : Bool) : List Char → List (Char × Bool) × Bool
  | [] => ([], false)
  | ['\\'] => if raw then ([('\\', false)], false) else ([], true)
  | '\\' :: next :: rest =>
      if raw then
        let (letters, continues) := readLetters raw (next :: rest)
        (('\\', false) :: letters, continues)
      else
        let (letters, continues) := readLetters raw rest
        ((next, true) :: letters, continues)
  | character :: rest =>
      let (letters, continues) := readLetters raw rest
      ((character, false) :: letters, continues)

/-- Letters without the blank separators at their end. -/
def withoutBlanks (separators : Separators) (letters : List (Char × Bool)) : List (Char × Bool) :=
  (letters.reverse.dropWhile fun (character, quoted) =>
    !quoted && separators.blank.contains character).reverse

/-- Cuts a line into one text for each of so many names; the last has all that remains. -/
def cutInput (separators : Separators) : Nat → List (Char × Bool) → List String
  | 0, _ => []
  | names + 1, letters =>
      let isBlank (letter : Char × Bool) : Bool :=
        !letter.2 && separators.blank.contains letter.1
      let isSeparator (letter : Char × Bool) : Bool :=
        !letter.2 && separators.all.contains letter.1
      let letters := letters.dropWhile isBlank
      let (first, rest) := letters.span fun letter => !isSeparator letter
      let after := rest.dropWhile isBlank
      let after := match after with
        | letter :: others => if isSeparator letter then others.dropWhile isBlank else after
        | [] => []
      let text (letters : List (Char × Bool)) : String := String.ofList (letters.map (·.1))
      if names = 0 then
        if after.isEmpty then [text first] else [text (withoutBlanks separators letters)]
      else text first :: cutInput separators names after

/-- What the options of `read` ask for. -/
structure ReadOptions where
  raw : Bool := false
  list : Option String := none
  descriptor : Nat := 0
  ending : UInt8 := 0xA
  count : Option Nat := none
  /-- The end of a line and separators have no meaning. -/
  isExact : Bool := false
  /-- The time after which nobody waits any more, in millionths of a second. -/
  patience : Option Nat := none
  /-- What is wrong with the text of an option. -/
  fault? : Option String := none

/-- Takes an option of `read` with its text. -/
def ReadOptions.take (options : ReadOptions) (letter : Char) (text : String) : ReadOptions :=
  let isNumber := (Text.Decimal.digits? text.toList).isSome
  let wrong (isWrong : Bool) (what : String) : Option String :=
    if options.fault?.isSome then options.fault?
    else if isWrong then some (text ++ ": " ++ what) else none
  let options := { options with fault? := match letter with
    | 'u' => wrong (!isNumber) "invalid file descriptor specification"
    | 'n' | 'N' => wrong (!isNumber) "invalid number"
    | 't' => wrong (Text.Fraction.read? text.toList).isNone "invalid timeout specification"
    | _ => options.fault? }
  match letter with
  | 'r' => { options with raw := true }
  | 'a' => { options with list := some text }
  | 'u' => { options with descriptor := text.toNat?.getD 0 }
  | 'd' => { options with
      ending := UInt8.ofNat ((text.toList.head?.map Char.toNat).getD 0) }
  | 'n' => { options with count := text.toNat? }
  | 'N' => { options with count := text.toNat?, isExact := true }
  | 't' => { options with
      patience := (Text.Fraction.read? text.toList).map fun result =>
        (result.1 * 1000000).floor.toNat }
  | _ => options

/-- Reads a line for `read`, with the lines that continue it, or so many letters if a number is given.
It is told whether the line has ended. The bound is on the number of lines. -/
def readInput (options : ReadOptions) (count : Option Nat) :
    Nat → Action (Except Fault (List (Char × Bool) × Bool))
  | 0 => pure (.ok ([], false))
  | bound + 1 => do
      let length (octets : List UInt8) : Nat :=
        let line := if options.isExact then octets.length
          else (octets.takeWhile (· != options.ending)).length + 1
        match count with
        | some count => min count line
        | none => line
      match ← readSome options.descriptor length with
      | .error fault => pure (.error fault)
      | .ok octets => do
          let ended := !options.isExact && octets.getLast? = some options.ending
          let octets := if ended then octets.dropLast else octets
          let text := (Text.Octets.ofList octets).toList.filter fun letter => letter.toNat != 0
          let (letters, continues) := readLetters options.raw text
          let missing := count.map fun count => count - letters.length
          let isShort := letters.length < text.length && missing.any (0 < ·) && !ended
          if (continues && ended) || (isShort && !octets.isEmpty) then do
            match ← readInput options missing bound with
            | .ok (rest, ended) => pure (.ok (letters ++ rest, ended))
            | .error fault => pure (.error fault)
          else pure (.ok (letters, ended))

/-- The options of `read` that have a text. -/
def readsText (isExtended : Bool) (letter : Char) : Bool :=
  if isExtended then ['a', 'd', 'i', 'n', 'N', 'p', 't', 'u'].contains letter else letter = 'p'

/-- The options of `read` without a text. -/
def isReadFlag (isExtended : Bool) (letter : Char) : Bool :=
  letter = 'r' || (isExtended && ['e', 's'].contains letter)

/-- Reads the letters of an argument as options of `read`. The text of the last one can be the next
argument. An option that is not known is told. -/
def readFlags (isExtended : Bool) (options : ReadOptions) :
    List Char → List String → Except Char (ReadOptions × List String)
  | [], rest => .ok (options, rest)
  | letter :: letters, rest =>
      if isReadFlag isExtended letter then
        readFlags isExtended (options.take letter "") letters rest
      else if !readsText isExtended letter then .error letter
      else if !letters.isEmpty then .ok (options.take letter (String.ofList letters), rest)
      else match rest with
        | text :: rest => .ok (options.take letter text, rest)
        | [] => .error letter

/-- The options of `read`, and its other arguments. The bound is on the number of arguments. -/
def readOptions (isExtended : Bool) (options : ReadOptions) :
    Nat → List String → Except Char (ReadOptions × List String)
  | 0, rest => .ok (options, rest)
  | _ + 1, [] => .ok (options, [])
  | bound + 1, argument :: rest =>
      match argument.toList with
      | ['-', '-'] => .ok (options, rest)
      | '-' :: letter :: letters => do
          let (options, rest) ← readFlags isExtended options (letter :: letters) rest
          readOptions isExtended options bound rest
      | _ => .ok (options, argument :: rest)

/-- Cuts a line into all its fields. The bound is on their number. -/
def cutAll (separators : Separators) : Nat → List (Char × Bool) → List String
  | 0, _ => []
  | bound + 1, letters =>
      match withoutBlanks separators (letters.dropWhile fun (character, quoted) =>
          !quoted && separators.blank.contains character) with
      | [] => []
      | letters =>
          match cutInput separators 2 letters with
          | first :: rest :: _ =>
              if rest.isEmpty then [first]
              else first :: cutAll separators bound (rest.toList.map fun letter => (letter, false))
          | texts => texts

/-- A text that names no variable is given where one is wanted. -/
def refuseName (name : String) : Action Nat := do
  misuse (if ← isExtended then inOldQuotes name ++ ": not a valid identifier"
    else name ++ ": bad variable name")

/-- Gives a variable or a member of a list a text, and tells whether it can be changed. -/
def assignTarget (target text : String) : Action Bool := do
  if !isTarget (← isExtended) target then do
    let _ ← refuseName target
    pure false
  else match targetOf target with
  | (name, none) => do
      let isNumber := (← binding? name).any Binding.isNumber
      let text ← added isNumber false "" text
      tryChange (setText name text)
  | (name, some place) => do
      assignMember name (Expansion.withoutQuotes place) false text
      pure true

/-- Gives variables their texts, up to the first that cannot be changed. -/
def assignTargets : List (String × String) → Action Bool
  | [] => pure true
  | (target, text) :: rest => do
      if ← assignTarget target text then assignTargets rest else pure false

/-- Gives variables the texts of a line, and tells whether they can be changed. -/
def assignLine (options : ReadOptions) (names : List String) (letters : List (Char × Bool)) :
    Action Bool := do
  let separators ← Expansion.separators
  let whole := String.ofList (letters.map fun letter => letter.1)
  match options.list with
  | some name => do
      let texts := cutAll separators (letters.length + 1) letters
      tryChange (setValue name (.list ((List.range texts.length).zip texts)))
  | none =>
      match names with
      | [] => tryChange (setText "REPLY" whole)
      | name :: others =>
          assignTargets (if options.isExact then (name, whole) :: others.map fun other => (other, "")
            else names.zip (cutInput separators names.length letters))

/-- The one who writes what is to be read has taken more time than the reader has. -/
def isTooLate (options : ReadOptions) : Action Bool := do
  let { clock, pipes, .. } ← world
  match options.patience, ← openFile? options.descriptor with
  | some patience, some (_, { stream := .pipe number, .. }) =>
      pure (patience != 0 && (pipes[number]?).any fun pipe =>
        pipe.held.isEmpty && pipe.start + patience < clock)
  | _, _ => pure false

/-- The status of a reader that does not wait any more. -/
def lateStatus : Nat := 142

/-- Reads a line into variables. -/
def runRead (again : Runner) (arguments : List String) : Action Nat := do
  let extended ← isExtended
  match readOptions extended { } arguments.length arguments with
  | .error letter => refuseOption "read" ("-" ++ String.singleton letter)
  | .ok (options, names) =>
      if names.isEmpty && !extended then misuse "arg count"
      else match options.fault?, names.head?.filter fun name => !isTarget extended name with
      | some message, _ => misuse message
      | none, some name => refuseName name
      | none, none => do
        fillPipe again options.descriptor
        let isLate ← isTooLate options
        match ← readInput options options.count 100000 with
        | .error fault => do
            if extended then
              protest (toString options.descriptor ++ ": invalid file descriptor: " ++
                fault.reason)
            pure 1
        | .ok (letters, ended) => do
            let isDone ← assignLine options names letters
            pure (if !isDone then 1
              else if ended || options.count.any (· ≤ letters.length) then 0
              else if isLate then lateStatus
              else 1)

end StaticMulticast.Host.Shell
