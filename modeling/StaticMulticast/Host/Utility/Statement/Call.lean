import StaticMulticast.Host.Utility.Statement.Tool

/-!
# Calls of functions of scripts of statements

A function has its arguments in a list of its own, and what it declares is new for each call. The
method of an object is the function of its package, or of one that the package builds on.
-/

namespace StaticMulticast.Host.Utility.Statement

/-! ## Functions -/

/-- The key of the arguments of the function that runs. -/
def argumentsKey : String := sharedKey .array "main::_"

/-- The package that a full name begins with. -/
def packageOfName (full : String) : String := (toolParts full).1

/-- Only the last value, if a single one is wanted. -/
def asWanted (wanted : Option Bool) (values : List Held) : List Held :=
  if wanted = some true then values
  else match values.getLast? with
    | some value => [value]
    | none => [.nothing]

/-- Does the statements of a function with arguments, and gives what it gives. -/
def runBody (inner : Actors) (name : String) (body : Nat) (slots : Option (List (Nat × Nat)))
    (arguments : List Nat) (wanted : Option Bool) : Actor (List Held) := do
  let before ← do
    let state ← get
    pure (state.slots, state.wanted, state.line, state.finding, state.undo.length)
  let (ownSlots, ownWanted, line, finding, size) := before
  let shown ← do pure ((← get).shared.lookup argumentsKey)
  let list ← addCell (.array arguments.toArray)
  setShared argumentsKey (some list)
  let package ← do pure (((← get).calls.head?.map fun call => packageOfName call.name).getD "main")
  modify fun state =>
    { state with
      slots := slots.getD state.slots
      wanted
      calls := ⟨if package.isEmpty then "main" else package, line, name, wanted⟩ :: state.calls }
  let deed ← do pure ((← get).script.bodies[body]?.getD .nothing)
  let result ← tryCatch (Except.ok <$> inner.finish wanted deed) fun stop =>
    pure (Except.error stop)
  comeBack size
  setShared argumentsKey shown
  modify fun state =>
    { state with
      slots := ownSlots
      wanted := ownWanted
      finding
      calls := state.calls.tail }
  match result with
  | .ok values | .error (.gives values) => do
      modify fun state => { state with line }
      pure (asWanted wanted values)
  | .error stop => throw stop

/-- Calls the function at an address. -/
def callAt (inner : Actors) (address : Nat) (arguments : List Nat) (wanted : Option Bool) :
    Actor (List Held) := do
  match ← cellAt address with
  | .function name body slots => runBody inner name body slots arguments wanted
  | .tool full => do
      let values ← arguments.mapM readCell
      asWanted wanted <$> toolValues inner full wanted values
  | _ => die "Not a CODE reference"

/-- The library has a function of a full name. -/
def isTool (full : String) : Bool :=
  let (owner, name) := toolParts full
  modules.any fun own => own.name = owner && (own.usual.contains name || own.others.contains name)

/-- The address of the function of a full name, if there is one. -/
def functionAddress? (full : String) : Actor (Option Nat) := do
  let key := sharedKey .function full
  match (← get).shared.lookup key with
  | some address => do
      match ← cellAt address with
      | .function _ _ _ | .tool _ => pure (some address)
      | _ => pure none
  | none =>
      if isTool full then do
        let address ← addCell (.tool full)
        setShared key (some address)
        pure (some address)
      else pure none

/-- Calls the function of a full name. -/
def callFull (inner : Actors) (full : String) (arguments : List Nat) (wanted : Option Bool) :
    Actor (List Held) := do
  match ← functionAddress? full with
  | some address => inner.call address arguments wanted
  | none => do
      match ← functionAddress? (packageOfName full ++ "::AUTOLOAD") with
      | some address => do
          writeCell (← sharedAddress .scalar (packageOfName full ++ "::AUTOLOAD")) (.text full)
          inner.call address arguments wanted
      | none => do
          let (_, name) := toolParts full
          if name = "import" || name = "unimport" then pure []
          else die ("Undefined subroutine &" ++ full ++ " called")

/-- The address of the function that a value is. -/
def functionOf (value : Held) : Actor Nat := do
  match value with
  | .reference address => pure address
  | .plain value => do
      let text := datumText value
      match ← functionAddress? (qualified "main" text) with
      | some address => pure address
      | none =>
          if value matches .nothing then
            die "Can't use an undefined value as a subroutine reference"
          else if (← get).script.isStrict then
            die ("Can't use string (\"" ++ text ++ "\") as a subroutine ref while \"strict refs\" " ++
              "in use")
          else die ("Undefined subroutine &" ++ qualified "main" text ++ " called")

/-! ## Methods -/

/-- The packages that a package builds on. -/
def basesOf (package : String) : Actor (List String) := do
  match (← get).shared.lookup (sharedKey .array (package ++ "::ISA")) with
  | some address => do (← listValues address).mapM textOf
  | none => pure []

/-- The address of a method of a package, or of one that it builds on. The bound is on how many of
them stand above each other. -/
def methodAddress? : Nat → String → String → Actor (Option Nat)
  | 0, _, _ => pure none
  | bound + 1, package, name => do
      match ← functionAddress? (package ++ "::" ++ name) with
      | some address => pure (some address)
      | none => do
          let bases ← basesOf package
          bases.foldlM (fun (found : Option Nat) base => do
            match found with
            | some address => pure (some address)
            | none => methodAddress? bound base name) none

/-- A package is another one or builds on it. The bound is on how many stand above each other. -/
def isKindOf : Nat → String → String → Actor Bool
  | 0, _, _ => pure false
  | bound + 1, package, other => do
      if package = other then pure true
      else do
        (← basesOf package).anyM fun base => isKindOf bound base other

/-- How many packages can stand above each other. -/
def mostBases : Nat := 50

/-- The value of a method that all objects have, if it is one. -/
def commonMethod? (package name : String) (values : List Held) : Actor (Option (List Held)) := do
  let first ← textOf (values.headD .nothing)
  match name with
  | "isa" | "DOES" => do
      let answer ← isKindOf mostBases package first
      pure (some [.answer answer])
  | "can" => do
      match ← methodAddress? mostBases package first with
      | some address => pure (some [.reference address])
      | none => pure (some [.answer false])
  | "VERSION" => do
      match (← get).shared.lookup (sharedKey .scalar (package ++ "::VERSION")) with
      | some address => some <$> (List.singleton <$> readCell address)
      | none => pure (some [.nothing])
  | "import" | "unimport" | "DESTROY" => pure (some [])
  | _ => pure none

/-- The value of a method of an open file, if it is one. -/
def handleMethod? (address : Nat) (name : String) (values : List Held) :
    Actor (Option (List Held)) := do
  let one (action : Actor Held) : Actor (Option (List Held)) := some <$> (List.singleton <$> action)
  let first := values.headD .nothing
  match name with
  | "print" | "say" | "printf" => one (writeValues name address values)
  | "autoflush" => do
      let flushes := values.isEmpty || isTrue first
      modifyHandle address fun handle => { handle with flushes }
      if flushes then
        let _ ← flushHandle address
      one (pure (.number 1))
  | "flush" => one (do outcome (← flushHandle address))
  | "close" => one (closeHandle address)
  | "getline" => do
      let line ← nextLine address
      one (pure ((line.map Held.text).getD .nothing))
  | "getlines" => some <$> allLines address mostRounds []
  | "eof" => do
      let isEnd ← isAtEnd address
      one (pure (.answer isEnd))
  | "fileno" => do
      let descriptor := (← handleAt address).descriptor
      one (pure ((descriptor.map Held.count).getD .nothing))
  | "opened" => do
      let handle ← handleAt address
      one (pure (.answer (handle.descriptor.isSome || handle.isWritten || !handle.held.isEmpty)))
  | "input_line_number" => do
      let lines := (← handleAt address).lines
      one (pure (.count lines))
  | "binmode" | "blocking" | "sync" | "untaint" => one (pure (.number 1))
  | "seek" => do
      let way ← wholeOf (values[1]?.getD .nothing)
      one (do moveTo address (← wholeOf first) way.toNat)
  | "tell" => do
      let place ← placeIn address
      one (pure ((place.map Held.count).getD (.number (-1))))
  | "truncate" => one (do
      let size := (← wholeOf first).toNat
      let _ ← flushHandle address
      match ← foundIn (.reference address) with
      | some { entry := .file node, .. } => do
          act (Action.modifyOctets node fun octets =>
            octets.take size ++ List.replicate (size - octets.length) 0)
          pure (.number 1)
      | _ => failed .invalid)
  | "getc" => do
      let text ← takeCharacters address 1
      one (pure (if text.isEmpty then .nothing else .text text))
  | _ => pure none

/-- How `open` calls a way to open files that is named by letters. -/
def openMode (mode : String) : String :=
  match mode with
  | "r" => "<"
  | "w" => ">"
  | "a" => ">>"
  | "r+" => "+<"
  | mode => mode

/-- The value of a method of a package of the library, if it is one. -/
def packageMethod? (inner : Actors) (package name : String) (values : List Held)
    (wanted : Option Bool) : Actor (Option (List Held)) := do
  match package, name with
  | "File::Spec", _ => pathTool? name values
  | "IO::File", "new" => do
      let address ← addHandle { }
      match values with
      | [] => pure (some [.reference address])
      | path :: rest => do
          let mode ← textOf (rest.headD (.text "<"))
          let (mode, path) ← if rest.isEmpty then do pure (modeOf (← textOf path))
            else do pure (openMode mode, ← textOf path)
          let opened ← openFile address mode path
          pure (some [if isTrue opened then .reference address else .nothing])
  | "IO::Handle", "new" => do
      let address ← addHandle { }
      pure (some [.reference address])
  | "Cwd", _ | "POSIX", _ => some <$> toolValues inner (package ++ "::" ++ name) wanted values
  | _, _ => pure none

/-- Calls a method of a value. -/
def callMethod (inner : Actors) (object : Term) (name : Held) (arguments : List Nat)
    (wanted : Option Bool) : Actor (List Held) := do
  let value ← match object with
    | .bare word => pure (.text word)
    | object => inner.value object
  let self ← addValue value
  match name with
  | .reference function => inner.call function (self :: arguments) wanted
  | .plain name => do
      let name := datumText name
      let values ← arguments.mapM readCell
      let text ← textOf value
      let package ← match value with
        | .reference address => packageOf? address
        | .plain _ => pure (some text)
      let handle ← match value, package with
        | .reference _, none => handleOf value
        | .plain _, _ => do
            pure ((← get).shared.lookup ("*" ++ qualified "main" text))
        | _, _ => pure none
      match handle with
      | some handle => do
          match ← handleMethod? handle name values with
          | some values => pure values
          | none => die ("Can't locate object method \"" ++ name ++ "\" via package \"IO::File\"")
      | none => do
          match package with
          | none => die ("Can't call method \"" ++ name ++ "\" on unblessed reference")
          | some package => do
              if !value.isDefined then
                die ("Can't call method \"" ++ name ++ "\" on an undefined value")
              else if package.isEmpty then
                die ("Can't call method \"" ++ name ++ "\" without a package or object reference")
              else callIn package name value values (self :: arguments)
where
  /-- Calls a method of a package. -/
  callIn (package name : String) (value : Held) (values : List Held) (arguments : List Nat) :
      Actor (List Held) := do
    let (owner, short) := toolParts name
    let address ← match owner.splitOn "::SUPER" with
      | [own, ""] => do
          (← basesOf own).foldlM (fun (found : Option Nat) base => do
            match found with
            | some address => pure (some address)
            | none => methodAddress? mostBases base short) none
      | _ =>
          if owner.isEmpty then methodAddress? mostBases package name
          else functionAddress? name
    match address with
    | some address => inner.call address arguments wanted
    | none => do
        match ← commonMethod? package short values with
        | some values => pure values
        | none => do
            match ← packageMethod? inner package name values wanted with
            | some values => pure values
            | none => do
                match ← methodAddress? mostBases package "AUTOLOAD" with
                | some address => do
                    let state ← get
                    let own := (match state.cells[address]?.getD (.scalar .nothing) with
                      | .function full _ _ => packageOfName full
                      | _ => package)
                    writeCell (← sharedAddress .scalar (own ++ "::AUTOLOAD"))
                      (.text (package ++ "::" ++ name))
                    inner.call address arguments wanted
                | none => do
                    let isKnown := value matches .reference _
                    die ("Can't locate object method \"" ++ name ++ "\" via package \"" ++ package ++
                      "\"" ++ (if isKnown then "" else
                        " (perhaps you forgot to load \"" ++ package ++ "\"?)"))

end StaticMulticast.Host.Utility.Statement
