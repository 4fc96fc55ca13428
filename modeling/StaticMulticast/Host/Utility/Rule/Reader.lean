import StaticMulticast.Host.Utility.Rule.Basic

/-!
# Reading scripts of rules

Calculations bind in levels: the parts of a term on one level are terms of the next one. Every
reader takes a bound on how deep terms and deeds can be nested.
-/

namespace StaticMulticast.Host.Utility.Rule

/-- What is left to read, and the functions that have been called. -/
structure Reading where
  rest : List Token
  calls : List String := []
  /-- The body of a function is read. -/
  isInFunction : Bool := false
  /-- The deed of a rule for records is read. -/
  isForRecords : Bool := false

/-- A function that reads from a script. -/
abbrev Reader := StateT Reading Option

/-! ## Tokens -/

/-- The next token. -/
def peek : Reader (Option Token) := do
  pure (← get).rest.head?

/-- Takes the next token. -/
def take : Reader Token := do
  let state ← get
  match state.rest with
  | token :: rest => do
      set { state with rest }
      pure token
  | [] => failure

/-- Takes a mark if it follows. -/
def accept (mark : String) : Reader Bool := do
  if (← peek) = some (.mark mark) then do
    let _ ← take
    pure true
  else pure false

/-- Takes a mark that has to follow. -/
def expect (mark : String) : Reader Unit := do
  if !(← accept mark) then failure

/-- Takes a keyword if it follows. -/
def acceptWord (word : String) : Reader Bool := do
  let next ← peek
  if next = some (.name word) || next = some (.called word) then do
    let _ ← take
    pure true
  else pure false

/-- Takes the ends of lines. -/
def skipLines : Reader Unit :=
  modify fun state => { state with rest := state.rest.dropWhile (· == .line) }

/-- The name of a variable. -/
def takeName : Reader String := do
  match ← take with
  | .name name => if keywords.contains name then failure else pure name
  | _ => failure

/-! ## Terms -/

/-- The marks of calculations and comparisons, with their levels. -/
def calculations : List (String × Nat × (Term → Term → Term)) :=
  [("||", 0, .either), ("&&", 1, .both),
    ("~", 3, .search true), ("!~", 3, .search false),
    ("<", 4, .compare .less), ("<=", 4, .compare .atMost), ("==", 4, .compare .equal),
    ("!=", 4, .compare .different), (">", 4, .compare .greater), (">=", 4, .compare .atLeast),
    ("+", 6, .calculate .add), ("-", 6, .calculate .subtract),
    ("*", 7, .calculate .multiply), ("/", 7, .calculate .divide),
    ("%", 7, .calculate .remainder)]

/-- The marks of assignments. -/
def assignments : List (String × Option Operation) :=
  [("=", none), ("+=", some .add), ("-=", some .subtract), ("*=", some .multiply),
    ("/=", some .divide), ("%=", some .remainder), ("^=", some .power)]

/-- Takes note of the call of a function. -/
def readCall (name : String) (arguments : List Term) : Reader Term := do
  match builtins.lookup name with
  | some (least, most) =>
      let count := arguments.length
      if least ≤ count && count ≤ most then pure (.builtin name arguments) else failure
  | none => do
      modify fun state => { state with calls := name :: state.calls }
      pure (.call name arguments)

/-- A term can begin with the token, and stand right behind another one. -/
def Token.isBeginning : Token → Bool
  | .number _ | .text _ | .expression _ => true
  | .name word | .called word => !keywords.contains word
  | .mark symbol => ["(", "$", "!"].contains symbol
  | .line => false

/-- The level of terms in the place of texts that stand side by side. -/
def joinLevel : Nat := 5

/-- The level of parts that are not calculations with two terms. -/
def partLevel : Nat := 8

mutual

/-- Reads a term. It is given whether it stands where output is written, so that a mark for more is
one for a file. -/
def readTerm : Nat → Bool → Reader Term
  | 0, _ => failure
  | fuel + 1, isOutput => do
      let condition ← readLevel fuel 0 isOutput
      if ← accept "?" then do
        skipLines
        let consequence ← readTerm fuel isOutput
        skipLines
        expect ":"
        skipLines
        pure (.choice condition consequence (← readTerm fuel isOutput))
      else pure condition

/-- Reads a term of a level. -/
def readLevel : Nat → Nat → Bool → Reader Term
  | 0, _, _ => failure
  | fuel + 1, level, isOutput => do
      if level = partLevel then readPart fuel isOutput
      else do
        let first ← readLevel fuel (level + 1) isOutput
        readMore fuel level isOutput first

/-- Reads what follows a term on a level. -/
def readMore : Nat → Nat → Bool → Term → Reader Term
  | 0, _, _, _ => failure
  | fuel + 1, level, isOutput, first => do
      let next ← peek
      match next with
      | none => pure first
      | some (.name "in") =>
          if level = 2 then do
            let _ ← take
            readMore fuel level isOutput (.isMember [first] (← takeName))
          else pure first
      | some (.mark "|") =>
          if level = joinLevel && (← get).rest[1]?.any (· == .name "getline") then do
            let _ ← take
            let _ ← take
            let place ← readPlaceIfAny fuel
            readMore fuel level isOutput (.nextFrom place first)
          else pure first
      | some (.mark mark) =>
          let isFile := isOutput && mark = ">"
          match (calculations.lookup mark).filter fun row => row.1 = level && !isFile with
          | some (_, term) => do
              let _ ← take
              if level < 2 then skipLines
              let second ← readLevel fuel (level + 1) isOutput
              readMore fuel level isOutput (term first second)
          | none =>
              if level = joinLevel && (Token.mark mark).isBeginning then
                readJoined fuel isOutput first
              else pure first
      | some token =>
          if level = joinLevel && token.isBeginning then readJoined fuel isOutput first
          else pure first

/-- Reads a text that stands beside another one. -/
def readJoined : Nat → Bool → Term → Reader Term
  | 0, _, _ => failure
  | fuel + 1, isOutput, first => do
      let second ← readLevel fuel (joinLevel + 1) isOutput
      readMore fuel joinLevel isOutput (.join first second)

/-- Reads a part with signs before it and powers behind it. -/
def readPart : Nat → Bool → Reader Term
  | 0, _ => failure
  | fuel + 1, isOutput => do
      if ← accept "!" then .not <$> readPart fuel isOutput
      else if ← accept "-" then .minus <$> readPart fuel isOutput
      else if ← accept "+" then .plus <$> readPart fuel isOutput
      else do
        let base ← readAdvanced fuel isOutput
        if ← accept "^" then .calculate .power base <$> readPart fuel isOutput else pure base

/-- Reads a simple term, which can be a place that is given a value. -/
def readAdvanced : Nat → Bool → Reader Term
  | 0, _ => failure
  | fuel + 1, isOutput => do
      if ← accept "++" then .advance 1 true <$> readPlace fuel
      else if ← accept "--" then .advance (-1) true <$> readPlace fuel
      else do
        let term ← readSimple fuel
        if !term.isPlace then pure term
        else if ← accept "++" then pure (.advance 1 false term)
        else if ← accept "--" then pure (.advance (-1) false term)
        else match ← peek with
        | some (.mark mark) =>
            match assignments.lookup mark with
            | some operation => do
                let _ ← take
                skipLines
                .assign term operation <$> readTerm fuel isOutput
            | none => pure term
        | _ => pure term

/-- Reads a place. -/
def readPlace : Nat → Reader Term
  | 0 => failure
  | fuel + 1 => do
      let term ← readSimple fuel
      if term.isPlace then pure term else failure

/-- Reads a place, if one follows. -/
def readPlaceIfAny : Nat → Reader (Option Term)
  | 0 => failure
  | fuel + 1 => do
      match ← peek with
      | some (.name name) => if keywords.contains name then pure none else some <$> readPlace fuel
      | some (.mark "$") => some <$> readPlace fuel
      | _ => pure none

/-- Reads terms with commas between them, up to a closing mark. -/
def readTerms : Nat → String → Reader (List Term)
  | 0, _ => failure
  | fuel + 1, closing => do
      skipLines
      if ← accept closing then pure []
      else do
        let term ← readTerm fuel false
        skipLines
        if ← accept "," then do
          skipLines
          if (← peek) = some (.mark closing) then failure
          pure (term :: (← readTerms fuel closing))
        else do
          expect closing
          pure [term]

/-- Reads a term without signs and calculations around it. -/
def readSimple : Nat → Reader Term
  | 0 => failure
  | fuel + 1 => do
      match ← take with
      | .number value => pure (.number value)
      | .text text => pure (.text text)
      | .expression text => pure (.expression text)
      | .mark "(" => do
          match ← readTerms fuel ")" with
          | [] => failure
          | [term] => pure term
          | terms => do
              if !(← acceptWord "in") then failure
              pure (.isMember terms (← takeName))
      | .mark "$" => do
          if ← accept "++" then (fun place => .field (.advance 1 true place)) <$> readPlace fuel
          else if ← accept "--" then
            (fun place => .field (.advance (-1) true place)) <$> readPlace fuel
          else if ← accept "-" then (fun term => .field (.minus term)) <$> readSimple fuel
          else .field <$> readSimple fuel
      | .called name =>
          if name = "getline" then readNext fuel
          else if keywords.contains name then failure
          else do
            expect "("
            let arguments ← readTerms fuel ")"
            readCall name arguments
      | .name name =>
          if name = "getline" then readNext fuel
          else if keywords.contains name then failure
          else if (builtins.lookup name).isSome then do
            let arguments ← if ← accept "(" then readTerms fuel ")" else pure []
            readCall name arguments
          else if ← accept "[" then do
            let places ← readTerms fuel "]"
            if places.isEmpty then failure
            pure (.member name places)
          else pure (.variable name)
      | _ => failure

/-- Reads where the next record comes from. -/
def readNext : Nat → Reader Term
  | 0 => failure
  | fuel + 1 => do
      let place ← readPlaceIfAny fuel
      if ← accept "<" then .nextOf place <$> readSimple fuel else pure (.next place)

end

/-! ## Deeds -/

/-- Takes the end of a deed: a semicolon, the end of a line, or nothing before a closing brace. -/
def takeEnd : Reader Unit := do
  match ← peek with
  | none | some (.mark "\x7d") => pure ()
  | some (.mark ";") | some .line => do
      let _ ← take
      skipLines
  | _ => failure

/-- The next token ends a deed, or says where output goes. -/
def isAtEnd : Reader Bool := do
  pure (match ← peek with
    | none | some .line => true
    | some (.mark mark) => [";", "\x7d", ">", ">>", "|"].contains mark
    | _ => false)

/-- Reads terms with commas between them, as they are written to output. -/
def readOutput (bound : Nat) : Nat → Reader (List Term)
  | 0 => failure
  | fuel + 1 => do
      let term ← readTerm bound true
      if ← accept "," then do
        skipLines
        pure (term :: (← readOutput bound fuel))
      else pure [term]

/-- Reads the terms to write in parentheses, with nothing behind them. -/
def readEnclosed (bound : Nat) : Reader (List Term) := do
  expect "("
  let terms ← readTerms bound ")"
  if ← isAtEnd then pure terms else failure

/-- Reads the terms to write. -/
def readWritten (bound : Nat) : Reader (List Term) := do
  if ← isAtEnd then pure []
  else readEnclosed bound <|> readOutput bound bound

/-- Reads where output goes. -/
def readTarget (bound : Nat) : Reader Target := do
  if ← accept ">" then .file false <$> readTerm bound true
  else if ← accept ">>" then .file true <$> readTerm bound true
  else if ← accept "|" then .command <$> readTerm bound true
  else pure .output

/-- Reads a deed that has no other ones in it, without its end. -/
def readPlain (bound : Nat) : Reader Deed := do
  let valueIfAny : Reader (Option Term) := do
    if ← isAtEnd then pure none else some <$> readTerm bound false
  if ← acceptWord "print" then do
    let terms ← readWritten bound
    .write terms <$> readTarget bound
  else if ← acceptWord "printf" then do
    let terms ← readWritten bound
    if terms.isEmpty then failure
    .format terms <$> readTarget bound
  else if ← acceptWord "break" then pure .leave
  else if ← acceptWord "continue" then pure .again
  else if ← acceptWord "next" then
    if (← get).isForRecords then pure .next else failure
  else if ← acceptWord "nextfile" then
    if (← get).isForRecords then pure .nextFile else failure
  else if ← acceptWord "exit" then .exit <$> valueIfAny
  else if ← acceptWord "return" then
    if (← get).isInFunction then .give <$> valueIfAny else failure
  else if ← acceptWord "delete" then do
    let name ← takeName
    if ← accept "[" then .delete name <$> readTerms bound "]" else pure (.clear name)
  else .evaluate <$> readTerm bound false

/-- Reads a condition in parentheses. -/
def readCondition (bound : Nat) : Reader Term := do
  expect "("
  let condition ← readTerm bound false
  expect ")"
  pure condition

/-- Reads the head of a loop over the places of a table, if it is one: the name for the places, and
that of the table. -/
def readPlaces : Reader (String × String) := do
  expect "("
  let name ← takeName
  if !(← acceptWord "in") then failure
  let table ← takeName
  expect ")"
  pure (name, table)

/-- Reads the head of a counted loop: what is done first, the condition, and what is done after each
round. -/
def readCounts (bound : Nat) : Reader (Deed × Term × Deed) := do
  expect "("
  let start ← if (← peek) = some (.mark ";") then pure .nothing else readPlain bound
  expect ";"
  skipLines
  let condition ← if (← peek) = some (.mark ";") then pure (.number 1) else readTerm bound false
  expect ";"
  skipLines
  let step ← if (← peek) = some (.mark ")") then pure .nothing else readPlain bound
  expect ")"
  pure (start, condition, step)

mutual

/-- Reads a deed with its end. -/
def readDeed (bound : Nat) : Nat → Reader Deed
  | 0 => failure
  | fuel + 1 => do
      if ← accept "\x7b" then do
        let deeds ← readDeeds bound fuel
        skipLines
        if ← accept ";" then skipLines
        pure (.block deeds)
      else if ← accept ";" then do
        skipLines
        pure .nothing
      else if ← acceptWord "if" then do
        let condition ← readCondition bound
        skipLines
        let consequence ← readDeed bound fuel
        if ← acceptWord "else" then do
          skipLines
          .choice condition consequence <$> readDeed bound fuel
        else pure (.choice condition consequence .nothing)
      else if ← acceptWord "while" then do
        let condition ← readCondition bound
        skipLines
        .loop condition .nothing <$> readDeed bound fuel
      else if ← acceptWord "do" then do
        skipLines
        let body ← readDeed bound fuel
        if !(← acceptWord "while") then failure
        let condition ← readCondition bound
        takeEnd
        pure (.lateLoop body condition)
      else if ← acceptWord "for" then do
        let head : Sum (String × String) (Deed × Term × Deed) ←
          (.inl <$> readPlaces) <|> (.inr <$> readCounts bound)
        skipLines
        let body ← readDeed bound fuel
        match head with
        | .inl (name, table) => pure (.each name table body)
        | .inr (start, condition, step) => pure (.block [start, .loop condition step body])
      else do
        let deed ← readPlain bound
        takeEnd
        pure deed

/-- Reads deeds up to the closing brace. -/
def readDeeds (bound : Nat) : Nat → Reader (List Deed)
  | 0 => failure
  | fuel + 1 => do
      skipLines
      if ← accept "\x7d" then pure []
      else do
        let deed ← readDeed bound fuel
        pure (deed :: (← readDeeds bound fuel))

end

/-! ## Scripts -/

/-- Reads a deed in braces. It is given whether it is the body of a function, and whether it is for
records. -/
def readBody (bound : Nat) (isInFunction isForRecords : Bool) : Reader Deed := do
  expect "\x7b"
  modify fun state => { state with isInFunction, isForRecords }
  .block <$> readDeeds bound bound

/-- Reads names with commas between them, up to a closing parenthesis. The bound is on their number.
-/
def readParameters : Nat → Reader (List String)
  | 0 => failure
  | bound + 1 => do
      if ← accept ")" then pure []
      else do
        let name ← takeName
        if ← accept "," then do
          skipLines
          pure (name :: (← readParameters bound))
        else do
          expect ")"
          pure [name]

/-- Reads a function behind its keyword. -/
def readFunction (bound : Nat) : Reader Function := do
  let name ← match ← take with
    | .name name | .called name => pure name
    | _ => failure
  if keywords.contains name || (builtins.lookup name).isSome then failure
  expect "("
  let parameters ← readParameters bound
  skipLines
  let body ← readBody bound true true
  pure { name, parameters, body }

/-- Reads a rule. -/
def readRow (bound : Nat) : Reader Row := do
  if ← acceptWord "BEGIN" then
    return ⟨.start, ← readBody bound false false⟩
  if ← acceptWord "END" then
    return ⟨.finish, ← readBody bound false false⟩
  let opening := Token.mark "\x7b"
  if (← peek) = some opening then
    return ⟨.always, ← readBody bound false true⟩
  let first ← readTerm bound false
  let occasion ← if ← accept "," then do
      skipLines
      pure (.between first (← readTerm bound false))
    else pure (.holds first)
  if (← peek) = some opening then
    return ⟨occasion, ← readBody bound false true⟩
  pure ⟨occasion, .write [] .output⟩

/-- Reads the rules and functions of a script. The bound is on their number. -/
def readScript (bound : Nat) : Nat → Script → Reader Script
  | 0, _ => failure
  | count + 1, script => do
      skipLines
      if (← peek).isNone then
        pure { rows := script.rows.reverse, functions := script.functions.reverse }
      else do
        let script ← if ← acceptWord "function" then do
            pure { script with functions := (← readFunction bound) :: script.functions }
          else do
            pure { script with rows := (← readRow bound) :: script.rows }
        if ← accept ";" then skipLines
        readScript bound count script

/-- The script that a text is. Only functions that are there are called. -/
def script? (text : String) : Option Script := do
  let tokens ← tokens? text
  let bound := 16 * tokens.length + 64
  let (script, state) ← (readScript bound (tokens.length + 1) { }).run { rest := tokens }
  if state.calls.all fun name => script.functions.any fun function => function.name = name then
    some script
  else none

end StaticMulticast.Host.Utility.Rule
