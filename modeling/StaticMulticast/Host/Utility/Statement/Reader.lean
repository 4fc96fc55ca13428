import StaticMulticast.Host.Utility.Statement.Word

/-!
# The reader of scripts of statements

Operators are read first, and then the statements that are made of terms.
-/

/-!
## Operators in scripts of statements

Operators bind in levels: the operands of an operator are terms of the next level.
-/

namespace StaticMulticast.Host.Utility.Statement

/-- Takes note that something can lead to what a term stands for later. -/
def keepAll : Term → Reader Unit
  | .declare _ places | .list places => places.forM keep
  | term => keep term

/-- Reads what is quoted by a word. -/
def readQuoting (inner : Readers) (word : String) : Reader Term := do
  let _ ← if (← get).rest.head? = some '#' then pure [] else skip
  let (opening, quoted) ← takeQuoted
  let isPlain := opening = '\''
  let pattern (text : List Char) : Reader Term :=
    if isPlain then pure (.text (String.ofList text)) else readText inner true text
  match word with
  | "q" => pure (.text (String.ofList (plainText opening quoted)))
  | "qq" => readText inner false quoted
  | "qx" => do
      if isPlain then pure (.capture (.text (String.ofList quoted)))
      else .capture <$> readText inner false quoted
  | "qw" => pure (.list ((wordsOf quoted).map .text))
  | "qr" => do
      let pattern ← pattern quoted
      .expression pattern <$> takeFlags
  | "s" => do
      let second ← takeSecondQuoted opening
      let flags ← takeFlags
      let pattern ← pattern quoted
      let replacement ← if flags.toList.contains 'e' then do
          let deeds ← within second (inBlock (readDeedsToEnd inner (← roomLeft)))
          .perform <$> addBody (.scope deeds)
        else if isPlain then pure (.text (String.ofList second))
        else readText inner false second
      let replacement ← if (flags.toList.filter (· = 'e')).length = 2 then do
          let names ← seenNames
          pure (Term.interpret replacement names (← get).package)
        else pure replacement
      pure (.replace none pattern replacement flags)
  | "tr" | "y" => do
      let second ← takeSecondQuoted opening
      let flags ← takeFlags
      pure (.translate none (String.ofList quoted) (String.ofList second) flags)
  | _ => do
      let pattern ← pattern quoted
      .search true none pattern <$> takeFlags

/-- Reads what stands between angles: what is read from, or patterns of paths. -/
def readAngles (inner : Readers) : Reader Term := do
  let (_, quoted) ← takeQuoted
  let name := match quoted with
    | '$' :: name => name
    | _ => quoted
  if quoted = ['<'] then do
    goTo (← get).rest.tail
    pure (.read (.bare "ARGV"))
  else if quoted.isEmpty then pure (.read (.bare "ARGV"))
  else if name.all fun letter => isNameLetter letter || letter = ':' then
    if quoted.head? = some '$' then do
      .read <$> resolve .scalar (String.ofList name)
    else pure (.read (.bare (String.ofList quoted)))
  else .paths <$> readText inner false quoted

/-- Reads a simple term. -/
def readSimple (inner : Readers) : Reader Term := do
  let text ← skip
  match text with
  | [] => wrong
  | '$' :: rest => do
      goTo rest
      match ← readDollar inner false false with
      | some term => pure term
      | none => wrong
  | '@' :: rest => do
      goTo rest
      match ← readAt inner false with
      | some term => pure term
      | none => wrong
  | '%' :: rest => do
      goTo rest
      match ← readNamed inner (← roomLeft) false with
      | some named => do
          match ← skip with
          | '\x7b' :: rest => do
              goTo rest
              let keys ← inner.term
              expect "\x7d"
              pure (.pairs true (← named.place .table) keys)
          | '[' :: rest => do
              goTo rest
              let indices ← inner.term
              expect "]"
              pure (.pairs false (← named.place .array) indices)
          | _ => named.place .table
      | none => wrong
  | '&' :: rest => do
      goTo rest
      let function ← match ← readNamed inner (← roomLeft) false with
        | some (.name name) => resolve .function name
        | some (.behind reference) => pure (.behind .function reference)
        | none => wrong
      let arguments ← if ← follows "(" then some <$> readArguments inner else pure none
      pure (match function, arguments with
        | .behind _ reference, arguments => .callValue reference arguments
        | .shared _ name, some arguments => .callNamed name (some arguments)
        | function, none => .callValue (.reference function) none
        | function, some arguments => .callValue (.reference function) (some arguments))
  | '*' :: rest => do
      goTo rest
      match ← readNamed inner (← roomLeft) false with
      | some (.name name) => pure (.bare name)
      | _ => wrong
  | '(' :: rest => do
      goTo rest
      if ← accept ")" then pure (.list [])
      else do
        let term ← inner.term
        expect ")"
        pure (.list (termsOf term))
  | '[' :: rest => do
      goTo rest
      if ← accept "]" then pure (.newArray [])
      else do
        let term ← inner.term
        expect "]"
        pure (.newArray (termsOf term))
  | '\x7b' :: rest => do
      goTo rest
      if ← accept "\x7d" then pure (.newTable [])
      else do
        let term ← inner.term
        expect "\x7d"
        pure (.newTable (termsOf term))
  | '"' :: _ => do
      let (_, quoted) ← takeQuoted
      readText inner false quoted
  | '\'' :: _ => do
      let (opening, quoted) ← takeQuoted
      pure (.text (String.ofList (plainText opening quoted)))
  | '/' :: _ => readQuoting inner "m"
  | '<' :: '<' :: rest =>
      match takeHere? rest with
      | some (isFilled, body, rest) => do
          goTo rest
          if isFilled then readText inner false body
          else pure (.text (String.ofList body))
      | none => if rest.head? = some '>' then readAngles inner else wrong
  | '<' :: _ => readAngles inner
  | letter :: rest =>
      if letter.toNat = 0x60 then do
        let (_, quoted) ← takeQuoted
        .capture <$> readText inner false quoted
      else if letter.isDigit || (letter = '.' && rest.head?.any Char.isDigit) then
        match takeNumber? text with
        | some (term, rest) => do
            goTo rest
            pure term
        | none => wrong
      else if isNameStart letter then do
        let (word, rest) := takeWord text
        goTo rest
        if quotes word rest then readQuoting inner word else readWord inner word
      else wrong

/-- Reads a term that is perhaps counted up or down after it. -/
def readAdvance (inner : Readers) : Reader Term := do
  let term ← readSimple inner
  let term ← match term with
    | .list _ => do
        if ← follows "[" then do
          expect "["
          let indices ← inner.term
          expect "]"
          pure (.pick term indices)
        else pure term
    | _ => pure term
  let isOpen : Bool := match term with
    | .callValue _ _ | .callMethod _ _ _ => true
    | _ => false
  let term ← readArrows inner (← roomLeft) false isOpen term
  if ← accept "++" then pure (.advance 1 false term)
  else if ← accept "--" then pure (.advance (-1) false term)
  else pure term

/-- Reads a power. -/
def readPower (inner : Readers) : Reader Term := do
  let base ← readAdvance inner
  match operatorAt? (← skip) with
  | some ("**", _, rest) => do
      goTo rest
      let power ← inner.unary
      pure (.operate "**" base power)
  | _ => pure base

/-- Reads a term with marks in front of it. -/
def readUnary (inner : Readers) : Reader Term := do
  let text ← skip
  match text with
  | '!' :: rest => do
      goTo rest
      .not <$> inner.unary
  | '~' :: rest => do
      goTo rest
      .complement <$> inner.unary
  | '\\' :: rest => do
      goTo rest
      let term ← inner.unary
      keepAll term
      pure (.reference term)
  | '+' :: '+' :: rest => do
      goTo rest
      .advance 1 true <$> inner.unary
  | '-' :: '-' :: rest => do
      goTo rest
      .advance (-1) true <$> inner.unary
  | '+' :: rest => do
      goTo rest
      inner.unary
  | '-' :: letter :: rest =>
      let isAlone := !(rest.head?.any isNameLetter)
      let beyond := withoutBlanks (rest.length + 1) rest
      let isKey := "=>".toList.isPrefixOf beyond || beyond.head? = some ','
      if checkLetters.contains letter && isAlone && !isKey then do
        goTo rest
        let isNext := match beyond with
          | '=' :: _ | '<' :: _ => false
          | '(' :: _ => true
          | _ => beginsTerm beyond
        let path ← if isNext then inner.unary else pure .topic
        pure (.check letter path)
      else if isNameStart letter && !isBuiltIn (takeWord (letter :: rest)).1 then do
        let (word, after) := takeWord (letter :: rest)
        let isCall := after.head? = some '(' || (← knownFunction? word).isSome ||
          (← get).constants.contains word
        if isCall then do
          goTo (letter :: rest)
          .minus <$> inner.unary
        else do
          goTo after
          pure (.text ("-" ++ word))
      else do
        goTo (letter :: rest)
        .minus <$> inner.unary
  | _ => readPower inner

/-- Reads terms with operators that bind at least as tightly as a level. -/
def readBinary (inner : Readers) (level : Nat) : Reader Term := do
  let first ← readUnary inner
  readOperations inner (← roomLeft) level first

/-- Reads a range. -/
def readRange (inner : Readers) : Reader Term := do
  let first ← readBinary inner 1
  if ← accept "..." then do
    let last ← readBinary inner 1
    pure (.range (← addMemory) true first last)
  else if ← accept ".." then do
    let last ← readBinary inner 1
    pure (.range (← addMemory) false first last)
  else pure first

/-- Reads a choice between two terms. -/
def readChoice (inner : Readers) : Reader Term := do
  let condition ← readRange inner
  if ← accept "?" then do
    let consequence ← inner.assign
    expect ":"
    let alternative ← inner.assign
    pure (.choice condition consequence alternative)
  else pure condition

/-- Reads an assignment. -/
def readAssign (inner : Readers) : Reader Term := do
  let place ← readChoice inner
  match assignAt? (← skip) with
  | some (operator, rest) => do
      goTo rest
      let value ← inner.assign
      pure (match place with
        | .once number first later =>
            .once number (.assign operator first value) later
        | _ => .assign operator place value)
  | none => pure place

/-- Reads terms with commas between them. -/
def readCommas (inner : Readers) : Reader Term := do
  let first ← readAssign inner
  if (← follows ",") || (← follows "=>") then .list <$> readMore inner (← roomLeft) [first]
  else pure first

/-- Reads a term, perhaps with `not` in front of it. -/
def readNot (inner : Readers) : Reader Term := do
  if ← acceptWord "not" then .not <$> inner.negation
  else readCommas inner

/-- Reads further terms with `and` between them. -/
def readAnds (inner : Readers) : Nat → Term → Reader Term
  | 0, _ => wrong
  | bound + 1, first => do
      if ← acceptWord "and" then do
        let second ← readNot inner
        readAnds inner bound (.both first second)
      else pure first

/-- Reads terms with `and` between them. -/
def readAnd (inner : Readers) : Reader Term := do
  let first ← readNot inner
  readAnds inner (← roomLeft) first

/-- Reads further terms between words that bind least. -/
def readOrs (inner : Readers) : Nat → Term → Reader Term
  | 0, _ => wrong
  | bound + 1, first => do
      if ← acceptWord "or" then do
        let second ← readAnd inner
        readOrs inner bound (.either first second)
      else if ← acceptWord "xor" then do
        let second ← readAnd inner
        readOrs inner bound (.exclusive first second)
      else pure first

/-- Reads terms between words that bind least. -/
def readTerm (inner : Readers) : Reader Term := do
  let first ← readAnd inner
  readOrs inner (← roomLeft) first

end StaticMulticast.Host.Utility.Statement

/-!
## Reading scripts of statements

Statements with their conditions and loops, functions with names, and the use of modules. Statements
in braces become bodies, which have numbers.
-/

namespace StaticMulticast.Host.Utility.Statement

/-- The condition of a loop. What is read in it only counts if there is something. -/
def loopCondition (condition : Term) : Term :=
  let isReading : Term → Bool
    | .read _ | .paths _ => true
    | .call name _ => ["readdir", "each", "readline"].contains name
    | _ => false
  let defined (term : Term) : Term := .call "defined" [term]
  match condition with
  | .assign "" place value =>
      if isReading value && !place.isListPlace then defined condition else condition
  | _ => if isReading condition then defined (.assign "" .topic condition) else condition

/-- The keys of members that are plain texts. -/
def keyNames : List Term → List String
  | .text key :: _ :: rest => key :: keyNames rest
  | _ :: _ :: rest => keyNames rest
  | _ => []

/-- Reads a condition in parentheses. -/
def readCondition (inner : Readers) : Reader Term := do
  expect "("
  let condition ← if ← follows ")" then pure (.number 1) else readTerm inner
  expect ")"
  settle
  pure condition

/-- Reads what is done if a condition does not hold. -/
def readAlternative (inner : Readers) : Nat → Reader Deed
  | 0 => wrong
  | bound + 1 => do
      if ← acceptWord "elsif" then do
        let line := (← get).line
        let condition ← readCondition inner
        let consequence ← readBlock inner
        .choice line condition (.scope consequence) <$> readAlternative inner bound
      else if ← acceptWord "else" then .scope <$> readBlock inner
      else pure .nothing

/-- Reads a term up to a mark, if there is one. -/
def readUpTo (inner : Readers) (mark : String) : Reader (Option Term) := do
  if ← accept mark then pure none
  else do
    let term ← readTerm inner
    expect mark
    pure (some term)

/-- Reads the step of a loop that stands behind its body. -/
def readStep (inner : Readers) : Reader Deed := do
  if ← acceptWord "continue" then .scope <$> readBlock inner else pure .nothing

/-- Reads a loop over a list, or a counted one. -/
def readFor (inner : Readers) (label : String) : Reader Deed := inBlock do
  let line := (← get).line
  let isOwn := (← acceptWord "my") || (← acceptWord "state")
  let isShared ← acceptWord "our"
  let text ← skip
  let loopWith (name : Term) : Reader Deed := do
    expect "("
    let list ← if ← follows ")" then pure (.list []) else readTerm inner
    expect ")"
    settle
    let body ← readBlock inner
    let step ← readStep inner
    pure (.each label line name list step (.scope body))
  match text with
  | '$' :: rest => do
      let (name, rest) := takeWord rest
      goTo rest
      let place ← if isOwn then declareName .scalar name
        else if isShared then do
          let place := Term.shared .scalar (qualified (← get).package name)
          nameAs ("$" ++ name) place
          pure place
        else resolve .scalar name
      loopWith place
  | _ => do
      expect "("
      let evaluated (term : Option Term) : Deed := (term.map (Deed.evaluate line)).getD .nothing
      let counted (start : Deed) : Reader Deed := do
        settle
        let condition ← readUpTo inner ";"
        let step ← readUpTo inner ")"
        let body ← readBlock inner
        let condition := loopCondition (condition.getD (.number 1))
        pure (.scope [start, .loop label line true condition (evaluated step) (.scope body)])
      if ← accept ";" then counted .nothing
      else if ← accept ")" then do
        let _ ← readBlock inner
        pure .nothing
      else do
        let first ← readTerm inner
        if ← accept ";" then counted (.evaluate line first)
        else do
          expect ")"
          let body ← readBlock inner
          let step ← readStep inner
          pure (.each label line .topic first step (.scope body))

/-- Reads what stands behind a simple statement: a condition or a loop, and its end. -/
def readModified (inner : Readers) (line : Nat) (term : Term) : Reader Deed := do
  let deed := Deed.evaluate line term
  let repeated (isWanted : Bool) : Reader Deed := do
    let condition ← readTerm inner
    pure (match term with
      | .perform _ => .lateLoop isWanted deed condition
      | _ => .loop "-" line isWanted (loopCondition condition) .nothing deed)
  let modified ← if ← acceptWord "if" then do
      pure (.choice line (← readTerm inner) deed .nothing)
    else if ← acceptWord "unless" then do
      pure (.choice line (.not (← readTerm inner)) deed .nothing)
    else if ← acceptWord "while" then repeated true
    else if ← acceptWord "until" then repeated false
    else if (← acceptWord "for") || (← acceptWord "foreach") then do
      pure (.each "-" line .topic (← readTerm inner) .nothing deed)
    else pure deed
  settle
  let text ← skip
  if text.isEmpty || text.head? = some '\x7d' then pure modified
  else do
    expect ";"
    pure modified

/-- Reads the use of a module, or of a way to read what follows. -/
def readUse (inner : Readers) (isOn : Bool) : Reader Deed := do
  let line := (← get).line
  let text ← skip
  let (name, rest) := takeWord text
  if text.head?.any Char.isDigit || (name.toList.head? = some 'v' && name.length < 5 &&
      (name.toList.drop 1).all Char.isDigit && 1 < name.length) then do
    let version := text.takeWhile fun letter => letter != ';' && letter != '\x7d'
    goTo (text.drop version.length)
    let _ ← accept ";"
    let minor := match version with
      | 'v' :: '5' :: '.' :: rest => (numberOf 10 (rest.takeWhile Char.isDigit))
      | '5' :: '.' :: '0' :: rest => numberOf 10 (rest.take 2)
      | _ => 0
    if 12 ≤ minor && isOn then modify fun state => { state with isStrict := true }
    pure .nothing
  else do
    goTo rest
    let text ← skip
    let (_, after) := takeNumber? text |>.map (fun row => ((), row.2)) |>.getD ((), text)
    goTo after
    let arguments ← if ← follows ";" then pure none
      else if (← skip).isEmpty || (← follows "\x7d") then pure none
      else (fun term => some (termsOf term)) <$> readTerm inner
    let text ← skip
    if !text.isEmpty && text.head? != some '\x7d' then expect ";"
    let words := ((arguments.getD []).flatMap termsOf).filterMap fun term =>
      match term with
      | .text word => some word
      | _ => none
    let early (term : Term) : Reader Unit :=
      modifyScript fun script => { script with early := script.early ++ [.evaluate line term] }
    let package := (← get).package
    if !isOn then do
      if name = "strict" && (words.isEmpty || words.contains "vars") then
        modify fun state => { state with isStrict := false }
      pure .nothing
    else match name with
    | "strict" => do
        modify fun state => { state with isStrict := true }
        pure .nothing
    | "vars" => do
        words.forM fun word =>
          let shape : Shape := match word.toList.head? with
            | some '@' => .array
            | some '%' => .table
            | _ => .scalar
          nameAs word (.shared shape (qualified package (String.ofList word.toList.tail)))
        settle
        pure .nothing
    | "constant" => do
        let terms := arguments.getD []
        let names := match terms with
          | [.newTable members] => keyNames members
          | .text name :: _ => [name]
          | _ => []
        modify fun state =>
          { state with constants := names.map (qualified package) ++ state.constants }
        early (.call "constant" (.text package :: terms))
        names.forM fun name => do
          let number ← addBody .nothing
          modifyScript fun script =>
            { script with functions := (qualified package name, number) :: script.functions }
        pure .nothing
    | "parent" | "base" => do
        let bases := words.filter (· != "-norequire")
        early (.call "push" (.shared .array (qualified package "ISA") :: bases.map .text))
        pure .nothing
    | "lib" => do
        early (.call "unshift" (.shared .array "main::INC" :: words.map .text))
        pure .nothing
    | _ =>
        match modules.find? fun owner => owner.name = name with
        | some owner => do
            let imports := owner.imports (arguments.map fun _ => words)
            modify fun state => { state with imports := imports ++ state.imports }
            let fixed := (namesOf faultNames ++ namesOf fileNumbers ++ namesOf processNumbers ++
              namesOf rangeNumbers ++ ["DBL_MAX", "DBL_MIN", "pi"])
            let constants := (imports.filter fun row => fixed.contains row.1).map (·.2)
            modify fun state => { state with constants := constants ++ state.constants }
            pure .nothing
        | none =>
            if pragmas.contains name then pure .nothing
            else do
              let state ← get
              let place := " at " ++ state.file ++ " line " ++ toString line ++ ".\n"
              throw ⟨2, "Can't locate " ++ modulePath name ++ " in @INC (you may need to install " ++
                "the " ++ name ++ " module) (@INC entries checked: /etc/perl)" ++ place ++
                "BEGIN failed--compilation aborted" ++ place⟩

/-- Reads a function with a name. -/
def readNamedFunction (inner : Readers) (name : String) : Reader Deed := do
  let full := qualified (← get).package name
  let number ← addBody .nothing
  modifyScript fun script => { script with functions := (full, number) :: script.functions }
  if ← accept ";" then pure .nothing
  else do
    let body ← readFunctionBody inner full
    modifyScript fun script => { script with bodies := script.bodies.set! number body }
    pure .nothing

/-- Reads a statement. -/
def readDeed (inner : Readers) : Reader Deed := do
  let text ← skip
  let line := (← get).line
  let simple : Reader Deed := do
    let term ← readTerm inner
    readModified inner line term
  match text with
  | ';' :: rest => do
      goTo rest
      pure .nothing
  | '\x7b' :: rest =>
      if looksLikeTable rest && rest.head? != some '\x7d' then simple
      else do
        let deeds ← readBlock inner
        let step ← readStep inner
        pure (.block "" (deeds ++ [step]))
  | _ => do
      let (word, rest) := takeWord text
      let beyond := withoutBlanks (rest.length + 1) rest
      let isLabel := !word.isEmpty && !isBuiltIn word && beyond.head? = some ':' &&
        beyond.tail.head? != some ':'
      let label := if isLabel then word else ""
      if isLabel then goTo beyond.tail
      let text ← skip
      let (word, rest) := if isLabel then takeWord text else (word, rest)
      let beyond := withoutBlanks (rest.length + 1) rest
      let begins : Reader Unit := goTo rest
      if "=>".toList.isPrefixOf beyond then simple
      else match word with
      | "" =>
          if isLabel && text.head? = some '\x7b' then do
            let deeds ← readBlock inner
            pure (.block label deeds)
          else simple
      | "if" | "unless" => inBlock do
          begins
          let condition ← readCondition inner
          let consequence ← readBlock inner
          let alternative ← readAlternative inner (← roomLeft)
          pure (if word = "if" then .choice line condition (.scope consequence) alternative
            else .choice line (.not condition) (.scope consequence) alternative)
      | "while" | "until" => inBlock do
          begins
          let condition ← readCondition inner
          let body ← readBlock inner
          let step ← readStep inner
          pure (.loop label line (word = "while") (loopCondition condition) step (.scope body))
      | "for" | "foreach" => do
          begins
          readFor inner label
      | "use" | "no" => do
          begins
          readUse inner (word = "use")
      | "package" => do
          begins
          let (name, rest) := takeWord (← skip)
          goTo rest
          if ← follows "\x7b" then inBlock do
            modify fun state => { state with package := name }
            .block "" <$> readBlock inner
          else do
            modify fun state => { state with package := name }
            let _ ← accept ";"
            pure .nothing
      | "sub" =>
          let (name, after) := takeWord beyond
          if name.isEmpty then simple
          else do
            goTo after
            readNamedFunction inner name
      | "BEGIN" | "END" | "INIT" | "CHECK" | "UNITCHECK" =>
          if beyond.head? != some '\x7b' then simple
          else do
            begins
            let deeds ← readBlock inner
            modifyScript fun script =>
              if word = "END" then { script with late := .scope deeds :: script.late }
              else { script with early := script.early ++ [.scope deeds] }
            pure .nothing
      | "return" => simple
      | _ => simple

/-- The readers of what is nested at most so deeply. -/
def readers : Nat → Readers
  | 0 => .nothing
  | depth + 1 =>
      let inner := readers depth
      { term := readTerm inner
        negation := readNot inner
        commas := readCommas inner
        assign := readAssign inner
        binary := readBinary inner
        unary := readUnary inner
        advance := readAdvance inner
        deed := readDeed inner }

/-! ## Scripts -/

/-- The lines of a text without those for readers, which stand from a line that begins with an
equals sign to one that says that they end. It is given whether a line is for readers. -/
def withoutNotes : Bool → List (List Char) → List (List Char)
  | _, [] => []
  | isNote, line :: rest =>
      let begins := line.head? = some '=' && line.tail.head?.any Char.isAlpha
      let ends := "=cut".toList.isPrefixOf line
      if begins || isNote then [] :: withoutNotes ((isNote || begins) && !ends) rest
      else line :: withoutNotes false rest

/-- The lines up to the end of a script, and those behind it, if there is an end. -/
def cutAtEnd : List (List Char) → List (List Char) × Option (List (List Char))
  | [] => ([], none)
  | line :: rest =>
      if line = "__END__".toList || line = "__DATA__".toList then ([], some rest)
      else
        let (before, after) := cutAtEnd rest
        (line :: before, after)

/-- How deep terms and statements can be nested. -/
def deepestReading : Nat := 2000

/-- Reads a script. -/
def readScript (file text : String) : Except Refusal Script := do
  let (lines, data) := cutAtEnd (List.splitOnP (· == '\n') text.toList)
  let lines := withoutNotes false lines
  let text := (lines.flatMap (· ++ ['\n']))
  let start : Reading := { rest := text, file, lines := lines.length + 1 }
  let (deeds, state) ← (readDeedsToEnd (readers deepestReading) (text.length + 2)).run start
  let data := data.map fun lines =>
    String.ofList (List.intercalate ['\n'] lines)
  pure { state.script with deeds, data, isStrict := state.isStrict }

/-- Reads further statements into a script, where names have been declared: the script with them,
and the number of their body. -/
def readInto (script : Script) (file text package : String) (names : List (String × Term)) :
    Except Refusal (Script × Nat) := do
  let letters := text.toList ++ ['\n']
  let lines := (letters.filter (· = '\n')).length + 1
  let start : Reading :=
    { rest := letters, file, lines, script, package
      scope := names.map fun (name, place) => (name, 0, place)
      memories := script.bodies.size * 100 + 1000, isStrict := script.isStrict }
  let (deeds, state) ← (readDeedsToEnd (readers deepestReading) (letters.length + 2)).run start
  let number := state.script.bodies.size
  pure ({ state.script with bodies := state.script.bodies.push (.scope deeds) }, number)

end StaticMulticast.Host.Utility.Statement
