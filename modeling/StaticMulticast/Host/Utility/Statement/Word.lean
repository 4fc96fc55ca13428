import StaticMulticast.Host.Utility.Statement.Name

/-!
# Words in scripts of statements

What a word at the front of a term means: a built-in function with its arguments, a function of the
script or of the library, names that are declared, or a word that is nothing else.
-/

namespace StaticMulticast.Host.Utility.Statement

/-- Two terms with an operator between them. -/
def operation (operator : String) (first second : Term) : Term :=
  match operator with
  | "&&" => .both first second
  | "||" => .either first second
  | "//" => .instead first second
  | "x" =>
      match first with
      | .list _ => .copies first second
      | _ => .operate operator first second
  | "=~" | "!~" =>
      let isWanted := operator = "=~"
      match second with
      | .search _ none pattern flags => .search isWanted (some first) pattern flags
      | .replace none pattern replacement flags =>
          let term := .replace (some first) pattern replacement flags
          if isWanted then term else .not term
      | .translate none wanted others flags =>
          let term := .translate (some first) wanted others flags
          if isWanted then term else .not term
      | _ => .search isWanted (some first) second ""
  | _ => .operate operator first second

/-- The arguments of a built-in function, with those that are meant if there are none. -/
def withUsual (word : String) (arguments : List Term) : Reader (List Term) := do
  let isInside := 0 < (← get).depth
  if !arguments.isEmpty then pure arguments
  else if word = "shift" || word = "pop" then
    pure [.shared .array (if isInside then "main::_" else "main::ARGV")]
  else if topicFunctions.contains word then pure [.topic]
  else pure []

/-- The names that are seen, with what they stand for. -/
def seenNames : Reader (List (String × Term)) := do
  let state ← get
  state.scope.forM fun (_, _, place) => keep place
  pure (state.scope.foldl (fun names (name, _, place) =>
    if (names.lookup name).isSome then names else names ++ [(name, place)]) [])

/-- Reads further terms with commas between them. The last one can be followed by a comma. -/
def readMore (inner : Readers) : Nat → List Term → Reader (List Term)
  | 0, _ => wrong
  | bound + 1, done => do
      if (← accept ",") || (← accept "=>") then do
        let text ← skip
        if text.isEmpty || [',', ')', ']', '\x7d', ';'].contains (text.headD ' ') ||
            "=>".toList.isPrefixOf text ||
            (joiningWords.contains (takeWord text).1 && (takeWord text).1 != "x") then
          readMore inner bound done
        else do
          let term ← inner.assign
          readMore inner bound (term :: done)
      else pure done.reverse

/-- Reads further operands of operators that bind at least as tightly as a level. -/
def readOperations (inner : Readers) : Nat → Nat → Term → Reader Term
  | 0, _, _ => wrong
  | bound + 1, level, first => do
      match operatorAt? (← skip) with
      | some (operator, own, rest) =>
          if own < level || operator = "**" then pure first
          else do
            goTo rest
            let second ← inner.binary (own + 1)
            readOperations inner bound level (operation operator first second)
      | none => pure first

/-- Reads statements up to a closing brace. -/
def readDeeds (inner : Readers) : Nat → Reader (List Deed)
  | 0 => wrong
  | bound + 1 => do
      if ← accept "\x7d" then pure []
      else do
        let deed ← inner.deed
        pure (deed :: (← readDeeds inner bound))

/-- Reads statements in braces. -/
def readBlock (inner : Readers) : Reader (List Deed) := do
  expect "\x7b"
  inBlock (readDeeds inner (← roomLeft))

/-- Reads all statements up to the end of the text. -/
def readDeedsToEnd (inner : Readers) : Nat → Reader (List Deed)
  | 0 => wrong
  | bound + 1 => do
      if (← skip).isEmpty then pure []
      else do
        let deed ← inner.deed
        pure (deed :: (← readDeedsToEnd inner bound))

/-- Reads the arguments of a function, with parentheses or without. -/
def readOpenArguments (inner : Readers) : Reader (List Term) := do
  let text ← skip
  if text.head? = some '(' then readArguments inner
  else if beginsTerm text || text.head? = some '/' then termsOf <$> inner.commas
  else pure []

/-- Reads the argument of a function that takes one. -/
def readOwnArgument (inner : Readers) : Reader (List Term) := do
  let text ← skip
  if text.head? = some '(' then readArguments inner
  else if text.head? != some '\x7b' && text.head? != some '<' && beginsTerm text then
    List.singleton <$> inner.binary argumentLevel
  else if text.head? = some '<' && beginsTerm text then
    List.singleton <$> inner.binary argumentLevel
  else pure []

/-- Reads a name that is declared. -/
def readDeclaredName (word : String) : Reader Term := do
  let text ← skip
  let shape : Shape := match text.head? with
    | some '@' => .array
    | some '%' => .table
    | _ => .scalar
  if (takeWord text).1 = "undef" then do
    goTo (text.drop 5)
    pure (.list [])
  else if "$@%".toList.contains (text.headD ' ') then do
    let (name, rest) := takeWord (withoutBlanks text.length text.tail)
    if name.isEmpty then wrong
    else do
      goTo rest
      if word = "our" then do
        let place := Term.shared shape (qualified (← get).package name)
        nameAs (String.singleton shape.mark ++ name) place
        pure place
      else declareName shape name
  else wrong

/-- Reads names that are declared, up to a closing parenthesis. -/
def readDeclaredList (word : String) : Nat → Reader (List Term)
  | 0 => wrong
  | bound + 1 => do
      if ← accept ")" then pure []
      else do
        let place ← readDeclaredName word
        let _ ← accept ","
        pure (place :: (← readDeclaredList word bound))

/-- Reads names that are declared. -/
def readDeclared (inner : Readers) (word : String) : Reader Term := do
  if word = "local" then do
    let term ← inner.advance
    pure (match term with
      | .list places => .hide true places
      | place => .hide false [place])
  else if ← accept "(" then do
    let places ← readDeclaredList word (← roomLeft)
    pure (if word = "our" then .list places else .declare true places)
  else do
    let (name, rest) := takeWord (← skip)
    if !name.isEmpty && name != "undef" then goTo rest
    let place ← readDeclaredName word
    if word = "my" then pure (.declare false [place])
    else if word = "state" then do
      keep place
      pure (.once (← addMemory) place place)
    else pure place

/-- Reads where something is written, if that is said. -/
def readHandle (inner : Readers) : Reader (Option Term) := do
  let text ← skip
  match text with
  | '\x7b' :: rest => do
      goTo rest
      let handle ← inner.term
      let _ ← accept ";"
      expect "\x7d"
      pure (some handle)
  | '$' :: rest =>
      let (name, after) := takeWord rest
      let beyond := withoutBlanks (after.length + 1) after
      let isNext := match beyond with
        | [] => false
        | letter :: next =>
            after.head?.any Char.isWhitespace &&
              ("\"'$@\\".toList.contains letter || letter.isDigit || letter.toNat = 0x60 ||
                (letter = '<' && next.head? = some '<' && next.tail.head?.any fun mark =>
                  mark = '"' || mark = '\'' || mark = '~' || mark.isUpper) ||
                (isNameStart letter && !joiningWords.contains (takeWord beyond).1))
      if !name.isEmpty && isNext then do
        goTo after
        some <$> resolve .scalar name
      else pure none
  | _ =>
      let (name, after) := takeWord text
      let beyond := withoutBlanks (after.length + 1) after
      let isName := name.toList.all fun letter =>
        letter.isUpper || letter.isDigit || letter = '_' || letter = ':'
      let isNext := match beyond with
        | '(' :: _ | ',' :: _ | '.' :: _ | '+' :: _ | '-' :: _ | '*' :: _ | '=' :: _ => false
        | _ => true
      let known ← knownFunction? name
      let isConstant := (← get).constants.contains name
      if !name.isEmpty && isName && isNext && known.isNone && !isConstant &&
          !("__".toList.isPrefixOf name.toList) then do
        goTo after
        pure (some (.bare name))
      else pure none

/-- Reads what is written. -/
def readWrite (inner : Readers) (way : String) : Reader Term := do
  if ← accept "(" then do
    let handle ← readHandle inner
    if ← accept ")" then pure (.write way handle [])
    else do
      let term ← inner.term
      expect ")"
      pure (.write way handle (termsOf term))
  else do
    let handle ← readHandle inner
    let text ← skip
    if beginsTerm text || text.head? = some '/' || text.head? = some '(' then do
      .write way handle <$> (termsOf <$> inner.commas)
    else pure (.write way handle [])

/-- Reads statements in braces as a body, and gives its number. -/
def readBody (inner : Readers) : Reader Nat := do
  let deeds ← readBlock inner
  addBody (.scope deeds)

/-- Reads the names of arguments up to a closing parenthesis, with what sets those that are left out.
-/
def readParameters (inner : Readers) : Nat → Nat → Reader (List Term × List Deed)
  | 0, _ => wrong
  | bound + 1, index => do
      if ← accept ")" then pure ([], [])
      else do
        let text ← skip
        let shape : Shape := match text.head? with
          | some '@' => .array
          | some '%' => .table
          | _ => .scalar
        let (name, rest) := takeWord text.tail
        goTo rest
        let place ← if name.isEmpty then pure (.list []) else declareName shape name
        let line := (← get).line
        let usual ← if (← accept "//=") || (← accept "||=") || (← accept "=") then do
            if (← follows ",") || (← follows ")") then pure []
            else do
              let value ← inner.assign
              let count := Term.call "scalar" [.shared .array "main::_"]
              let isMissing := Term.operate "<" count (.number (index + 1))
              pure [Deed.choice line isMissing (.evaluate line (.assign "" place value)) .nothing]
          else pure []
        let _ ← accept ","
        let (places, others) ← readParameters inner bound (index + 1)
        pure (place :: places, usual ++ others)

/-- Reads the arguments and the statements of a function, which may have a name. -/
def readFunctionBody (inner : Readers) (name : String) : Reader Deed := do
  let depth := (← get).depth
  let pending := (← get).pending
  modify fun state => { state with depth := depth + 1, pending := [] }
  let body ← inBlock do
    let text ← skip
    let start ← if text.head? = some '(' then do
        let (_, inside) ← takeQuoted
        if inside.all fun letter => "$@%&*;\\[]_+ ".toList.contains letter then do
          if !name.isEmpty then
            if inside.all Char.isWhitespace then
              modify fun state => { state with constants := name :: state.constants }
            else if inside.head? = some '&' then
              modify fun state => { state with takers := name :: state.takers }
          pure []
        else within (inside ++ [')']) (do
          let (places, usual) ← readParameters inner (← roomLeft) 0
          let line := (← get).line
          settle
          let all := Deed.evaluate line
            (.assign "" (.declare true places) (.shared .array "main::_"))
          pure (all :: usual))
      else pure []
    if (← follows ":") then do
      let rest := (← get).rest.dropWhile (· != '\x7b')
      goTo rest
    let deeds ← readBlock inner
    pure (Deed.group (start ++ deeds))
  modify fun state => { state with depth, pending }
  pure body

/-- Reads a function from its arguments on, and gives the number of its body. -/
def readFunction (inner : Readers) : Reader Nat := do
  let body ← readFunctionBody inner ""
  addBody body

/-- Reads a function that goes through a list. -/
def readSift (inner : Readers) (way : String) : Reader Term := do
  let isEnclosed ← accept "("
  let text ← skip
  let isSort := way = "sort"
  let body ← match text with
    | '\x7b' :: rest =>
        if way = "map" && looksLikeTable rest then do
          let term ← inner.assign
          expect ","
          pure term
        else do
          let body ← readBody inner
          let _ ← accept ","
          pure (.perform body)
    | '$' :: rest =>
        let (name, after) := takeWord rest
        let beyond := withoutBlanks (after.length + 1) after
        let isFunction := isSort && !name.isEmpty && after.head?.any Char.isWhitespace &&
          (beyond.head?.any fun letter => letter = '@' || letter = '(' || isNameStart letter) &&
          !joiningWords.contains (takeWord beyond).1
        if isFunction then do
          goTo after
          pure (.callValue (← resolve .scalar name) (some []))
        else if isSort then pure (.list [])
        else do
          let term ← inner.assign
          expect ","
          pure term
    | _ =>
        let (name, after) := takeWord text
        let beyond := withoutBlanks (after.length + 1) after
        let isFunction := isSort && !name.isEmpty && !isBuiltIn name &&
          (beyond.head?.any fun letter => letter = '@' || letter = '$' || isNameStart letter)
        if isFunction then do
          goTo after
          pure (.callNamed (qualified (← get).package name) (some []))
        else if isSort then pure (.list [])
        else do
          let term ← inner.assign
          expect ","
          pure term
  let text ← skip
  let list ← if text.isEmpty || text.head? = some ')' || !beginsTerm text then pure (.list [])
    else .list <$> (termsOf <$> (if isEnclosed then inner.term else inner.commas))
  if isEnclosed then expect ")"
  pure (.sift way (← get).package body list)

/-- Reads a function that is called, or a word that is nothing else. -/
def readCall (inner : Readers) (word : String) : Reader Term := do
  let text ← skip
  let state ← get
  let known ← knownFunction? word
  let full := known.getD (qualified state.package word)
  let short := (word.toList.reverse.takeWhile fun letter => letter != ':').reverse
  let takesBlock := known.any fun name =>
    state.takers.contains name ||
      (state.script.functions.lookup name).isNone &&
        blockFunctions.contains (String.ofList short)
  if "->".toList.isPrefixOf text && (known.isNone || word.toList.head?.any Char.isUpper) then
    pure (.bare word)
  else if state.constants.contains full || state.constants.contains word then do
    if text.head? = some '(' then
      let _ ← readArguments inner
    pure (.callNamed full (some []))
  else if takesBlock && (text.head? = some '\x7b' || "(\x7b".toList.isPrefixOf text) then do
    let isEnclosed ← accept "("
    let isOwn := state.takers.contains full
    let body ← if isOwn then .newFunction <$> readFunction inner
      else .perform <$> readBody inner
    let _ ← accept ","
    let rest ← skip
    let arguments ← if rest.head? = some ')' || !beginsTerm rest then pure []
      else termsOf <$> (if isEnclosed then inner.term else inner.commas)
    if isEnclosed then expect ")"
    if isOwn then pure (.callNamed full (some (body :: arguments)))
    else pure (.sift (String.ofList short) state.package body (.list arguments))
  else if text.head? = some '(' then do
    let arguments ← readArguments inner
    pure (.callNamed full (some arguments))
  else if known.isSome then do
    let arguments ← readOpenArguments inner
    pure (.callNamed full (some arguments))
  else if word = "new" && text.head?.any isNameStart then do
    let (package, rest) := takeWord text
    goTo rest
    let arguments ← if ← follows "(" then readArguments inner else pure []
    pure (.callMethod (.bare package) (.text "new") arguments)
  else pure (.bare word)

/-- Reads on behind a term that begins another one. -/
def readAgain (inner : Readers) (term : Term) : Reader Term := do
  let term ← match term with
    | .list _ => do
        if ← follows "[" then do
          expect "["
          let indices ← inner.term
          expect "]"
          pure (.pick term indices)
        else pure term
    | _ => pure term
  let term ← readOperations inner (← roomLeft) 1 term
  let term ← if ← accept "?" then do
      let consequence ← inner.assign
      expect ":"
      pure (Term.choice term consequence (← inner.assign))
    else pure term
  if (← follows ",") || (← follows "=>") then .list <$> readMore inner (← roomLeft) [term]
  else pure term

/-- Reads what a word means. -/
def readWord (inner : Readers) (word : String) : Reader Term := do
  let text ← skip
  let state ← get
  let isBrace := text.head? = some '\x7b'
  if "=>".toList.isPrefixOf text then pure (.text word)
  else match word with
  | "my" | "our" | "local" | "state" => readDeclared inner word
  | "sub" => .newFunction <$> readFunction inner
  | "do" => if isBrace then .perform <$> readBody inner else .call "do" <$> readOwnArgument inner
  | "eval" =>
      if isBrace then .attempt <$> readBody inner
      else do
        let arguments ← readOwnArgument inner
        let names ← seenNames
        pure (.interpret (arguments.headD .topic) names state.package)
  | "print" | "printf" | "say" => readWrite inner word
  | "sort" | "map" | "grep" => readSift inner word
  | "__FILE__" => pure (.text state.file)
  | "__LINE__" => pure (.number state.line)
  | "__PACKAGE__" => pure (.text state.package)
  | "not" => .not <$> inner.negation
  | "last" | "next" | "redo" =>
      let (label, rest) := takeWord text
      if !label.isEmpty && !joiningWords.contains label then do
        goTo rest
        pure (.call word [.text label])
      else pure (.call word [.text ""])
  | "goto" => do
      let term ← inner.unary
      pure (.call "return" [term])
  | "defined" | "exists" => do
      let isEnclosed := text.head? = some '('
      let inside := if isEnclosed then withoutBlanks text.length text.tail else text
      match inside with
      | '&' :: rest => do
          let (name, after) := takeWord rest
          if name.isEmpty then .call word <$> readOwnArgument inner
          else do
            goTo after
            if isEnclosed then expect ")"
            pure (.call word [.shared .function (qualified state.package name)])
      | _ => do .call word <$> withUsual word (← readOwnArgument inner)
  | "require" =>
      let (name, rest) := takeWord text
      if name.isEmpty then do .call word <$> readOwnArgument inner
      else do
        goTo rest
        pure (.call word [.bare name])
  | "bless" => do
      let arguments ← readOpenArguments inner
      pure (.call word (if arguments.length = 1 then arguments ++ [.text state.package]
        else arguments))
  | "split" | "return" | "die" | "push" => do
      let arguments ← if text.head? = some '(' then readArguments inner
        else if beginsTerm text || text.head? = some '/' then termsOf <$> inner.commas
        else pure []
      if word = "return" && text.head? = some '(' then do
        let term ← readAgain inner (.list arguments)
        pure (.call word [term])
      else pure (.call word arguments)
  | "pos" => do .call word <$> withUsual word (← readOwnArgument inner)
  | _ =>
      let imported := if isBuiltIn word then state.imports.lookup word else none
      match imported with
      | some full => do
          let arguments ← if bareFunctions.contains word then pure [] else readOwnArgument inner
          if bareFunctions.contains word && text.head? = some '(' then
            let _ ← readArguments inner
          pure (.callNamed full (some arguments))
      | none =>
      if unaryFunctions.contains word then do
        .call word <$> withUsual word (← readOwnArgument inner)
      else if listFunctions.contains word then do
        .call word <$> withUsual word (← readOpenArguments inner)
      else if bareFunctions.contains word then do
        if text.head? = some '(' then
          let _ ← readArguments inner
        pure (.call word [])
      else if joiningWords.contains word || ["else", "elsif"].contains word then wrong
      else readCall inner word

end StaticMulticast.Host.Utility.Statement
