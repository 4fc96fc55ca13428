import StaticMulticast.Host.Shell.Command
import StaticMulticast.Host.Shell.Word

/-!
# Reading commands

A script is read a line at a time: a line that is no command only matters once it is reached. The
words that hold commands together, such as `if` and `fi`, have that meaning only where a command can
begin and only if nothing in them is quoted.
-/

namespace StaticMulticast.Host.Shell

/-! ## Assignments -/

/-- The letters of a name in front of a word, and the pieces after them. -/
def leadingName : Word → List Char × Word
  | .letter character false :: rest =>
      if continuesName character then
        let (name, rest) := leadingName rest
        (character :: name, rest)
      else ([], .letter character false :: rest)
  | word => ([], word)

/-- The pieces up to a closing bracket, and those after it. -/
def upToBracket : Word → Option (Word × Word)
  | [] => none
  | .letter ']' false :: rest => some ([], rest)
  | piece :: rest => (upToBracket rest).map fun (inside, after) => (piece :: inside, after)

/-- What stands after the name of an assignment: whether the value is added, and the value. -/
def assignedValue? : Word → Option (Bool × Word)
  | .letter '=' false :: value => some (false, value)
  | .letter '+' false :: .letter '=' false :: value => some (true, value)
  | _ => none

/-- The assignment that a word is. -/
def assignment? (isExtended : Bool) (word : Word) : Option Assignment :=
  let (name, rest) := leadingName word
  if !isName name then none
  else match rest with
    | .letter '[' false :: inside =>
        if isExtended then do
          let (subscript, rest) ← upToBracket inside
          let (adds, value) ← assignedValue? rest
          some (.text (String.ofList name) (some subscript) adds value)
        else none
    | _ =>
        match assignedValue? rest with
        | some (adds, value) =>
            if adds && !isExtended then none
            else some (.text (String.ofList name) none adds value)
        | none => none

/-- The word is an assignment whose value is still to come. -/
def isOpenAssignment (word : Word) : Bool :=
  match assignment? true word with
  | some (.text _ none _ []) => true
  | _ => false

/-- A member of a list, with its place if one is given. -/
def member (word : Word) : Option Word × Word :=
  match word with
  | .letter '[' false :: inside =>
      match upToBracket inside with
      | some (subscript, .letter '=' false :: value) => (some subscript, value)
      | _ => (none, word)
  | _ => (none, word)

/-! ## Text in the script -/

/-- The tabs at the beginning of a line are dropped. -/
def withoutTabs (line : List Char) : List Char :=
  line.dropWhile (· == '\t')

/-- Joins lines. -/
def joinLines (lines : List (List Char)) : List Char :=
  (lines.map (· ++ ['\n'])).flatten

/-- The letters of a word, and whether any of them is quoted. -/
def delimiter (word : Word) : List Char × Bool :=
  (word.filterMap fun
    | .letter character _ => some character
    | _ => none,
  word.any fun
    | .letter _ quoted => quoted
    | .quotes => true
    | _ => false)

/-- Takes the text that begins after this line and ends before the line of the delimiter. -/
def takeDocument (strips : Bool) (ending : List Char) : Reader (List Char) := do
  let source ← get
  let (line, after) := source.rest.span (· != '\n')
  let lines := List.splitOnP (· == '\n') after.tail
  let lines := if strips then lines.map withoutTabs else lines
  let inside := lines.takeWhile (· != ending)
  let ended := inside.length < lines.length
  let inside := if ended || inside.getLast? != some [] then inside else inside.dropLast
  let rest := ((List.splitOnP (· == '\n') after.tail).drop (inside.length + 1))
  let rest := (rest.intersperse ['\n']).flatten
  set { source with
    rest := if ended then line ++ '\n' :: rest else line
    ahead := source.ahead + inside.length + 1 : Source }
  pure (joinLines inside)

/-- A redirection that has been read, with its text. If it is one to a text in the script, that text is
there as well. -/
structure Redirecting where
  redirection : Redirection
  text : String
  document : Option String := none

/-- Reads a redirection to the text in the script up to a delimiter. -/
def readHereDocument (inner : Inner) (fuel : Nat) (descriptor : Option Nat) (front : String)
    (strips : Bool) : Reader Redirecting := do
  skipBlanks
  let (mark, written) ← withText (readWord inner fuel)
  let (ending, isQuoted) := delimiter mark
  let { line, ahead, aliases, .. } ← get
  let text ← takeDocument strips ending
  let finish (word : Word) : Redirecting :=
    ⟨.mk descriptor .text word, front ++ written, String.ofList (text ++ ending ++ ['\n'])⟩
  if isQuoted then pure (finish (letters true text))
  else match (readDocument inner fuel []).run { rest := text, line := line + ahead + 1, aliases } with
    | some (word, _) => pure (finish word)
    | none => failure

/-! ## Redirections -/

/-- The variable in braces in front of a redirection, which is to keep the descriptor. -/
def namedDescriptor? (text : List Char) : Option String :=
  match text with
  | '\x7b' :: rest =>
      let (inside, after) := rest.span (· != '\x7d')
      let (name, place) := inside.span continuesName
      let isPlace := place.isEmpty ||
        (place.head? = some '[' && place.getLast? = some ']' && !place.any endsWord)
      let follows := (after.drop 1).head?
      if isName name && isPlace && (follows = some '<' || follows = some '>') then
        some (String.ofList inside)
      else none
  | _ => none

/-- A redirection follows, perhaps after a digit for the descriptor. -/
def redirectionFollows (isExtended : Bool) : Reader Bool := do
  let { rest, .. } ← get
  match rest with
  | '<' :: '(' :: _ => pure (!isExtended)
  | '>' :: '(' :: _ => pure (!isExtended)
  | '<' :: _ => pure true
  | '>' :: _ => pure true
  | '&' :: '>' :: _ => pure isExtended
  | '\x7b' :: _ => pure (isExtended && (namedDescriptor? rest).isSome)
  | first :: others =>
      let after := if isExtended then others.dropWhile Char.isDigit else others
      pure (first.isDigit && (after.head? = some '<' || after.head? = some '>'))
  | _ => pure false

/-- Reads a redirection of a descriptor. -/
def readRedirectionOf (inner : Inner) (fuel : Nat) (descriptor : Option Nat) :
    Reader Redirecting := do
  let number (usual : Nat) : String := match descriptor with
    | some descriptor => if descriptor = usual then "" else toString descriptor
    | none => ""
  let finish (direction : Direction) (front : String) : Reader Redirecting := do
    skipBlanks
    let (target, text) ← withText (readWord inner fuel)
    pure ⟨.mk descriptor direction target, front ++ " " ++ text, none⟩
  let copying (usual : Nat) (mark text : String) : String :=
    toString (descriptor.getD usual) ++ (if text = "-" then ">&" else mark) ++ text
  if ← accept "&>>" then finish (.everything true) "&>>"
  else if ← accept "&>" then finish (.everything false) "&>"
  else if inner.isExtended && (← startsWith "<<<") then do
    drop 3
    finish .line (number 0 ++ "<<<")
  else if ← accept "<<-" then readHereDocument inner fuel descriptor (number 0 ++ "<<-") true
  else if ← accept "<<" then readHereDocument inner fuel descriptor (number 0 ++ "<<") false
  else if ← accept "<&" then do
    let { redirection, text, .. } ← finish .copy ""
    pure ⟨redirection, copying 0 "<&" (String.ofList text.toList.tail), none⟩
  else if ← accept "<>" then finish .both (toString (descriptor.getD 0) ++ "<>")
  else if ← accept "<" then finish .input (number 0 ++ "<")
  else if ← accept ">>" then finish .appending (number 1 ++ ">>")
  else if ← accept ">|" then finish .replacement (number 1 ++ ">|")
  else if ← accept ">&" then do
    skipBlanks
    let (target, text) ← withText (readWord inner fuel)
    let isNumber := (plainText? target).any fun text => text = ['-'] || text.all Char.isDigit
    let hasValue := (plainText? target).isNone
    if inner.isExtended && descriptor.isNone && !isNumber && !hasValue then
      pure ⟨.mk none (.everything false) target, "&> " ++ text, none⟩
    else pure ⟨.mk (some (descriptor.getD 1)) .copy target, copying 1 ">&" text, none⟩
  else do
    expect ">"
    finish .output (number 1 ++ ">")

/-- Reads a redirection. -/
def readRedirection (inner : Inner) (fuel : Nat) : Reader Redirecting := do
  match namedDescriptor? (← get).rest with
  | some name => do
      drop (name.length + 2)
      let read ← readRedirectionOf inner fuel none
      match read.redirection with
      | .mk _ direction target =>
          pure { read with
            redirection := .named name direction target
            text := "\x7b" ++ name ++ "\x7d" ++ read.text }
      | _ => pure read
  | none => do
      let digits ← takeWhile Char.isDigit
      readRedirectionOf inner fuel (String.ofList digits).toNat?

/-- Reads redirections as long as there are any. -/
def readRedirections (inner : Inner) : Nat → List Redirecting → Reader (List Redirecting)
  | 0, _ => failure
  | fuel + 1, done => do
      skipBlanks
      if ← redirectionFollows inner.isExtended then
        readRedirections inner fuel ((← readRedirection inner fuel) :: done)
      else pure done.reverse

/-! ## Words with a meaning -/

/-- The words that end a list of commands. -/
def closingWords : List String := ["then", "elif", "else", "fi", "do", "done", "esac", "\x7d"]

/-- The words with a meaning in both languages. -/
def commonWords : List String :=
  closingWords ++ ["if", "!", "\x7b", "while", "until", "for", "case"]

/-- The word with a meaning that follows, if one does. -/
def peekReserved (isExtended : Bool) : Reader (Option String) := do
  let text := String.ofList ((← get).rest.takeWhile fun character => !endsWord character)
  if commonWords.contains text then pure (some text)
  else if isExtended && ["[[", "function", "time", "select", "coproc"].contains text then
    pure (some text)
  else pure none

/-- Takes a word with a meaning, which must follow. -/
def expectReserved (word : String) : Reader Unit := do
  skipBlanks
  if (← peekReserved true) = some word then drop word.length else failure

/-- A list of commands ends here. -/
def listEnds : Reader Bool := do
  match (← get).rest with
  | [] => pure true
  | ')' :: _ => pure true
  | ';' :: _ => pure true
  | _ => pure ((← peekReserved false).any closingWords.contains)

/-- A separator of commands is taken: one that lets the command before it run in the background or
one that does not. -/
def takeSeparator : Reader (Option Bool) := do
  skipBlanks
  match (← get).rest with
  | ';' :: ';' :: _ => pure none
  | ';' :: '&' :: _ => pure none
  | ';' :: _ => do drop 1; pure (some false)
  | '&' :: '&' :: _ => pure none
  | '&' :: _ => do drop 1; pure (some true)
  | _ => pure none

/-- A command that runs in the background or not, with its text. -/
def placed (command : Command × String) (isBackground : Bool) : Command :=
  if isBackground then .background command.2 command.1 else command.1

/-- A command with the redirections that follow it. -/
def withRedirections (command : Command) : List Redirecting → Command
  | [] => command
  | redirections =>
      let text := String.intercalate " " (redirections.map Redirecting.text)
      .redirected { text, documents := redirections.filterMap Redirecting.document } command
        (redirections.map Redirecting.redirection)

/-! ## Simple commands -/

/-- The commands whose errors end a script of the plain language. -/
def specialCommands : List String :=
  [":", ".", "break", "continue", "eval", "exec", "exit", "export", "readonly", "return", "set",
    "shift", "times", "trap", "unset", "local"]

/-- A function of the plain language can have the name. -/
def mayBeDefined (name : List Char) : Bool :=
  isName name && !specialCommands.contains (String.ofList name)

/-- Reads the members of a list up to the closing parenthesis, each with its text. -/
def readMembers (inner : Inner) : Nat → List ((Option Word × Word) × String) →
    Reader (List ((Option Word × Word) × String))
  | 0, _ => failure
  | fuel + 1, done => do
      skipLines (fuel + 1)
      if ← accept ")" then pure done.reverse
      else do
        let (word, text) ← withText (readMember inner fuel)
        readMembers inner fuel ((member word, text) :: done)
where
  /-- Reads a member of a list. Between the brackets around its place anything can stand. -/
  readMember (inner : Inner) (fuel : Nat) : Reader Word := do
    let before ← get
    let line := before.rest.takeWhile (· != '\n')
    if line.head? = some '[' && (line.zip line.tail).contains (']', '=') then do
      drop 1
      let (inside, _) ← readArgument inner fuel false [']'] []
      if (← peek) = some '=' then
        readWordFrom inner fuel ((letters false ['['] ++ inside ++ letters false [']']).reverse)
      else do
        set before
        readWord inner fuel
    else readWord inner fuel

/-- What has been read of a simple command, in reverse. Lists that stand among the words are
assigned after the command has run, which has declared their names. -/
structure Draft where
  assignments : List Assignment := []
  words : List Word := []
  redirections : List Redirecting := []
  later : List Assignment := []
  /-- The texts of the assignments and of the words. -/
  texts : List String := []

/-- The command of a draft that stands on a line. -/
def Draft.command (draft : Draft) (line : Nat) : Command :=
  let redirections := draft.redirections.reverse
  let texts := draft.texts.reverse ++ redirections.map Redirecting.text
  let origin : Origin :=
    ⟨line, String.intercalate " " texts, redirections.filterMap Redirecting.document⟩
  let command := .simple origin draft.assignments.reverse draft.words.reverse
    (redirections.map Redirecting.redirection)
  if draft.later.isEmpty then command
  else .sequence [command, .simple { origin with text := "" } draft.later.reverse [] []]

/-- The draft has nothing in it. -/
def Draft.isEmpty (draft : Draft) : Bool :=
  draft.assignments.isEmpty && draft.words.isEmpty && draft.redirections.isEmpty

/-- Adds a list to a draft. -/
def Draft.addList (draft : Draft) (word : Word) (text : String)
    (members : List ((Option Word × Word) × String)) : Draft :=
  let inside := String.intercalate " " (members.map fun member => member.2)
  let text := text ++ "(" ++ inside ++ ")"
  let draft := { draft with texts := text :: draft.texts }
  match assignment? true word with
  | some (.text name _ adds _) =>
      let assignment := .list text name adds (members.map fun member => member.1)
      if draft.words.isEmpty then { draft with assignments := assignment :: draft.assignments }
      else
        { draft with
          words := letters false name.toList :: draft.words
          later := assignment :: draft.later }
  | _ => draft

/-- Adds a word to a draft. -/
def Draft.addWord (draft : Draft) (isExtended : Bool) (word : Word) (text : String) : Draft :=
  let draft := { draft with texts := text :: draft.texts }
  match if draft.words.isEmpty then assignment? isExtended word else none with
  | some assignment => { draft with assignments := assignment :: draft.assignments }
  | none => { draft with words := word :: draft.words }

/-- A name and an opening bracket follow, as in an assignment to a member of a list. The number of
their characters is given. -/
def memberFollows? : Reader (Option Nat) := do
  let (name, rest) := (← get).rest.span continuesName
  pure (if isName name && rest.head? = some '[' then some (name.length + 1) else none)

/-- Reads a word that can be an assignment to a member of a list, between whose brackets anything can
stand. -/
def readTarget (inner : Inner) (fuel : Nat) : Reader Word := do
  let before ← get
  match ← memberFollows? with
  | none => readWord inner fuel
  | some length => do
      let front := letters false (before.rest.take length)
      drop length
      let isClosed := (((← get).rest.takeWhile (· != '\n'))).contains ']'
      if !isClosed then do
        set before
        readWord inner fuel
      else do
        let (inside, _) ← readArgument inner fuel false [']'] []
        let word := front ++ inside ++ letters false [']']
        readWordFrom inner fuel word.reverse

/-- Reads a simple command, or the name and the parentheses of a definition. -/
def readSimple (inner : Inner) : Nat → Draft → Reader (Draft × Option String)
  | 0, _ => failure
  | fuel + 1, draft => do
      skipBlanks
      match ← peek with
      | none => pure (draft, none)
      | some character =>
          if ← redirectionFollows inner.isExtended then do
            let redirection ← readRedirection inner fuel
            readSimple inner fuel { draft with redirections := redirection :: draft.redirections }
          else if character = '(' then
            match draft with
            | { assignments := [], words := [name], redirections := [], later := [], .. } => do
                drop 1
                skipBlanks
                expect ")"
                match plainText? name with
                | some name =>
                    if inner.isExtended || mayBeDefined name then
                      pure (draft, some (String.ofList name))
                    else failure
                | none => failure
            | _ => failure
          else if endsWord character && !(← pathFollows inner) then pure (draft, none)
          else if ← (if draft.words.isEmpty then pure true else resumesReplacing) <&&>
              replaceWord commonWords.contains then
            readSimple inner fuel draft
          else do
            let isFirst := draft.words.isEmpty && inner.isExtended
            let (word, text) ← withText
              (if isFirst then readTarget inner fuel else readWord inner fuel)
            if inner.isExtended && isOpenAssignment word && (← startsWith "(") then do
              drop 1
              let members ← readMembers inner fuel []
              readSimple inner fuel (draft.addList word text members)
            else readSimple inner fuel (draft.addWord inner.isExtended word text)

/-- Reads the words of a condition in double brackets, each with its text. Operators in it are words
as well. -/
def readConditionWords (inner : Inner) : Nat → List (Word × String) →
    Reader (List (Word × String))
  | 0, _ => failure
  | fuel + 1, done => do
      skipLines (fuel + 1)
      let operator (text : String) : Reader (List (Word × String)) :=
        readConditionWords inner fuel ((letters false text.toList, text) :: done)
      let isRegular := (done.head?.bind fun row => plainText? row.1) = some "=~".toList
      if isRegular then
        readConditionWords inner fuel ((← withText (readRegular inner fuel 0 [])) :: done)
      else if (← peekReserved true) = none && (← startsWith "]]") then do
        drop 2
        pure done.reverse
      else if ← accept "&&" then operator "&&"
      else if ← accept "||" then operator "||"
      else if ← accept "(" then operator "("
      else if ← accept ")" then operator ")"
      else if ← accept "<" then operator "<"
      else if ← accept ">" then operator ">"
      else readConditionWords inner fuel ((← withText (readWord inner fuel)) :: done)
where
  /-- Reads a regular expression, in which parentheses are letters. -/
  readRegular (inner : Inner) : Nat → Nat → Word → Reader Word
    | 0, _, _ => failure
    | fuel + 1, depth, done => do
        let word ← readWordFrom inner fuel []
        let done := done ++ word
        match ← peek with
        | some ' ' =>
            if depth = 0 then (if done.isEmpty then failure else pure done)
            else do
              drop 1
              readRegular inner fuel depth (done ++ letters false [' '])
        | some '(' => do
            drop 1
            readRegular inner fuel (depth + 1) (done ++ letters false ['('])
        | some '|' => do
            if ← startsWith "||" then pure done
            else do
              drop 1
              readRegular inner fuel depth (done ++ letters false ['|'])
        | some ')' =>
            match depth with
            | 0 => pure done
            | depth + 1 => do
                drop 1
                readRegular inner fuel depth (done ++ letters false [')'])
        | _ => if done.isEmpty then failure else pure done

/-- A command that is not a simple one follows. -/
def compoundFollows : Reader Bool := do
  if ← startsWith "(" then pure true
  else
    let words := ["\x7b", "if", "while", "until", "for", "select", "case", "[["]
    pure ((← peekReserved true).any words.contains)

/-! ## Texts of commands -/

/-- The texts of the words of a condition. It is told whether a condition begins; a word that is one by
itself is a check that it is not empty. -/
def conditionTexts (begins : Bool) : List String → List String
  | [] => []
  | text :: rest =>
      let ends := match rest.head? with
        | none => true
        | some next => ["&&", "||", ")"].contains next
      if ["&&", "||", "(", "!"].contains text then text :: conditionTexts true rest
      else if begins && ends && text != ")" then "-n" :: text :: conditionTexts false rest
      else text :: conditionTexts false rest

/-- The text of the calculations of a loop, which has been read up to the closing parentheses. -/
def countedText (text : String) : String :=
  let inside := text.toList.take (text.length - 2)
  let parts := (List.splitOnP (· == ';') inside).map fun part =>
    match part.dropWhile fun letter => letter = ' ' with
    | [] => "1"
    | letters => String.ofList letters
  "for ((" ++ String.intercalate "; " parts ++ "))"

/-! ## Commands -/

mutual

/-- The readers of commands that words need. -/
def inner (dialect : Dialect) : Nat → Inner
  | 0 => ⟨dialect, failure, fun _ => none⟩
  | fuel + 1 =>
      ⟨dialect, readList dialect fuel true, fun source =>
        match (readList dialect fuel true).run source with
        | some (command, source) => if source.rest.isEmpty then some command else none
        | none => none⟩

/-- Reads a list of commands up to what ends it. -/
def readList (dialect : Dialect) : Nat → Bool → Reader Command
  | 0, _ => failure
  | fuel + 1, mayBeEmpty => do
      skipLines (fuel + 1)
      let parts ← readParts dialect fuel []
      if parts.isEmpty && !mayBeEmpty then failure
      else match parts with
        | [command] => pure command
        | _ => pure (.sequence parts)

/-- Reads the commands of a list. -/
def readParts (dialect : Dialect) : Nat → List Command → Reader (List Command)
  | 0, _ => failure
  | fuel + 1, done => do
      if ← listEnds then pure done.reverse
      else do
        let command ← withText (readChain dialect fuel)
        match ← takeSeparator with
        | some isBackground => do
            skipLines (fuel + 1)
            readParts dialect fuel (placed command isBackground :: done)
        | none =>
            if ← startsWith "\n" then do
              skipLines (fuel + 1)
              readParts dialect fuel (command.1 :: done)
            else pure (command.1 :: done).reverse

/-- Reads commands that depend on how the one before them has ended. -/
def readChain (dialect : Dialect) : Nat → Reader Command
  | 0 => failure
  | fuel + 1 => do
      let first ← readPipe dialect fuel
      let rest ← readLinks dialect fuel []
      pure (if rest.isEmpty then first else .chain first rest)

/-- Reads the commands of a chain after the first. -/
def readLinks (dialect : Dialect) : Nat → List (Bool × Command) → Reader (List (Bool × Command))
  | 0, _ => failure
  | fuel + 1, done => do
      skipBlanks
      if ← accept "&&" then do
        skipLines (fuel + 1)
        readLinks dialect fuel ((true, ← readPipe dialect fuel) :: done)
      else if ← accept "||" then do
        skipLines (fuel + 1)
        readLinks dialect fuel ((false, ← readPipe dialect fuel) :: done)
      else pure done.reverse

/-- Reads commands that pass their output on, negated if an exclamation mark stands first. -/
def readPipe (dialect : Dialect) : Nat → Reader Command
  | 0 => failure
  | fuel + 1 => do
      skipBlanks
      replaceWords commonWords.contains (fuel + 1)
      match ← peekReserved (dialect = .extended) with
      | some "!" => do
          drop 1
          pure (.negation (← readPipe dialect fuel))
      | some "time" => do
          drop 4
          skipBlanks
          let isPlain := (← get).rest.take 3 = "-p ".toList
          if isPlain then drop 2
          skipBlanks
          let isBare := (← listEnds) || (← startsWith "\n")
          let body ← if isBare then pure Command.nothing else readPipe dialect fuel
          pure (.timed isPlain body)
      | _ => do
          let first ← readCommand dialect fuel
          let parts ← readPipeParts dialect fuel [first]
          match parts with
          | [command] => pure command
          | _ => pure (.pipe parts)

/-- Reads the commands of a pipe after the first. -/
def readPipeParts (dialect : Dialect) : Nat → List Command → Reader (List Command)
  | 0, _ => failure
  | fuel + 1, done => do
      skipBlanks
      if (← startsWith "|") && !(← startsWith "||") then do
        drop 1
        let both ← if dialect = .extended then accept "&" else pure false
        skipLines (fuel + 1)
        let command ← readCommand dialect fuel
        let done := match both, done with
          | true, last :: before =>
              .redirected { text := "2>&1" } last [.mk (some 2) .copy (letters false ['1'])] ::
                before
          | _, _ => done
        readPipeParts dialect fuel (command :: done)
      else pure done.reverse

/-- Reads a command without operators between its parts. -/
def readCommand (dialect : Dialect) : Nat → Reader Command
  | 0 => failure
  | fuel + 1 => do
      skipBlanks
      replaceWords commonWords.contains (fuel + 1)
      let inside := inner dialect fuel
      let compound (body : Reader Command) : Reader Command := do
        let command ← body
        let redirections ← readRedirections inside fuel []
        match ← peek with
        | none => pure (withRedirections command redirections)
        | some character =>
            if endsWord character && character != '(' then
              pure (withRedirections command redirections)
            else failure
      if ← startsWith "(" then compound (readParentheses dialect fuel)
      else match ← peekReserved (dialect = .extended) with
        | some "\x7b" => do
            drop 1
            compound do
              let body ← readList dialect fuel false
              expectReserved "\x7d"
              pure (.group body)
        | some "if" => do
            drop 2
            compound (readChoice dialect fuel)
        | some "while" => do
            drop 5
            compound (readLoop dialect fuel false)
        | some "until" => do
            drop 5
            compound (readLoop dialect fuel true)
        | some "for" => do
            drop 3
            compound (readEach dialect fuel)
        | some "select" => do
            drop 6
            compound (readMenu dialect fuel)
        | some "coproc" => do
            drop 6
            readPartner dialect fuel
        | some "case" => do
            drop 4
            compound (readSelection dialect fuel)
        | some "[[" => do
            drop 2
            compound do
              let { hasChoices, .. } ← get
              modify fun source => { source with hasChoices := true }
              let line := (← get).line
              let read ← readConditionWords inside fuel []
              modify fun source => { source with hasChoices }
              let words := read.map fun row => row.1
              if (Condition.ofWords? words).isNone then failure
              let texts := conditionTexts true (read.map fun row => row.2)
              pure (.condition ⟨line, "[[ " ++ String.intercalate " " texts ++ " ]]", []⟩ words)
        | some "function" => do
            drop 8
            skipBlanks
            let (name, _) := delimiter (← readWord inside fuel)
            skipBlanks
            if ← accept "(" then do
              skipBlanks
              expect ")"
            skipLines (fuel + 1)
            if !(← compoundFollows) then failure
            pure (.definition (String.ofList name) (← readCommand dialect fuel))
        | some _ => failure
        | none => do
            let line := (← get).line
            let (draft, definition) ← readSimple inside fuel {}
            match definition with
            | some name => do
                skipLines (fuel + 1)
                if dialect = .extended && !(← compoundFollows) then failure
                pure (.definition name (← readCommand dialect fuel))
            | none => if draft.isEmpty then failure else pure (draft.command line)

/-- Reads what stands in parentheses: commands, or a calculation in double ones. -/
def readParentheses (dialect : Dialect) : Nat → Reader Command
  | 0 => failure
  | fuel + 1 => do
      let before ← get
      let calculation := if dialect = .extended && "((".toList.isPrefixOf before.rest then
          (readCalculation (inner dialect fuel) fuel 0 []).run
            { before with rest := before.rest.drop 2, position := before.position + 2 }
        else none
      match calculation with
      | some (expression, after) => do
          set after
          pure (.calculation ⟨before.line, ← textSince before, []⟩ expression)
      | none => do
          drop 1
          let body ← readList dialect fuel false
          expect ")"
          pure (.subshell body)

/-- Reads from a condition to the end of its choice. -/
def readChoice (dialect : Dialect) : Nat → Reader Command
  | 0 => failure
  | fuel + 1 => do
      let condition ← readList dialect fuel false
      expectReserved "then"
      let consequence ← readList dialect fuel false
      skipBlanks
      match ← peekReserved false with
      | some "elif" => do
          drop 4
          pure (.choice condition consequence (← readChoice dialect fuel))
      | some "else" => do
          drop 4
          let alternative ← readList dialect fuel false
          expectReserved "fi"
          pure (.choice condition consequence alternative)
      | _ => do
          expectReserved "fi"
          pure (.choice condition consequence .nothing)

/-- Reads the condition and the body of a loop. -/
def readLoop (dialect : Dialect) : Nat → Bool → Reader Command
  | 0, _ => failure
  | fuel + 1, isNegated => do
      let condition ← readList dialect fuel false
      pure (.loop isNegated condition (← readBody dialect fuel))

/-- Reads the body of a loop. -/
def readBody (dialect : Dialect) : Nat → Reader Command
  | 0 => failure
  | fuel + 1 => do
      skipBlanks
      match ← peekReserved false with
      | some "\x7b" => do
          drop 1
          let body ← readList dialect fuel false
          expectReserved "\x7d"
          pure body
      | _ => do
          expectReserved "do"
          let body ← readList dialect fuel false
          expectReserved "done"
          pure body

/-- Reads a command that runs beside the script. If it is not a simple one, a name can stand in front
of it. -/
def readPartner (dialect : Dialect) : Nat → Reader Command
  | 0 => failure
  | fuel + 1 => do
      skipBlanks
      let before ← get
      let name ← takeWhile continuesName
      skipBlanks
      let isNamed := isName name && ((← startsWith "(") ||
        ((← peekReserved true).any fun word => word != "!" && word != "time"))
      if !isNamed then set before
      let (body, text) ← withText (readCommand dialect fuel)
      pure (.partner (if isNamed then String.ofList name else "COPROC") text body)

/-- Reads a loop in which words are offered to choose from. -/
def readMenu (dialect : Dialect) : Nat → Reader Command
  | 0 => failure
  | fuel + 1 => do
      match ← readEach dialect fuel with
      | .each origin name words body =>
          let text := "select" ++ String.ofList (origin.text.toList.drop 3)
          pure (.menu { origin with text } name words body)
      | _ => failure

/-- Reads a loop over words or, in double parentheses, one with calculations. -/
def readEach (dialect : Dialect) : Nat → Reader Command
  | 0 => failure
  | fuel + 1 => do
      skipBlanks
      let line := (← get).line
      if dialect = .extended && (← startsWith "((") then do
        drop 2
        let (expression, text) ← withText (readCalculation (inner dialect fuel) fuel 0 [])
        skipBlanks
        let _ ← takeSeparator
        skipLines (fuel + 1)
        let body ← readBody dialect fuel
        match cutAt expression with
        | [start, test, step] => pure (.counted ⟨line, countedText text, []⟩ start test step body)
        | _ => failure
      else do
        let isExtended := dialect = .extended
        let name ← takeWhile fun character =>
          if isExtended then !endsWord character else continuesName character
        if !isExtended && !isName name then failure
        skipLines (fuel + 1)
        let words ← if (← startsWith "in") && !(← nameGoesOn) then do
            drop 2
            let words ← readNames dialect fuel []
            let _ ← takeSeparator
            pure (some words)
          else do
            let _ ← takeSeparator
            pure none
        skipLines (fuel + 1)
        let name := String.ofList name
        let texts := (words.map fun rows => rows.map fun row => row.2).getD ["\"$@\""]
        let text := String.intercalate " " ("for" :: name :: "in" :: texts)
        let words := words.map fun rows => rows.map fun row => row.1
        pure (.each ⟨line, text, []⟩ name words (← readBody dialect fuel))
where
  /-- The word goes on after its first two letters. -/
  nameGoesOn : Reader Bool := do
    pure (((← get).rest.drop 2).head?.any fun character => !endsWord character)
  /-- Cuts a calculation at its semicolons. -/
  cutAt : List Piece → List (List Piece)
    | [] => [[]]
    | .letter ';' _ :: rest => [] :: cutAt rest
    | piece :: rest =>
        match cutAt rest with
        | [] => [[piece]]
        | first :: others => (piece :: first) :: others

/-- Reads words up to the end of a line or a separator, each with its text. -/
def readNames (dialect : Dialect) : Nat → List (Word × String) → Reader (List (Word × String))
  | 0, _ => failure
  | fuel + 1, done => do
      skipBlanks
      match ← peek with
      | none => pure done.reverse
      | some character =>
          if endsWord character then pure done.reverse
          else
            readNames dialect fuel ((← withText (readWord (inner dialect fuel) fuel)) :: done)

/-- Reads a selection after its first word. -/
def readSelection (dialect : Dialect) : Nat → Reader Command
  | 0 => failure
  | fuel + 1 => do
      skipBlanks
      let line := (← get).line
      let (word, text) ← withText (readWord (inner dialect fuel) fuel)
      skipLines (fuel + 1)
      expect "in"
      pure (.selection ⟨line, "case " ++ text ++ " in", []⟩ word (← readArms dialect fuel []))

/-- Reads the arms of a selection. -/
def readArms (dialect : Dialect) : Nat → List Arm → Reader (List Arm)
  | 0, _ => failure
  | fuel + 1, done => do
      skipLines (fuel + 1)
      if (← peekReserved false) = some "esac" then do
        drop 4
        pure done.reverse
      else do
        let _ ← accept "("
        let rows ← readPatterns dialect fuel []
        let text := String.intercalate " | " (rows.map fun row => row.2)
        let patterns := rows.map fun row => row.1
        let body ← readList dialect fuel true
        skipLines (fuel + 1)
        let ending ← if ← accept ";;&" then pure (some ArmEnd.resume)
          else if ← accept ";;" then pure (some ArmEnd.leave)
          else if ← accept ";&" then pure (some ArmEnd.fall)
          else pure none
        match ending with
        | some ending => readArms dialect fuel (.mk text patterns body ending :: done)
        | none => do
            expectReserved "esac"
            pure (.mk text patterns body .leave :: done).reverse

/-- Reads the patterns of an arm, each with its text. -/
def readPatterns (dialect : Dialect) : Nat → List (Word × String) → Reader (List (Word × String))
  | 0, _ => failure
  | fuel + 1, done => do
      skipBlanks
      let pattern ← withText (readWord (inner dialect fuel) fuel)
      skipBlanks
      if ← accept "|" then readPatterns dialect fuel (pattern :: done)
      else do
        expect ")"
        pure (pattern :: done).reverse

end

/-! ## Lines -/

/-- Reads the commands of a line. They must end where the line ends. -/
def readCommandLine (dialect : Dialect) : Nat → List Command → Reader (List Command)
  | 0, _ => failure
  | fuel + 1, done => do
      let command ← withText (readChain dialect fuel)
      let separator ← takeSeparator
      let done := placed command (separator.getD false) :: done
      skipBlanks
      match ← peek with
      | none => pure done.reverse
      | some '\n' => do
          drop 1
          pure done.reverse
      | some _ => if separator.isNone then failure else readCommandLine dialect fuel done

/-- Reads the next line with commands, if there is one. -/
def readNext (dialect : Dialect) (fuel : Nat) : Reader (Option (List Command)) := do
  skipLines fuel
  if (← peek).isNone then pure none
  else some <$> readCommandLine dialect fuel []

/-- A bound on the steps that reading a text can take. -/
def readingBound (text : List Char) : Nat :=
  8 * text.length + 64

end StaticMulticast.Host.Shell
