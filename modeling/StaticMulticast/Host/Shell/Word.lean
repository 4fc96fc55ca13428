import StaticMulticast.Host.Shell.Command

/-!
# The words of scripts

The text of a script, and the words at its front.
-/

/-!
## The text of a script

A script is read character by character, and its lines are counted on the way. A reader takes what
it needs from the front of the text, or fails if the text is no script.
-/

namespace StaticMulticast.Host.Shell

/-- The rest of a script. Some lines of it may have been taken out of turn; they are counted when
the end of the current line is reached. -/
structure Source where
  rest : List Char
  line : Nat := 1
  /-- The number of characters that have been taken. -/
  position : Nat := 0
  ahead : Nat := 0
  /-- Words that stand for texts where a command can begin. -/
  aliases : List (String × String) := []
  /-- The words that have been replaced, each with the number of characters behind its text. -/
  replaced : List (String × Nat) := []
  /-- The number of characters behind a text after which the next word can be replaced too. -/
  resumes : Option Nat := none
  /-- Choices in parentheses can stand in words. -/
  hasChoices : Bool := true

/-- A function that reads from a script. -/
abbrev Reader := StateT Source Option

namespace Source

/-- The number of ends of lines among characters. -/
def breaks (characters : List Char) : Nat :=
  characters.countP (· == '\n')

/-- Goes on after characters that have been read. -/
def pass (source : Source) (characters rest : List Char) : Source :=
  let position := source.position + characters.length
  match breaks characters with
  | 0 => { source with rest, position }
  | count => { source with rest, position, line := source.line + count + source.ahead, ahead := 0 }

end Source

/-- The next character. -/
def peek : Reader (Option Char) := do
  pure (← get).rest.head?

/-- The characters that follow begin with these. -/
def startsWith (text : String) : Reader Bool := do
  pure (text.toList.isPrefixOf (← get).rest)

/-- Takes a number of characters. -/
def drop (count : Nat) : Reader Unit :=
  modify fun source => source.pass (source.rest.take count) (source.rest.drop count)

/-- Takes one character. -/
def take : Reader Char := do
  match (← get).rest with
  | [] => failure
  | character :: rest =>
      modify fun source => source.pass [character] rest
      pure character

/-- Takes the given characters, which must follow. -/
def expect (text : String) : Reader Unit := do
  if ← startsWith text then drop text.length else failure

/-- Takes the given characters, if they follow. -/
def accept (text : String) : Reader Bool := do
  if ← startsWith text then
    drop text.length
    pure true
  else pure false

/-- Takes characters as long as they are of a class. -/
def takeWhile (isWanted : Char → Bool) : Reader (List Char) := do
  let (wanted, rest) := (← get).rest.span isWanted
  modify fun source => source.pass wanted rest
  pure wanted

/-- The text that has been taken since an earlier state, without what is blank at its end. -/
def textSince (before : Source) : Reader String := do
  let { position, .. } ← get
  let text := before.rest.take (position - before.position)
  pure (String.ofList (text.reverse.dropWhile fun letter => letter = ' ' || letter = '\n').reverse)

/-- What a reader reads, and the text of that. -/
def withText {Result : Type} (reader : Reader Result) : Reader (Result × String) := do
  let before ← get
  let result ← reader
  pure (result, ← textSince before)

/-- The rest of a text after blanks, and the numbers of characters and of lines in them. -/
def dropBlanks (count lines : Nat) : List Char → Nat × Nat × List Char
  | ' ' :: rest => dropBlanks (count + 1) lines rest
  | '\t' :: rest => dropBlanks (count + 1) lines rest
  | '\\' :: '\n' :: rest => dropBlanks (count + 2) (lines + 1) rest
  | rest => (count, lines, rest)

/-- Passes over blanks, and over a comment after them. -/
def skipBlanks : Reader Unit :=
  modify fun source =>
    let (count, lines, rest) := dropBlanks 0 0 source.rest
    let (comment, rest) := if rest.head? = some '#' then rest.span (· != '\n') else ([], rest)
    { source with
      rest
      line := source.line + lines
      position := source.position + count + comment.length }

/-- Passes over the ends of lines and what is blank between them. The bound is on their number. -/
def skipLines : Nat → Reader Unit
  | 0 => failure
  | bound + 1 => do
      skipBlanks
      if ← accept "\n" then skipLines bound

/-! ## Characters -/

/-- The character can begin a name. -/
def beginsName (character : Char) : Bool :=
  character.isAlpha || character = '_'

/-- The character can go on with a name. -/
def continuesName (character : Char) : Bool :=
  character.isAlphanum || character = '_'

/-- The text is a name. -/
def isName (text : List Char) : Bool :=
  text.head?.any beginsName && text.all continuesName

/-- The character is the whole name of a parameter. -/
def isShortName (character : Char) : Bool :=
  character.isDigit || ['?', '$', '#', '!', '@', '*', '-'].contains character

/-- The character ends a word. -/
def endsWord (character : Char) : Bool :=
  [' ', '\t', '\n', ';', '&', '|', '(', ')', '<', '>'].contains character

/-- A quotation mark that leans to the left, between which a command stands. -/
def backquote : Char := Char.ofNat 0x60

/-- A text between a quotation mark that leans to the left and one that does not. -/
def inOldQuotes (text : String) : String :=
  String.singleton backquote ++ text ++ "'"

/-- The character means something else than itself in a word. -/
def isSpecial (character : Char) : Bool :=
  endsWord character || ['\'', '"', '\\', '$', backquote].contains character

/-! ## Words that stand for texts -/

/-- Puts the text of a word in its place, if the word that follows stands for one. It is told whether
it does. In its own text, a word only stands for itself. -/
def replaceWord (isReserved : String → Bool) : Reader Bool := do
  let source ← get
  let (word, after) := source.rest.span fun character => !isSpecial character
  let name := String.ofList word
  let replaced := source.replaced.filter fun other => other.2 < source.rest.length
  let isWhole := !word.isEmpty && after.head?.all endsWord && !isReserved name
  match source.aliases.lookup name with
  | some text =>
      if isWhole && replaced.all fun other => other.1 != name then do
        let goesOn := text.toList.getLast?.any fun last => last = ' ' || last = '\t'
        set { source with
          rest := text.toList ++ after
          replaced := (name, after.length) :: replaced
          resumes := if goesOn then some after.length else source.resumes }
        pure true
      else pure false
  | none => pure false

/-- Puts the texts of words in their places, until a word follows that only stands for itself. The
bound is on the number of words. -/
def replaceWords (isReserved : String → Bool) : Nat → Reader Unit
  | 0 => failure
  | bound + 1 => do
      if !(← get).aliases.isEmpty then
        if ← replaceWord isReserved then do
          skipBlanks
          replaceWords isReserved bound

/-- The next word can be replaced, since it follows a text that allows it. -/
def resumesReplacing : Reader Bool := do
  let source ← get
  match source.resumes with
  | some behind =>
      if source.rest.length ≤ behind then do
        set { source with resumes := none }
        pure true
      else pure false
  | none => pure false

end StaticMulticast.Host.Shell

/-!
## Reading words

A word ends at a blank or at an operator. In it may stand quotes, parameters, commands whose output
is used, and calculations. The readers are given the readers of commands that they need for this.
-/

namespace StaticMulticast.Host.Shell

/-- The readers that words need for the commands in them: one that reads on to the end of a list of
commands, and one that reads a whole text. -/
structure Inner where
  dialect : Dialect
  commands : Reader Command
  whole : Source → Option Command

namespace Inner

/-- The language has the extensions. -/
def isExtended (inner : Inner) : Bool :=
  inner.dialect = .extended

end Inner

/-- Letters of a word. -/
def letters (quoted : Bool) (characters : List Char) : Word :=
  characters.map fun character => .letter character quoted

/-- Takes characters up to the next mark, and the mark itself. -/
def takeTo (mark : Char) : Reader (List Char) := do
  let characters ← takeWhile (· != mark)
  let _ ← take
  pure characters

/-! ## Quotation with escapes -/

/-- The value of the digits in front of characters, and the characters after them. -/
def leadingDigits (base most : Nat) (characters : List Char) : Nat × List Char :=
  let digit (character : Char) : Nat :=
    if character.isDigit then character.toNat - '0'.toNat
    else if character.isAlpha then character.toLower.toNat - 'a'.toNat + 10
    else base
  let digits := (characters.take most).takeWhile fun character => digit character < base
  (digits.foldl (fun value character => base * value + digit character) 0,
    characters.drop digits.length)

/-- A code point as the locale shows it: those that it does not have stay escapes. -/
def encoded (code : Nat) : List Char :=
  if code < 0x80 then [Char.ofNat code]
  else
    let digits := (Nat.toDigits 16 code).map Char.toUpper
    let (letter, count) := if code < 0x10000 then ('u', 4) else ('U', 8)
    '\\' :: letter :: List.replicate (count - digits.length) '0' ++ digits

/-- The characters that a letter after a backslash stands for. -/
def escaped? (letter : Char) : Option (List Char) :=
  if letter = 'n' then some ['\n']
  else if letter = 't' then some ['\t']
  else if letter = 'r' then some ['\r']
  else if letter = 'a' then some [Char.ofNat 7]
  else if letter = 'b' then some [Char.ofNat 8]
  else if letter = 'e' || letter = 'E' then some [Char.ofNat 27]
  else if letter = 'f' then some [Char.ofNat 12]
  else if letter = 'v' then some [Char.ofNat 11]
  else if ['\\', '\'', '"', '?'].contains letter then some [letter]
  else none

/-- What stands for an escape, and the characters after it. The backslash has been taken. -/
def readEscape (characters : List Char) : List Char × List Char :=
  match characters with
  | [] => (['\\'], [])
  | letter :: rest =>
      match escaped? letter with
      | some meant => (meant, rest)
      | none =>
          if letter = 'x' then
            let (value, after) := leadingDigits 16 2 rest
            if after.length = rest.length then (['\\', 'x'], rest)
            else ([Char.ofNat (value % 256)], after)
          else if letter = 'u' || letter = 'U' then
            let (value, after) := leadingDigits 16 (if letter = 'u' then 4 else 8) rest
            if after.length = rest.length then (['\\', letter], rest) else (encoded value, after)
          else if letter.isDigit && letter.toNat < '8'.toNat then
            let (value, after) := leadingDigits 8 3 characters
            ([Char.ofNat (value % 256)], after)
          else match letter, rest with
            | 'c', '\\' :: '\\' :: after => ([Char.ofNat 28], after)
            | 'c', '\'' :: _ => (['\\', letter], rest)
            | 'c', '?' :: after => ([Char.ofNat 127], after)
            | 'c', other :: after => ([Char.ofNat (other.toUpper.toNat % 32)], after)
            | _, _ => (['\\', letter], rest)

/-- Reads on to the end of a quotation with escapes. -/
def readEscapes : Nat → List Char → Reader (List Char)
  | 0, _ => failure
  | fuel + 1, done => do
      let plain ← takeWhile fun character => character != '\'' && character != '\\'
      let done := plain.reverse ++ done
      if (← take) = '\'' then pure done.reverse
      else do
        let source ← get
        let (meant, rest) := readEscape source.rest
        set (source.pass (source.rest.take (source.rest.length - rest.length)) rest)
        readEscapes fuel (meant.reverse ++ done)

/-! ## Commands between backquotes -/

/-- Reads on to the closing backquote. A backslash there quotes only some characters. -/
def takeBackquoted (quoted : Bool) : Nat → List Char → Reader (List Char)
  | 0, _ => failure
  | fuel + 1, done => do
      let plain ← takeWhile fun character => character != backquote && character != '\\'
      let done := plain.reverse ++ done
      if (← take) = backquote then pure done.reverse
      else do
        let next ← take
        let isEscaped := [backquote, '\\', '$'].contains next || (quoted && next = '"')
        takeBackquoted quoted fuel (if isEscaped then next :: done else next :: '\\' :: done)

/-- Reads a command between backquotes. -/
def readBackquoted (inner : Inner) (fuel : Nat) (quoted : Bool) : Reader Piece := do
  let text ← takeBackquoted quoted fuel []
  match inner.whole { rest := text, aliases := (← get).aliases } with
  | some command => pure (.output command quoted)
  | none => failure

/-! ## Parameters -/

/-- The operation of a character after the name of a parameter, and whether quotes keep their
meaning in its argument, although the parameter stands in double quotes. -/
def readOperation (isExtended : Bool) : Reader (Operation × Bool) := do
  let colon ← accept ":"
  match ← peek with
  | some '-' => do drop 1; pure (.otherwise colon, false)
  | some '=' => do drop 1; pure (.assign colon, false)
  | some '?' => do drop 1; pure (.demand colon, false)
  | some '+' => do drop 1; pure (.instead colon, false)
  | next =>
      if colon then pure (if isExtended then .slice else .unknown, false)
      else if next = some '#' then do
        drop 1
        pure (.withoutFront (← accept "#"), true)
      else if next = some '%' then do
        drop 1
        pure (.withoutBack (← accept "%"), true)
      else if isExtended && next = some '/' then do
        drop 1
        if ← accept "/" then pure (.replace .every, true)
        else if ← accept "#" then pure (.replace .front, true)
        else if ← accept "%" then pure (.replace .back, true)
        else pure (.replace .first, true)
      else if isExtended && next = some '^' then do
        drop 1
        pure (.changeCase true (← accept "^"), true)
      else if isExtended && next = some ',' then do
        drop 1
        pure (.changeCase false (← accept ","), true)
      else if isExtended && next = some '@' then do
        drop 1
        match ← take with
        | '\x7d' => failure
        | letter => pure (.transform letter, true)
      else pure (.unknown, false)

/-- Reads the name of a parameter in braces. -/
def readBracedName : Reader String := do
  match ← peek with
  | none => failure
  | some character =>
      if beginsName character then do
        let name ← takeWhile continuesName
        pure (String.ofList name)
      else if character.isDigit then do
        let digits ← takeWhile Char.isDigit
        pure (String.ofList digits)
      else if isShortName character then do
        drop 1
        pure (String.singleton character)
      else pure ""

/-- Only the length of the parameter is wanted, since its name and the end of the braces follow. -/
def wantsLength : Reader Bool := do
  match (← get).rest with
  | '#' :: next :: rest =>
      if beginsName next then pure true
      else if next.isDigit then pure true
      else if isShortName next then pure (rest.head? = some '\x7d')
      else pure false
  | _ => pure false

/-- A name stands behind an exclamation mark. -/
def wantsIndirection : Reader Bool := do
  match (← get).rest with
  | '!' :: '#' :: rest | '!' :: '@' :: rest | '!' :: '*' :: rest | '!' :: '?' :: rest =>
      pure (rest.head? = some '\x7d')
  | '!' :: next :: _ => pure (beginsName next || next.isDigit)
  | _ => pure false

/-- All names are wanted that begin in the same way. -/
def wantsNames : Reader Bool := do
  match (← get).rest with
  | '*' :: '\x7d' :: _ | '@' :: '\x7d' :: _ => pure true
  | _ => pure false

mutual

/-- Reads on to the end of double quotes. -/
def readDouble (inner : Inner) : Nat → List Piece → Reader (List Piece)
  | 0, _ => failure
  | fuel + 1, done => do
      let plain ← takeWhile fun character => !(['"', '\\', '$', backquote].contains character)
      let done := (letters true plain).reverse ++ done
      match ← take with
      | '"' => pure done.reverse
      | '\\' => do
          let next ← take
          if next = '\n' then readDouble inner fuel done
          else if ['"', '\\', '$', backquote].contains next then
            readDouble inner fuel (.letter next true :: done)
          else readDouble inner fuel (.letter next true :: .letter '\\' true :: done)
      | '$' => do readDouble inner fuel ((← readDollar inner fuel true).reverse ++ done)
      | _ => do readDouble inner fuel ((← readBackquoted inner fuel true) :: done)

/-- Reads what follows a dollar sign. -/
def readDollar (inner : Inner) : Nat → Bool → Reader (List Piece)
  | 0, _ => failure
  | fuel + 1, quoted => do
      match ← peek with
      | some '(' => do
          if ← startsWith "((" then do
            let before ← get
            drop 2
            match (readCalculation inner fuel 0 []).run (← get) with
            | some (expression, after) => do
                set after
                pure [.number expression quoted]
            | none =>
                if inner.isExtended then do
                  set before
                  drop 1
                  let command ← inner.commands
                  expect ")"
                  pure [.output command quoted]
                else failure
          else do
            drop 1
            let command ← inner.commands
            expect ")"
            pure [.output command quoted]
      | some '\x7b' => do
          drop 1
          readParameter inner fuel quoted
      | some '\'' =>
          if inner.isExtended && !quoted then do
            drop 1
            let meant ← readEscapes fuel []
            pure (.quotes :: letters true (meant.takeWhile (· != Char.ofNat 0)))
          else pure [.letter '$' quoted]
      | some '"' =>
          if inner.isExtended && !quoted then do
            drop 1
            pure (.quotes :: (← readDouble inner fuel []))
          else pure [.letter '$' quoted]
      | some character =>
          if beginsName character then do
            let name ← takeWhile continuesName
            pure [.parameter (String.ofList name) none .value [] quoted]
          else if isShortName character then do
            drop 1
            pure [.parameter (String.singleton character) none .value [] quoted]
          else pure [.letter '$' quoted]
      | none => pure [.letter '$' quoted]

/-- Reads a parameter in braces. -/
def readParameter (inner : Inner) : Nat → Bool → Reader (List Piece)
  | 0, _ => failure
  | fuel + 1, quoted => do
      let before ← get
      let unknown : Reader (List Piece) := do
        let text ← textSince before
        pure [.parameter ("$\x7b" ++ text) none .unknown [] quoted]
      let isLength ← wantsLength
      if isLength then drop 1
      let isIndirect ← if inner.isExtended && !isLength then wantsIndirection else pure false
      if isIndirect then drop 1
      let name ← readBracedName
      let subscript ← if inner.isExtended && (← accept "[") then
          pure (some (← readArgument inner fuel false [']'] []).1)
        else pure none
      if isIndirect && (← wantsNames) then do
        drop 2
        pure [.parameter name none .names [] quoted]
      else if ← accept "\x7d" then do
        let operation := if isLength then .length
          else if isIndirect then if subscript.isSome then .places else .indirect
          else .value
        if (name.isEmpty && !isLength) || subscript.any List.isEmpty then unknown
        else pure [.parameter name subscript operation [] quoted]
      else do
        let (operation, keepsQuotes) ← readOperation inner.isExtended
        let quotesLetters := quoted && !keepsQuotes
        let operation := if isLength || name.isEmpty then .unknown else operation
        let name := if isIndirect then "!" ++ name else name
        match operation with
        | .slice | .replace _ => do
            let mark := if operation = .slice then ':' else '/'
            let (first, ending) ← readArgument inner fuel quotesLetters [mark, '\x7d'] []
            let others ← if ending = '\x7d' then pure []
              else do pure [(← readArgument inner fuel quotesLetters ['\x7d'] []).1]
            if operation = .slice && first.isEmpty && others.isEmpty then unknown
            else pure [.parameter name subscript operation (first :: others) quoted]
        | _ => do
            let (argument, _) ← readArgument inner fuel quotesLetters ['\x7d'] []
            if operation = .unknown then unknown
            else pure [.parameter name subscript operation [argument] quoted]

/-- Reads a word in braces or brackets up to one of the given marks, and gives the mark back too.
Between double quotes, single quotes and most backslashes are letters. -/
def readArgument (inner : Inner) : Nat → Bool → List Char → List Piece →
    Reader (List Piece × Char)
  | 0, _, _, _ => failure
  | fuel + 1, quoted, marks, done => do
      let character ← take
      if marks.contains character then pure (done.reverse, character)
      else match character with
      | '\\' => do
          let next ← take
          if next = '\n' then readArgument inner fuel quoted marks done
          else if quoted && !(['"', '\\', '$', backquote, '\x7d'].contains next) then
            readArgument inner fuel quoted marks (.letter next true :: .letter '\\' true :: done)
          else readArgument inner fuel quoted marks (.letter next true :: done)
      | '\'' =>
          if quoted then readArgument inner fuel quoted marks (.letter '\'' true :: done)
          else do
            let text ← takeTo '\''
            readArgument inner fuel quoted marks ((letters true text).reverse ++ .quotes :: done)
      | '"' => do
          let text ← readDouble inner fuel []
          readArgument inner fuel quoted marks (text.reverse ++ .quotes :: done)
      | '$' => do
          let pieces ← readDollar inner fuel quoted
          readArgument inner fuel quoted marks (pieces.reverse ++ done)
      | _ =>
          if character = backquote then do
            let piece ← readBackquoted inner fuel quoted
            readArgument inner fuel quoted marks (piece :: done)
          else readArgument inner fuel quoted marks (.letter character quoted :: done)

/-- Reads a calculation up to two closing parentheses. The depth counts those that are open. -/
def readCalculation (inner : Inner) : Nat → Nat → List Piece → Reader (List Piece)
  | 0, _, _ => failure
  | fuel + 1, depth, done => do
      match ← take with
      | '(' => readCalculation inner fuel (depth + 1) (.letter '(' true :: done)
      | ')' =>
          match depth with
          | 0 => do
              expect ")"
              pure done.reverse
          | depth + 1 => readCalculation inner fuel depth (.letter ')' true :: done)
      | '"' =>
          readCalculation inner fuel depth
            (if inner.isExtended then done else .letter '"' true :: done)
      | '\\' => do
          let next ← take
          if next = '\n' then readCalculation inner fuel depth done
          else readCalculation inner fuel depth (.letter next true :: done)
      | '$' => do
          let pieces ← readDollar inner fuel true
          readCalculation inner fuel depth (pieces.reverse ++ done)
      | character =>
          if character = backquote then do
            let piece ← readBackquoted inner fuel true
            readCalculation inner fuel depth (piece :: done)
          else readCalculation inner fuel depth (.letter character true :: done)

end

/-! ## Words -/

/-- Reads on to the end of a word. What has been read of it is given in reverse. -/
def readWordFrom (inner : Inner) : Nat → List Piece → Reader Word
  | 0, _ => failure
  | fuel + 1, done => do
      let plain ← takeWhile fun character => !isSpecial character
      let done := (letters false plain).reverse ++ done
      match ← peek with
      | some '\'' => do
          drop 1
          let text ← takeTo '\''
          readWordFrom inner fuel ((letters true text).reverse ++ .quotes :: done)
      | some '"' => do
          drop 1
          let text ← readDouble inner fuel []
          readWordFrom inner fuel (text.reverse ++ .quotes :: done)
      | some '\\' => do
          drop 1
          match ← peek with
          | none => readWordFrom inner fuel (.letter '\\' true :: done)
          | some next => do
              drop 1
              readWordFrom inner fuel (if next = '\n' then done else .letter next true :: done)
      | some '$' => do
          drop 1
          let pieces ← readDollar inner fuel false
          readWordFrom inner fuel (pieces.reverse ++ done)
      | some character =>
          if character = backquote then do
            drop 1
            let piece ← readBackquoted inner fuel false
            readWordFrom inner fuel (piece :: done)
          else if character = '(' && inner.isExtended && (← get).hasChoices &&
              done.head?.any beginsChoices then do
            drop 1
            readWordFrom inner fuel ((← readChoices inner fuel 0 [.letter '(' false]) ++ done)
          else pure done.reverse
      | none => pure done.reverse
where
  /-- Choices in parentheses can stand behind the piece. -/
  beginsChoices : Piece → Bool
    | .letter character false => ['?', '*', '+', '@', '!'].contains character
    | _ => false
  /-- Reads choices up to the closing parenthesis, in reverse. -/
  readChoices (inner : Inner) : Nat → Nat → List Piece → Reader (List Piece)
    | 0, _, _ => failure
    | fuel + 1, depth, done => do
        match ← take with
        | '(' => readChoices inner fuel (depth + 1) (.letter '(' false :: done)
        | ')' =>
            match depth with
            | 0 => pure (.letter ')' false :: done)
            | depth + 1 => readChoices inner fuel depth (.letter ')' false :: done)
        | '\'' => do
            let text ← takeTo '\''
            readChoices inner fuel depth ((letters true text).reverse ++ done)
        | '"' => do
            let text ← readDouble inner fuel []
            readChoices inner fuel depth (text.reverse ++ done)
        | '\\' => do
            let next ← take
            readChoices inner fuel depth (.letter next true :: done)
        | '$' => do
            let pieces ← readDollar inner fuel false
            readChoices inner fuel depth (pieces.reverse ++ done)
        | '\n' => failure
        | character => readChoices inner fuel depth (.letter character false :: done)

/-- A command in parentheses follows whose output or input is used like a file. -/
def pathFollows (inner : Inner) : Reader Bool := do
  pure (inner.isExtended && ((← startsWith "<(") || (← startsWith ">(")))

/-- Reads a word, which has at least one character. -/
def readWord (inner : Inner) (fuel : Nat) : Reader Word := do
  if ← pathFollows inner then do
    let isRead ← startsWith ">"
    drop 2
    let command ← inner.commands
    expect ")"
    readWordFrom inner fuel [.path command isRead]
  else match ← peek with
  | none => failure
  | some character =>
      if endsWord character then failure else readWordFrom inner fuel []

/-- Reads the text that stands in a script for a command to read. In it, only parameters, commands
and calculations are replaced. -/
def readDocument (inner : Inner) : Nat → List Piece → Reader Word
  | 0, _ => failure
  | fuel + 1, done => do
      let plain ← takeWhile fun character => !(['\\', '$', backquote].contains character)
      let done := (letters true plain).reverse ++ done
      match ← peek with
      | none => pure done.reverse
      | some '\\' => do
          drop 1
          match ← peek with
          | some next => do
              drop 1
              let done := if next = '\n' then done
                else if ['\\', '$', backquote].contains next then .letter next true :: done
                else .letter next true :: .letter '\\' true :: done
              readDocument inner fuel done
          | none => pure (.letter '\\' true :: done).reverse
      | some '$' => do
          drop 1
          let pieces ← readDollar inner fuel true
          readDocument inner fuel (pieces.reverse ++ done)
      | some _ => do
          drop 1
          let piece ← readBackquoted inner fuel true
          readDocument inner fuel (piece :: done)

end StaticMulticast.Host.Shell
