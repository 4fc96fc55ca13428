import StaticMulticast.Text.Regular

/-!
# Scripts that edit lines

The language of `sed`. A script is a list of steps, each for the lines that its addresses select.
The steps in braces follow the step that opens them, which knows where they end.
-/

namespace StaticMulticast.Host.Utility.Edit

open StaticMulticast.Text (Regular)

/-! ## Scripts -/

/-- An expression to search for. Without one, the last that has been used is meant. -/
structure Target where
  expression : Option Regular
  ignoresCase : Bool := false
  hasLines : Bool := false

/-- What lines are meant. -/
inductive Address where
  | line (number : Nat)
  /-- Every so many lines, from a line on. -/
  | every (first step : Nat)
  | last
  | found (target : Target)

/-- Where a range of lines ends. -/
inductive Stop where
  | line (number : Nat)
  /-- So many lines after the first. -/
  | after (count : Nat)
  /-- At a line whose number is a multiple. -/
  | multiple (factor : Nat)
  | last
  | found (target : Target)

/-- The lines that a step is for. -/
structure Selection where
  first : Option Address := none
  stop : Option Stop := none
  isNegated : Bool := false
  /-- The range is open before the first line. -/
  isOpen : Bool := false

/-- A change of case in a replacement. -/
inductive CaseMark where
  | upper
  | lower
  | nextUpper
  | nextLower
  | none

/-- A part of a replacement. -/
inductive ReplacementPart where
  | text (text : List Char)
  | group (number : Nat)
  | change (mark : CaseMark)

/-- A replacement of what is found: what replaces it, from which time on it is replaced, and what is
done after that. -/
structure Substitution where
  target : Target
  parts : List ReplacementPart
  isGlobal : Bool := false
  number : Nat := 1
  prints : Bool := false
  /-- The line is run as a command after it, and becomes what the command writes. -/
  runs : Bool := false
  file : Option String := none

/-- What is done in a step. -/
inductive Deed where
  | nothing
  /-- The steps that follow, up to one of this number, are only for the selected lines. -/
  | block (stop : Nat)
  | label (name : String)
  | jump (name : String)
  /-- Jumps if something has been replaced, or has not. -/
  | jumpIf (replaced : Bool) (name : String)
  | append (text : String)
  | insert (text : String)
  | change (text : String)
  | delete
  | deleteFirst
  | print
  | printFirst
  | number
  | next
  | nextToo
  | hold
  | holdToo
  | get
  | getToo
  | exchange
  | list (width : Option Nat)
  | empty
  | fileName
  /-- Runs a command, or the line as one. -/
  | run (command : String)
  | quit (prints : Bool) (status : Nat)
  | substitute (substitution : Substitution)
  | translate (letters : List (Char × Char))
  | read (path : String)
  | readLine (path : String)
  | write (path : String)
  | writeFirst (path : String)

/-- A step of a script. -/
structure Step where
  selection : Selection
  deed : Deed

/-! ## Reading scripts -/

/-- A function that reads from a script. -/
abbrev Reader := StateT (List Char) Option

/-- The next character. -/
def peek : Reader (Option Char) := do
  pure (← get).head?

/-- Takes the next character. -/
def take : Reader Char := do
  match ← get with
  | letter :: rest => do
      set rest
      pure letter
  | [] => failure

/-- Takes characters as long as they have a property. -/
def takeWhile (property : Char → Bool) : Reader (List Char) := do
  let (taken, rest) := (← get).span property
  set rest
  pure taken

/-- The character is blank, but no end of a line. -/
def isBlank (letter : Char) : Bool :=
  letter = ' ' || letter = '\t' || letter = '\r'

/-- Takes blanks. -/
def skipBlanks : Reader Unit := do
  let _ ← takeWhile isBlank

/-- Takes a number. -/
def takeNumber : Reader (Option Nat) := do
  let digits ← takeWhile Char.isDigit
  pure (if digits.isEmpty then none else (String.ofList digits).toNat?)

/-- Takes a character if it is the one that is given. -/
def accept (letter : Char) : Reader Bool := do
  if (← peek) = some letter then
    let _ ← take
    pure true
  else pure false

/-- Takes a text up to a mark. A mark behind a backslash belongs to the text. It is given whether
the end of a line may stand in it. The bound is on the length. -/
def takeTo (mark : Char) : Nat → List Char → Reader (List Char)
  | 0, _ => failure
  | bound + 1, done => do
      let letter ← take
      if letter = mark then pure done.reverse
      else if letter = '\\' then do
        let next ← take
        let isMark := next = mark && mark != '&'
        takeTo mark bound (if isMark then next :: done else next :: '\\' :: done)
      else takeTo mark bound (letter :: done)

/-- The character of a code behind a backslash, and what follows. -/
def coded? : List Char → Option (Char × List Char)
  | 'x' :: rest => Regular.codeIn? 16 2 rest
  | 'o' :: rest => Regular.codeIn? 8 3 rest
  | 'd' :: rest => Regular.codeIn? 10 3 rest
  | 'c' :: letter :: rest => some (Char.ofNat (letter.toUpper.toNat ^^^ 0x40), rest)
  | _ => none

/-- A text with characters in the place of their codes. The bound is on the length. -/
def withCodes : Nat → List Char → List Char
  | 0, text => text
  | bound + 1, text =>
      match text with
      | '\\' :: rest =>
          match coded? rest, rest with
          | some (letter, rest), _ => letter :: withCodes bound rest
          | none, next :: after => '\\' :: next :: withCodes bound after
          | none, [] => ['\\']
      | letter :: rest => letter :: withCodes bound rest
      | [] => []

/-- The expression of a text. An empty text stands for the last expression that has been used. -/
def takeExpression (isExtended : Bool) (text : List Char) : Reader (Option Regular) := do
  if text.isEmpty then pure none
  else
    let manner : Regular.Manner := ⟨isExtended, .outside, false⟩
    match Regular.ofText? manner (String.ofList (withCodes (text.length + 1) text)) with
    | some expression => pure (some expression)
    | none => failure

/-- Takes an expression up to a mark, with the letters for the way it is searched for. -/
def takeTarget (isExtended : Bool) (mark : Char) : Reader Target := do
  let text ← takeTo mark ((← get).length + 1) []
  let flags ← takeWhile fun letter => letter = 'I' || letter = 'M'
  let expression ← takeExpression isExtended text
  pure ⟨expression, flags.contains 'I', flags.contains 'M'⟩

/-- Takes an address, if one follows. -/
def takeAddress (isExtended : Bool) : Reader (Option Address) := do
  match ← peek with
  | some '$' => do
      let _ ← take
      pure (some .last)
  | some '/' => do
      let _ ← take
      pure (some (.found (← takeTarget isExtended '/')))
  | some '\\' => do
      let _ ← take
      let mark ← take
      pure (some (.found (← takeTarget isExtended mark)))
  | _ => do
      match ← takeNumber with
      | none => pure none
      | some number =>
          if ← accept '~' then do pure (some (.every number ((← takeNumber).getD 0)))
          else pure (some (.line number))

/-- Takes the end of a range. -/
def takeStop (isExtended : Bool) : Reader Stop := do
  skipBlanks
  if ← accept '+' then do pure (.after ((← takeNumber).getD 0))
  else if ← accept '~' then do pure (.multiple ((← takeNumber).getD 0))
  else match ← takeAddress isExtended with
  | some (.line number) => pure (.line number)
  | some .last => pure .last
  | some (.found target) => pure (.found target)
  | _ => failure

/-- Takes the addresses of a step. -/
def takeSelection (isExtended : Bool) : Reader Selection := do
  let first ← takeAddress isExtended
  skipBlanks
  let stop ← if first.isSome && (← accept ',') then some <$> takeStop isExtended else pure none
  let marks ← takeWhile fun letter => isBlank letter || letter = '!'
  let isOpen := match first, stop with
    | some (.line 0), some (.found _) => true
    | _, _ => false
  match first with
  | some (.line 0) => if !isOpen then failure
  | _ => pure ()
  pure ⟨first, stop, marks.contains '!', isOpen⟩

/-- The parts of a replacement. The bound is on the length. -/
def replacementParts : Nat → List Char → List ReplacementPart
  | 0, _ => []
  | bound + 1, text =>
      match text with
      | [] => []
      | '&' :: rest => .group 0 :: replacementParts bound rest
      | '\\' :: letter :: rest =>
          match Regular.escaped? (letter :: rest) with
          | some (meant, rest) => .text [meant] :: replacementParts bound rest
          | none =>
              let part : ReplacementPart :=
                if letter.isDigit then .group (letter.toNat - '0'.toNat)
                else if letter = 'U' then .change .upper
                else if letter = 'L' then .change .lower
                else if letter = 'u' then .change .nextUpper
                else if letter = 'l' then .change .nextLower
                else if letter = 'E' then .change .none
                else .text [letter]
              part :: replacementParts bound rest
      | letter :: rest => .text [letter] :: replacementParts bound rest

/-- The number of the last group that a replacement uses. -/
def lastGroup (parts : List ReplacementPart) : Nat :=
  parts.foldl (fun last part =>
    match part with
    | .group number => max last number
    | _ => last) 0

/-- Takes the letters behind a replacement. The bound is on their number. -/
def takeFlags (substitution : Substitution) : Nat → Reader Substitution
  | 0 => failure
  | bound + 1 => do
      match ← peek with
      | some 'g' => do
          let _ ← take
          takeFlags { substitution with isGlobal := true } bound
      | some 'p' => do
          let _ ← take
          takeFlags { substitution with prints := true } bound
      | some 'i' | some 'I' => do
          let _ ← take
          takeFlags { substitution with
            target := { substitution.target with ignoresCase := true } } bound
      | some 'm' | some 'M' => do
          let _ ← take
          takeFlags { substitution with
            target := { substitution.target with hasLines := true } } bound
      | some 'e' => do
          let _ ← take
          takeFlags { substitution with runs := true } bound
      | some 'w' => do
          let _ ← take
          skipBlanks
          let path ← takeWhile (· != '\n')
          pure { substitution with file := some (String.ofList path) }
      | some letter =>
          if letter.isDigit then do
            match ← takeNumber with
            | some (number + 1) => takeFlags { substitution with number := number + 1 } bound
            | _ => failure
          else pure substitution
      | none => pure substitution

/-- Takes what stands behind the letter of a replacement. -/
def takeSubstitution (isExtended : Bool) : Reader Substitution := do
  let mark ← take
  if mark = '\n' || mark = '\\' then failure
  let bound := (← get).length + 1
  let text ← takeTo mark bound []
  let replacement ← takeTo mark bound []
  let expression ← takeExpression isExtended text
  let parts := replacementParts (replacement.length + 1) replacement
  if expression.any fun expression => expression.groups < lastGroup parts then failure
  takeFlags { target := ⟨expression, false, false⟩, parts } bound

/-- The letters that a text without backslashes stands for. -/
def plainLetters : Nat → List Char → List Char
  | 0, _ => []
  | bound + 1, text =>
      match text with
      | '\\' :: letter :: rest =>
          match Regular.escaped? (letter :: rest) with
          | some (meant, rest) => meant :: plainLetters bound rest
          | none => letter :: plainLetters bound rest
      | letter :: rest => letter :: plainLetters bound rest
      | [] => []

/-- Takes letters and those that stand for them. -/
def takeTranslation : Reader Deed := do
  let mark ← take
  let bound := (← get).length + 1
  let first := plainLetters bound (← takeTo mark bound [])
  let second := plainLetters bound (← takeTo mark bound [])
  if first.length != second.length then failure
  pure (.translate (first.zip second))

/-- Takes the lines of a text. A line that ends with a backslash is not the last one. The bound is
on the length. -/
def takeLines : Nat → List Char → Reader (List Char)
  | 0, done => pure done.reverse
  | bound + 1, done => do
      match ← get with
      | [] => pure done.reverse
      | '\n' :: _ => pure done.reverse
      | '\\' :: letter :: rest => do
          set rest
          takeLines bound (letter :: done)
      | ['\\'] => do
          set ([] : List Char)
          pure done.reverse
      | letter :: rest => do
          set rest
          takeLines bound (letter :: done)

/-- Takes the text behind a letter: on the same line, or on the next ones after a backslash. -/
def takeText : Reader String := do
  skipBlanks
  match ← get with
  | [] => failure
  | '\\' :: rest => do
      match rest.dropWhile isBlank with
      | '\n' :: after => set after
      | after => set after
  | _ => pure ()
  if (← get).isEmpty then pure ""
  else do
    let text ← takeLines ((← get).length + 1) []
    pure (String.ofList text ++ "\n")

/-- Takes the rest of a line as a path. -/
def takePath : Reader String := do
  skipBlanks
  let path ← takeWhile (· != '\n')
  if path.isEmpty then failure
  pure (String.ofList path)

/-- Takes the name of a label. -/
def takeLabel : Reader String := do
  skipBlanks
  let name ← takeWhile fun letter =>
    !isBlank letter && !(['\n', ';', '\x7d'].contains letter)
  pure (String.ofList name)

/-- Takes what is done in a step without braces, by its letter. -/
def takeDeed (isExtended : Bool) (letter : Char) : Reader Deed := do
  match letter with
  | '=' => pure .number
  | ':' => do
      let name ← takeLabel
      if name.isEmpty then failure else pure (.label name)
  | 'a' => .append <$> takeText
  | 'i' => .insert <$> takeText
  | 'c' => .change <$> takeText
  | 'b' => .jump <$> takeLabel
  | 't' => .jumpIf true <$> takeLabel
  | 'T' => .jumpIf false <$> takeLabel
  | 'd' => pure .delete
  | 'D' => pure .deleteFirst
  | 'p' => pure .print
  | 'P' => pure .printFirst
  | 'n' => pure .next
  | 'N' => pure .nextToo
  | 'h' => pure .hold
  | 'H' => pure .holdToo
  | 'g' => pure .get
  | 'G' => pure .getToo
  | 'x' => pure .exchange
  | 'z' => pure .empty
  | 'l' => do
      skipBlanks
      .list <$> takeNumber
  | 'F' => pure .fileName
  | 'e' => do
      skipBlanks
      .run <$> (String.ofList <$> takeWhile (· != '\n'))
  | 'v' => do
      let _ ← takeLabel
      pure .nothing
  | 'q' => do
      skipBlanks
      pure (.quit true ((← takeNumber).getD 0))
  | 'Q' => do
      skipBlanks
      pure (.quit false ((← takeNumber).getD 0))
  | 's' => .substitute <$> takeSubstitution isExtended
  | 'y' => takeTranslation
  | 'r' => .read <$> takePath
  | 'R' => .readLine <$> takePath
  | 'w' => .write <$> takePath
  | 'W' => .writeFirst <$> takePath
  | _ => failure

/-- Takes the end of a step. A closing brace is left. -/
def takeEnd : Reader Unit := do
  skipBlanks
  match ← get with
  | [] => pure ()
  | ';' :: rest => set rest
  | '\n' :: rest => set rest
  | '#' :: _ => pure ()
  | '\x7d' :: _ => pure ()
  | _ => failure

/-- Reads steps up to the end of the script or of braces. The steps so far are given in reverse. The
bound is on their number. -/
def readSteps (isExtended : Bool) : Nat → Nat → List Step → Reader (List Step)
  | 0, _, _ => failure
  | bound + 1, depth, done => do
      let _ ← takeWhile fun letter => isBlank letter || letter = '\n' || letter = ';'
      match ← peek with
      | none => if depth = 0 then pure done else failure
      | some '#' => do
          let _ ← takeWhile (· != '\n')
          readSteps isExtended bound depth done
      | some '\x7d' => do
          if depth = 0 then failure
          let _ ← take
          takeEnd
          pure done
      | some _ => do
          let selection ← takeSelection isExtended
          let letter ← take
          if letter = '\x7b' then do
            let inside ← readSteps isExtended bound (depth + 1) (⟨selection, .nothing⟩ :: done)
            let opening := done.length
            let closed := inside.reverse.mapIdx fun index step =>
              if index = opening then ⟨selection, .block inside.length⟩ else step
            readSteps isExtended bound depth closed.reverse
          else do
            let deed ← takeDeed isExtended letter
            takeEnd
            readSteps isExtended bound depth (⟨selection, deed⟩ :: done)

/-- The steps of a script. -/
def steps? (isExtended : Bool) (text : String) : Option (List Step) :=
  match (readSteps isExtended (2 * text.length + 4) 0 []).run text.toList with
  | some (steps, []) => some steps.reverse
  | _ => none

/-! ## Places in scripts -/

/-- The number of the step with a label. The end of the script has the number after the last step.
-/
def labelPlace? (steps : List Step) (name : String) : Option Nat :=
  if name.isEmpty then some steps.length
  else steps.findIdx? fun step =>
    match step.deed with
    | .label other => other = name
    | _ => false

/-- All jumps of a script lead somewhere. -/
def hasLabels (steps : List Step) : Bool :=
  steps.all fun step =>
    match step.deed with
    | .jump name | .jumpIf _ name => (labelPlace? steps name).isSome
    | _ => true

end StaticMulticast.Host.Utility.Edit
