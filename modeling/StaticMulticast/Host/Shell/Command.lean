/-!
# The syntax of the shell

Commands and conditions, and how they are written down.
-/

/-!
## The commands of the shell

A script is a sequence of commands. A word of a command is kept as pieces, because what is quoted
in it stays as it is, while the value of a parameter, the output of a command and the result of a
calculation are only known when the word is used.
-/

namespace StaticMulticast.Host.Shell

/-- The two languages that scripts are written in. -/
inductive Dialect where
  | plain
  /-- The plain language with lists, conditions in brackets and some more. -/
  | extended
deriving DecidableEq, Repr

/-- Where a replacement is looked for in a value. -/
inductive Place where
  | first
  | every
  | front
  | back
deriving DecidableEq, Repr

/-- What is done with the value of a parameter before it is used. In the first four cases it matters
whether the parameter has a value, and for some whether the value is empty. -/
inductive Operation where
  | otherwise (ifEmpty : Bool)
  | assign (ifEmpty : Bool)
  | demand (ifEmpty : Bool)
  | instead (ifEmpty : Bool)
  | value
  | length
  | withoutFront (longest : Bool)
  | withoutBack (longest : Bool)
  | slice
  | replace (place : Place)
  | changeCase (upper every : Bool)
  /-- The value of the parameter that the value names. -/
  | indirect
  /-- The places of a list that have a value. -/
  | places
  /-- The names of variables that begin with the name. -/
  | names
  /-- Another form of the value, named by a letter. -/
  | transform (letter : Char)
  /-- No meaning is known. -/
  | unknown
deriving DecidableEq, Repr

/-- What a redirection does to a descriptor. -/
inductive Direction where
  | input
  | output
  /-- Output that may replace a file in any case. -/
  | replacement
  | appending
  | both
  /-- Another descriptor is used. -/
  | copy
  /-- Text that stands in the script is read. -/
  | text
  /-- A word is read as a line. -/
  | line
  /-- Both output and messages go to a file. -/
  | everything (appending : Bool)
deriving DecidableEq, Repr

/-- How an arm of a selection ends: it is the last to run, the next is run without a look at its
patterns, or the next are looked at. -/
inductive ArmEnd where
  | leave
  | fall
  | resume
deriving DecidableEq, Repr

/-- Where a command stands in a script, its own text, and the texts in the script that it reads, each
with the line that ends it. -/
structure Origin where
  line : Nat := 0
  text : String := ""
  documents : List String := []
deriving DecidableEq, Repr

mutual

/-- A part of a word. -/
inductive Piece where
  | letter (character : Char) (quoted : Bool)
  /-- A pair of quotes, which makes a word even if nothing stands in it. -/
  | quotes
  | parameter (name : String) (subscript : Option (List Piece)) (operation : Operation)
      (arguments : List (List Piece)) (quoted : Bool)
  /-- What a command writes. -/
  | output (command : Command) (quoted : Bool)
  /-- The result of a calculation. -/
  | number (expression : List Piece) (quoted : Bool)
  /-- The path of what a command writes or, if it is told, reads. -/
  | path (command : Command) (isRead : Bool)

/-- A redirection of a descriptor. -/
inductive Redirection where
  | mk (descriptor : Option Nat) (direction : Direction) (target : List Piece)
  /-- The number of the descriptor is kept in a variable. -/
  | named (name : String) (direction : Direction) (target : List Piece)

/-- A name that gets a value. -/
inductive Assignment where
  | text (name : String) (subscript : Option (List Piece)) (adds : Bool) (value : List Piece)
  | list (text name : String) (adds : Bool) (values : List (Option (List Piece) × List Piece))

/-- The patterns of a selection with their text, and what is done if one of them matches. -/
inductive Arm where
  | mk (text : String) (patterns : List (List Piece)) (body : Command) (ending : ArmEnd)

/-- A command. -/
inductive Command where
  | simple (origin : Origin) (assignments : List Assignment) (words : List (List Piece))
      (redirections : List Redirection)
  | redirected (origin : Origin) (body : Command) (redirections : List Redirection)
  /-- Commands in parentheses. -/
  | subshell (body : Command)
  /-- Commands in braces. -/
  | group (body : Command)
  | negation (body : Command)
  | pipe (parts : List Command)
  /-- Commands that depend on how the one before has ended: with or without success. -/
  | chain (first : Command) (rest : List (Bool × Command))
  | sequence (parts : List Command)
  | background (text : String) (body : Command)
  /-- A command that runs beside the script, which writes to it and reads from it. -/
  | partner (name text : String) (body : Command)
  /-- A command after which is told how long it has taken. -/
  | timed (isPlain : Bool) (body : Command)
  | choice (condition consequence alternative : Command)
  /-- A loop that goes on while the condition succeeds, or until it does. -/
  | loop (isNegated : Bool) (condition body : Command)
  /-- A loop over words, or over the arguments. -/
  | each (origin : Origin) (name : String) (words : Option (List (List Piece))) (body : Command)
  /-- A loop in which words, or the arguments, are offered to choose from. -/
  | menu (origin : Origin) (name : String) (words : Option (List (List Piece))) (body : Command)
  /-- A loop with three calculations: before it, ahead of each round, and after each round. -/
  | counted (origin : Origin) (start test step : List Piece) (body : Command)
  | selection (origin : Origin) (word : List Piece) (arms : List Arm)
  | definition (name : String) (body : Command)
  /-- A calculation, which succeeds if it does not come to zero. -/
  | calculation (origin : Origin) (expression : List Piece)
  /-- A condition in double brackets. -/
  | condition (origin : Origin) (words : List (List Piece))

end

/-- A word of a command. -/
abbrev Word := List Piece

/-- The command that does nothing. -/
def Command.nothing : Command := .sequence []

instance : Inhabited Command := ⟨.nothing⟩

/-- The text of a word in which nothing is quoted and nothing is to be replaced. -/
def plainText? : Word → Option (List Char)
  | [] => some []
  | .letter character false :: rest => (plainText? rest).map (character :: ·)
  | _ => none

end StaticMulticast.Host.Shell

/-!
## Conditions

The words between double brackets are a condition: a text, a check of one word, a comparison of two,
or several of these held together. An operator is one only where nothing in it is quoted.
-/

namespace StaticMulticast.Host.Shell

/-- A condition. -/
inductive Condition where
  /-- The text is not empty. -/
  | text (word : Word)
  | check (operator : String) (word : Word)
  | compare (operator : String) (left right : Word)
  | negation (body : Condition)
  /-- A condition in parentheses. -/
  | group (body : Condition)
  | both (first second : Condition)
  | either (first second : Condition)

namespace Condition

/-- The operators with one word. -/
def checks : List String :=
  ["-n", "-z", "-e", "-a", "-f", "-d", "-r", "-w", "-x", "-s", "-h", "-L", "-c", "-b", "-p", "-S",
    "-u", "-g", "-k", "-O", "-G", "-t", "-v", "-o", "-N", "-R"]

/-- The operators between two words. -/
def comparisons : List String :=
  ["=", "==", "!=", "=~", "<", ">", "-eq", "-ne", "-lt", "-le", "-gt", "-ge", "-nt", "-ot", "-ef"]

/-- The text of a word, if nothing in it is quoted or replaced. -/
def bareText (word : Word) : String :=
  String.ofList ((plainText? word).getD [])

/-- The word is one of the operators that hold conditions together. -/
def isJoint (word : Word) : Bool :=
  ["&&", "||", "(", ")"].contains (bareText word)

mutual

/-- Reads conditions of which one must hold. The first argument bounds the depth. -/
def readEither : Nat → List Word → Option (Condition × List Word)
  | 0, _ => none
  | fuel + 1, words => do
      let (first, rest) ← readBoth fuel words
      match rest with
      | word :: after =>
          if bareText word = "||" then do
            let (second, rest) ← readEither fuel after
            some (.either first second, rest)
          else some (first, rest)
      | [] => some (first, [])

/-- Reads conditions that must all hold. -/
def readBoth : Nat → List Word → Option (Condition × List Word)
  | 0, _ => none
  | fuel + 1, words => do
      let (first, rest) ← readSingle fuel words
      match rest with
      | word :: after =>
          if bareText word = "&&" then do
            let (second, rest) ← readBoth fuel after
            some (.both first second, rest)
          else some (first, rest)
      | [] => some (first, [])

/-- Reads a condition without operators between conditions. -/
def readSingle : Nat → List Word → Option (Condition × List Word)
  | 0, _ => none
  | _ + 1, [] => none
  | fuel + 1, first :: rest =>
      let text := bareText first
      if text = "!" then do
        let (body, rest) ← readSingle fuel rest
        some (.negation body, rest)
      else if text = "(" then do
        let (body, rest) ← readEither fuel rest
        match rest with
        | closing :: rest => if bareText closing = ")" then some (.group body, rest) else none
        | [] => none
      else if isJoint first then none
      else match rest with
        | second :: rest =>
            if comparisons.contains (bareText second) then
              match rest with
              | third :: rest => some (.compare (bareText second) first third, rest)
              | [] => none
            else if checks.contains text && !isJoint second then some (.check text second, rest)
            else if isJoint second then some (.text first, second :: rest)
            else none
        | [] => some (.text first, [])

end

/-- The condition that words are. -/
def ofWords? (words : List Word) : Option Condition :=
  match readEither (4 * words.length + 8) words with
  | some (condition, []) => some condition
  | _ => none

end Condition

end StaticMulticast.Host.Shell

/-!
## The layout of commands

How a command is written down when a shell is asked for it: with each command of a list on a line of
its own, and with what stands inside another command indented. The texts that a command reads from
the script follow the line that it stands on.
-/

namespace StaticMulticast.Host.Shell

/-- What has been written, and how to go on. -/
structure Sheet where
  /-- The lines and parts of lines that have been written, the last one first. -/
  parts : List String := []
  /-- The number of blanks in front of a line. -/
  indent : Nat := 0
  /-- The number of blanks that are added for what stands inside. -/
  step : Nat := 4
  /-- Commands of a list stand on lines of their own. -/
  isSpread : Bool := true
  /-- The number of lists and pipes around the command. -/
  joints : Nat := 0
  /-- The texts from the script that follow the next joint. -/
  documents : List String := []
  /-- A text from the script has been written last. -/
  hasDocument : Bool := false

/-- A part of the work of writing commands down. -/
abbrev Writer := StateM Sheet Unit

namespace Layout

/-- Writes a text. -/
def put (text : String) : Writer :=
  modify fun sheet => if text.isEmpty then sheet else { sheet with parts := text :: sheet.parts }

/-- Writes the blanks in front of a line. -/
def indent : Writer := do
  put (String.ofList (List.replicate (← get).indent ' '))

/-- Begins a line with a text. -/
def line (text : String) : Writer := do
  put "\n"
  indent
  put text

/-- Writes what stands inside. -/
def inside (body : Writer) : Writer := do
  modify fun sheet => { sheet with indent := sheet.indent + sheet.step }
  body
  modify fun sheet => { sheet with indent := sheet.indent - sheet.step }

/-- Ends a command with a semicolon, unless something stands there that ends it already. -/
def semicolon : Writer := do
  let last := (← get).parts.head?.bind fun part => part.toList.getLast?
  if last != some '&' && last != some '\n' then put ";"

/-- Writes texts from the script. -/
def putDocuments (documents : List String) : Writer := do
  put "\n"
  documents.forM put
  modify fun sheet => { sheet with hasDocument := true }

/-- Writes a joint between commands, and the texts from the script that follow it. -/
def joint (text : String) : Writer := do
  put text
  let { documents, .. } ← get
  if !documents.isEmpty then do
    putDocuments documents
    if !text.isEmpty then put " "
    modify fun sheet => { sheet with documents := [] }

/-- Writes the text of redirections or of a simple command, and what it reads from the script. -/
def own (origin : Origin) : Writer := do
  put origin.text
  if !origin.documents.isEmpty then
    if 0 < (← get).joints then
      modify fun sheet => { sheet with documents := sheet.documents ++ origin.documents }
    else putDocuments origin.documents

/-- Writes commands that are joined. -/
def joined (body : Writer) : Writer := do
  modify fun sheet => { sheet with joints := sheet.joints + 1 }
  body
  modify fun sheet => { sheet with joints := sheet.joints - 1 }

/-- Ends a command of a list that another one follows. It is told whether the next one begins a line.
-/
def endOfPart : StateM Sheet Bool := do
  let { documents, hasDocument, isSpread, .. } ← get
  if documents.isEmpty then
    if hasDocument then modify fun sheet => { sheet with hasDocument := false }
    else put ";"
  else do
    if !isSpread then put ";"
    joint ""
  put (if isSpread then "\n" else " ")
  pure isSpread

/-- Writes what stands between braces. -/
def braces (body : Bool → Writer) : Writer := do
  put "\x7b "
  if (← get).isSpread then do
    put "\n"
    inside (body true)
    joint ""
    line "\x7d"
  else do
    body false
    joint ""
    semicolon
    put " \x7d"

/-- Writes the body of a loop. -/
def bodyOfLoop (body : Writer) : Writer := do
  inside body
  joint ""
  semicolon
  line "done"

/-- The mark at the end of an arm. -/
def armMark : ArmEnd → String
  | .leave => ";;"
  | .fall => ";&"
  | .resume => ";;&"

/-- The command is a part of another one that has been written already. -/
def isWritten : Command → Bool
  | .simple origin _ _ _ => origin.text.isEmpty
  | _ => false

/-- A bound on the depth of commands in commands. -/
def depth : Nat := 4096

mutual

/-- Writes a command. It is told whether the command begins a line. The first argument bounds the
depth. -/
def write : Nat → Bool → Command → Writer
  | 0, _, _ => pure ()
  | bound + 1, begins, command => do
      if begins then
        match command with
        | .sequence _ => pure ()
        | _ => indent
      match command with
      | .simple origin _ _ _ => own origin
      | .redirected origin body _ => do
          write bound false body
          put " "
          own origin
      | .subshell body => do
          put "( "
          write bound false body
          joint ""
          put " )"
      | .group body => braces fun begins => write bound begins body
      | .negation body => do
          put "! "
          write bound false body
      | .timed isPlain body => do
          put (if isPlain then "time -p " else "time ")
          write bound false body
      | .pipe parts => joined (writeJoined bound (parts.map fun part => (" |", part)))
      | .chain first rest =>
          joined (writeJoined bound (("", first) :: rest.map fun (wantsSuccess, command) =>
            (if wantsSuccess then " &&" else " ||", command)))
      | .sequence parts =>
          match parts.filter fun part => !isWritten part with
          | [part] => write bound begins part
          | parts => joined (writeParts bound begins parts)
      | .background _ body => do
          write bound false body
          joint " &"
      | .partner name _ body => do
          put ("coproc " ++ name ++ " ")
          write bound false body
      | .choice condition consequence alternative => do
          put "if "
          write bound false condition
          joint ""
          semicolon
          put " then\n"
          inside (write bound true consequence)
          joint ""
          match alternative with
          | .sequence [] => pure ()
          | alternative => do
              semicolon
              line "else\n"
              inside (write bound true alternative)
              joint ""
          semicolon
          line "fi"
      | .loop isNegated condition body => do
          put (if isNegated then "until " else "while ")
          write bound false condition
          joint ""
          semicolon
          put " do\n"
          bodyOfLoop (write bound true body)
      | .each origin _ _ body | .menu origin _ _ body => do
          put origin.text
          put ";"
          line "do\n"
          bodyOfLoop (write bound true body)
      | .counted origin _ _ _ body => do
          put origin.text
          line "do\n"
          bodyOfLoop (write bound true body)
      | .selection origin _ arms => do
          put origin.text
          put " "
          inside (arms.forM fun arm => match arm with
            | .mk text _ body ending => do
                line text
                put ")\n"
                inside (write bound true body)
                joint ""
                line (armMark ending))
          line "esac"
      | .definition name body => do
          put ("function " ++ name ++ " () \n")
          indent
          writeBody bound body
      | .calculation origin _ => own origin
      | .condition origin _ => own origin

/-- Writes commands, each behind a joint but the first. -/
def writeJoined : Nat → List (String × Command) → Writer
  | 0, _ => pure ()
  | _ + 1, [] => pure ()
  | bound + 1, (_, command) :: rest => do
      write bound false command
      match rest with
      | (mark, _) :: _ => do
          joint mark
          put " "
          writeJoined bound rest
      | [] => joint ""

/-- Writes the commands of a list. -/
def writeParts : Nat → Bool → List Command → Writer
  | 0, _, _ => pure ()
  | _ + 1, _, [] => pure ()
  | bound + 1, begins, command :: rest => do
      write bound begins command
      match rest, command with
      | [], _ => joint ""
      | _, .background _ _ => do
          put " "
          writeParts bound false rest
      | _, _ => do
          let begins ← endOfPart
          writeParts bound begins rest

/-- Writes the body of a function between braces. -/
def writeBody : Nat → Command → Writer
  | 0, _ => pure ()
  | bound + 1, body => do
      let { isSpread, .. } ← get
      modify fun sheet => { sheet with isSpread := true }
      put "\x7b \n"
      let (body, origin) := match body with
        | .redirected origin (.group body) _ => (body, origin)
        | .group body => (body, {})
        | body => (body, {})
      inside (write bound true body)
      joint ""
      line "\x7d"
      if !origin.text.isEmpty then do
        put " "
        own origin
      modify fun sheet => { sheet with isSpread }

end

/-- What has been written. -/
def Sheet.text (sheet : Sheet) : String :=
  String.join sheet.parts.reverse

end Layout

/-- A function as it is written down. -/
def functionText (name : String) (body : Command) : String :=
  let writing : Writer := do
    Layout.put (name ++ " () \n")
    Layout.writeBody Layout.depth body
  Layout.Sheet.text (writing.run { }).2

/-- The name of the variable in which programs see a function. -/
def functionVariable (name : String) : String :=
  "BASH_FUNC_" ++ name ++ "%%"

/-- A function as programs can see it. -/
def functionValue (body : Command) : String :=
  let (inside, redirections) := match body with
    | .redirected origin (.group body) _ => (body, origin.text)
    | .group body => (body, "")
    | body => (body, "")
  let writing : Writer := Layout.write Layout.depth true inside
  let text := Layout.Sheet.text (writing.run { indent := 1, step := 0 }).2
  "() \x7b " ++ text ++ "\n\x7d" ++ (if redirections.isEmpty then "" else " " ++ redirections)

end StaticMulticast.Host.Shell
