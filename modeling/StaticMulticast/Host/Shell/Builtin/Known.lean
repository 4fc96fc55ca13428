import StaticMulticast.Host.Shell.Resolve
import StaticMulticast.Text.Pattern

/-!
# Commands about names

Those about commands, and those that complete what has been begun.
-/

/-!
## Commands about commands

The commands that tell where programs have been found, that turn commands of the shell off and on,
that say how they are used, and that complete what has been begun.
-/

namespace StaticMulticast.Host.Shell

open Action

/-! ## Programs that have been found -/

/-- The part of a small table that a name belongs to: its first letter counts sixteen times more. -/
def smallPart (name : String) : Nat :=
  let octets := Text.Octets.toList name
  let first := (octets.head?.map UInt8.toNat).getD 0
  (octets.foldl (fun sum octet => sum + octet.toNat) (16 * first)) % 0x8000 % 31

/-- The programs that have been found, in the order in which a table holds them. -/
def knownInOrder : Action (List KnownProgram) := do
  let { known, dialect, .. } ← process
  pure (if dialect = .plain then
      (List.range 31).flatMap fun part =>
        known.reverse.filter fun program => smallPart program.name = part
    else
      (List.range 0x100).flatMap fun part =>
        known.filter fun program => Value.part 0x100 program.name = part)

/-- Forgets where a program has been found. -/
def forgetProgram (name : String) : Action Unit :=
  modifyProcess fun process =>
    { process with known := process.known.filter fun known => known.name != name }

/-- Writes the programs that have been found. -/
def listKnown (asCommands : Bool) : Action Nat := do
  let all ← knownInOrder
  if !(← isExtended) then
    answer (String.join (all.map fun known =>
      known.path ++ (if known.isOld then "*" else "") ++ "\n"))
  else if all.isEmpty then answer "hash: hash table empty\n"
  else if asCommands then
    answer (String.join (all.map fun known =>
      "builtin hash -p " ++ known.path ++ " " ++ known.name ++ "\n"))
  else
    let line (known : KnownProgram) : String :=
      let count := toString known.count
      String.ofList (List.replicate (4 - count.length) ' ') ++ count ++ "\t" ++ known.path ++ "\n"
    answer ("hits\tcommand\n" ++ String.join (all.map line))

/-- Looks for a program, so that it is known. -/
def findAnew (name : String) : Action Nat := do
  if name.toList.contains '/' || (← isShellCommand name) ||
      ((← process).functions.lookup name).isSome then pure 0
  else do
    forgetProgram name
    match ← programPath? name with
    | some path => do
        noteProgram name path 0
        pure 0
    | none => do
        protest (name ++ ": not found")
        pure 1

/-- Tells where a program has been found. -/
def tellKnown (isAlone asCommands : Bool) (name : String) : Action Nat := do
  match (← process).known.find? fun known => known.name = name with
  | none => do
      protest (name ++ ": not found")
      pure 1
  | some known => do
      noteProgram name known.path 1
      answer ((if asCommands then "builtin hash -p " ++ known.path ++ " " ++ name
        else if isAlone then known.path
        else name ++ "\t" ++ known.path) ++ "\n")

/-- Forgets a program that has been found, or tells that it has not been. -/
def forgetKnown (name : String) : Action Nat := do
  if (← process).known.any fun known => known.name = name then do
    forgetProgram name
    pure 0
  else do
    protest (name ++ ": not found")
    pure 1

/-- Looks for programs, so that they are known, or tells about those that are. -/
def runHash (arguments : List String) : Action Nat := do
  match arguments, ← isExtended with
  | "-p" :: path :: names, true => do
      names.forM fun name => do
        forgetProgram name
        noteProgram name path 0
      pure 0
  | _, _ =>
    withLeading "hash" "r" "lrpdt" arguments fun options names => do
      let asks (letter : Char) : Bool := options.contains letter
      if asks 'r' then modifyProcess fun process => { process with known := [] }
      if names.isEmpty then
        if asks 'd' || asks 't' then do
          let letter := if asks 'd' then "-d" else "-t"
          protest (letter ++ ": option requires an argument")
          pure 1
        else if asks 'r' then pure 0
        else listKnown (asks 'l')
      else do
        let statuses ← names.mapM
          (if asks 't' then tellKnown (names.length = 1) (asks 'l')
            else if asks 'd' then forgetKnown
            else findAnew)
        pure (statuses.foldl max 0)

/-! ## Commands of the shell -/

/-- The commands of the shell of the extended language, in order. -/
def allCommands : List String :=
  (synopses.map Synopsis.name).filter fun name =>
    specialCommands.contains name || regularCommands.contains name || extendedCommands.contains name

/-- The commands of the extended language that count more than others. -/
def chiefCommands : List String :=
  [".", ":", "break", "continue", "eval", "exec", "exit", "export", "readonly", "return", "set",
    "shift", "source", "times", "trap", "unset"]

/-- Turns commands of the shell off and on, or tells which ones are on. -/
def runEnable (arguments : List String) : Action Nat :=
  withLeading "enable" "" "anps" arguments fun options names => do
    let asks (letter : Char) : Bool := options.contains letter
    let disabled := (← process).disabled
    let line (name : String) : String :=
      (if disabled.contains name then "enable -n " else "enable ") ++ name ++ "\n"
    let all := if asks 's' then chiefCommands else allCommands
    if names.isEmpty || asks 'p' then
      let isWanted (name : String) : Bool :=
        asks 'a' || disabled.contains name = asks 'n'
      answer (String.join ((all.filter isWanted).map line))
    else do
      let statuses ← names.mapM fun name => do
        if !all.contains name then do
          protest (name ++ ": not a shell builtin")
          pure 1
        else do
          modifyProcess fun process =>
            let others := process.disabled.filter (· != name)
            { process with disabled := if asks 'n' then name :: others else others }
          pure 0
      pure (statuses.foldl max 0)

/-- Says how commands of the shell are used. -/
def runHelp (arguments : List String) : Action Nat :=
  withLeading "help" "" "dms" arguments fun options topics => do
    let isMatch (topic name : String) : Bool :=
      let pattern := topic.toList.map fun letter => (letter, false)
      Text.Pattern.holds (Text.Pattern.expression true pattern) name.toList
    let chosen (topic : String) : List Synopsis :=
      match synopses.filter fun synopsis => isMatch topic synopsis.name with
      | [] => synopses.filter fun synopsis => topic.toList.isPrefixOf synopsis.name.toList
      | exact => exact
    let text (synopsis : Synopsis) : String :=
      if options.contains 'd' then synopsis.name ++ " - " ++ synopsis.purpose ++ "\n"
      else synopsis.name ++ ": " ++ synopsis.text ++ "\n" ++
        (if options.contains 's' then "" else "    " ++ synopsis.purpose ++ "\n")
    let found := topics.flatMap chosen
    match topics.getLast? with
    | none => answer (String.join (synopses.map fun synopsis => " " ++ synopsis.text ++ "\n"))
    | some last =>
        if found.isEmpty then do
          protest ("no help topics match " ++ inOldQuotes last ++ ".  Try " ++
            inOldQuotes "help help" ++ " or " ++ inOldQuotes ("man -k " ++ last) ++ " or " ++
            inOldQuotes ("info " ++ last) ++ ".")
          pure 1
        else do
          if topics.any fun topic => topic.toList.any fun letter => ['*', '?', '['].contains letter
          then do
            let _ ← answer ("Shell commands matching keyword " ++
              inOldQuotes (String.intercalate ", " topics) ++ "\n\n")
          answer (String.join (found.map text))

end StaticMulticast.Host.Shell

/-!
## Completing what has been begun

`compgen` tells all words of some kinds that begin in the same way: names that the shell knows, files,
the words of a list, or what a function or a command gives.
-/

namespace StaticMulticast.Host.Shell

open Action

/-- What a completion asks for. -/
structure Completing where
  kinds : List String := []
  /-- The options with a text, the last one first. -/
  texts : List (Char × String) := []
  word : String := ""

/-- The kinds of words that have a letter. -/
def kindLetters : List (Char × String) :=
  [('a', "alias"), ('b', "builtin"), ('c', "command"), ('d', "directory"), ('e', "export"),
    ('f', "file"), ('g', "group"), ('j', "job"), ('k', "keyword"), ('s', "service"), ('u', "user"),
    ('v', "variable")]

/-- All kinds of words, in the order in which they are told. -/
def wordKinds : List String :=
  ["alias", "arrayvar", "binding", "builtin", "disabled", "enabled", "export", "function",
    "helptopic", "hostname", "job", "keyword", "running", "setopt", "shopt", "signal", "stopped",
    "variable", "command", "file", "user", "group", "service", "directory"]

/-- The words that hold commands together, in the order of the extended language. -/
def keywordsInOrder : List String :=
  ["if", "then", "else", "elif", "fi", "case", "esac", "for", "select", "while", "until", "do",
    "done", "in", "function", "time", "\x7b", "\x7d", "!", "[[", "]]", "coproc"]

/-- The variables that a shell of the extended language always has. -/
def keptNames : List String :=
  ["BASH", "BASHOPTS", "BASHPID", "BASH_ALIASES", "BASH_ARGC", "BASH_ARGV", "BASH_ARGV0",
    "BASH_CMDS", "BASH_COMMAND", "BASH_LINENO", "BASH_LOADABLES_PATH", "BASH_SOURCE",
    "BASH_SUBSHELL", "BASH_VERSINFO", "BASH_VERSION", "COMP_WORDBREAKS", "DIRSTACK",
    "EPOCHREALTIME", "EPOCHSECONDS", "EUID", "GROUPS", "HISTCMD", "HOSTNAME", "LINENO", "OLDPWD",
    "OPTERR", "PIPESTATUS", "PPID", "RANDOM", "SECONDS", "SHELL", "SHELLOPTS", "SRANDOM", "TERM",
    "UID", "_"]

/-- The lists that a shell of the extended language always has. -/
def keptLists : List String :=
  ["BASH_ALIASES", "BASH_ARGC", "BASH_ARGV", "BASH_CMDS", "BASH_LINENO", "BASH_SOURCE",
    "BASH_VERSINFO", "DIRSTACK", "GROUPS", "PIPESTATUS"]

/-- Reads what a completion asks for. A fault is told with the status that follows. The bound is on the
number of arguments. -/
def readCompleting (asked : Completing) : Nat → List String → Except String Completing
  | 0, _ => .ok asked
  | _ + 1, [] => .ok asked
  | bound + 1, argument :: rest =>
      match argument.toList with
      | ['-', '-'] => .ok { asked with word := rest.headD "" }
      | '-' :: letter :: letters =>
          match kindLetters.lookup letter with
          | some kind =>
              let asked := { asked with kinds := kind :: asked.kinds }
              if letters.isEmpty then readCompleting asked bound rest
              else readCompleting asked bound (String.ofList ('-' :: letters) :: rest)
          | none =>
              if !"oAGWFCXPS".toList.contains letter then
                .error ("-" ++ String.singleton letter ++ ": invalid option")
              else
                let take (text : String) (rest : List String) : Except String Completing :=
                  if letter != 'A' then
                    readCompleting { asked with texts := (letter, text) :: asked.texts } bound rest
                  else if wordKinds.contains text then
                    readCompleting { asked with kinds := text :: asked.kinds } bound rest
                  else .error (text ++ ": invalid action name")
                if !letters.isEmpty then take (String.ofList letters) rest
                else match rest with
                  | text :: rest => take text rest
                  | [] =>
                      .error ("-" ++ String.singleton letter ++ ": option requires an argument")
      | _ => .ok { asked with word := argument }

/-- The first fields of the lines of a file, up to a colon. -/
def namesInFile (path : String) : Action (List String) := do
  match ← readPath path with
  | .ok octets =>
      let lines := (Text.Octets.ofList octets).splitOn "\n"
      pure ((lines.map fun line => (line.splitOn ":").headD "").filter fun name => !name.isEmpty)
  | .error _ => pure []

/-- The paths that begin in a way. -/
def pathsFrom (word : String) : Action (List String) := do
  let matching : Matching :=
    { files := ← files
      working := (← process).working
      isPlain := false
      hasGroups := true
      ignoresCase := false
      takesHidden := true
      goesDeep := false }
  let field := word.toList.map (fun letter => (letter, true)) ++ [('*', false)]
  pure (matching.paths "" (slashPieces field))

/-- The programs of the directories in which programs are looked for. -/
def programsFrom (word : String) : Action (List String) := do
  if word.toList.contains '/' then (← pathsFrom word).filterM isRunnable
  else do
    let directories := Files.directoriesOf (← searchPath)
    let names ← directories.mapM fun directory => do
      let paths ← (← pathsFrom (directory ++ "/" ++ word)).filterM isRunnable
      pure (paths.map fun path => (path.splitOn "/").getLast?.getD "")
    pure names.flatten

/-- The words of a kind that begin in a way. -/
def wordsOfKind (word kind : String) : Action (List String) := do
  let { aliases, functions, bindings, disabled, jobs, calls, .. } ← process
  let chosen (names : List String) : Action (List String) :=
    pure (names.filter fun name => word.toList.isPrefixOf name.toList)
  let sorted (names : List String) : Action (List String) := chosen (sortTexts names.eraseDups)
  let isList (binding : Binding) : Bool := match binding.value with
    | .list _ | .table _ => true
    | _ => false
  match kind with
  | "alias" => sorted (aliases.map (·.1))
  | "arrayvar" =>
      let kept := if calls = 0 then keptLists else "FUNCNAME" :: keptLists
      sorted ((bindings.filter fun row => isList row.2).map (·.1) ++ kept)
  | "builtin" => chosen allCommands
  | "disabled" => chosen (allCommands.filter disabled.contains)
  | "enabled" => chosen (allCommands.filter fun name => !disabled.contains name)
  | "export" => sorted ((bindings.filter fun row => row.2.isExported).map (·.1))
  | "function" => sorted (functions.map (·.1))
  | "helptopic" => chosen (synopses.map Synopsis.name)
  | "hostname" => chosen ["localhost"]
  | "job" | "running" => chosen (jobs.map fun job => (job.text.splitOn " ").headD "")
  | "keyword" => chosen keywordsInOrder
  | "setopt" => chosen (Options.extended.map (·.1))
  | "shopt" => chosen Options.furtherNames
  | "signal" => chosen (["EXIT"] ++ signalNames.map (fun row => "SIG" ++ row.2) ++
      ["DEBUG", "ERR", "RETURN"])
  | "variable" => sorted (bindings.map (·.1) ++ keptNames)
  | "command" => do
      let own ← chosen (sortTexts (aliases.map (·.1)) ++ keywordsInOrder ++
        sortTexts (functions.map (·.1)) ++ allCommands)
      pure (own ++ (← programsFrom word))
  | "file" => pathsFrom word
  | "directory" => do (← pathsFrom word).filterM fun path => do
      pure ((← find? true path).any Found.isDirectory)
  | "user" => chosen (← namesInFile "/etc/passwd")
  | "group" => chosen (← namesInFile "/etc/group")
  | _ => pure []

/-- The parts of a text between separators that are not quoted. The mark of the quotation that has begun
is given; that of a backslash ends with the next letter. -/
def quotedParts (separators : List Char) : Option Char → List Char → List (List Char)
  | _, [] => [[]]
  | quote, letter :: rest =>
      let next := match quote with
        | some mark => if mark = '\\' || letter = mark then none else some mark
        | none => if ['\'', '"', '\\'].contains letter then some letter else none
      if quote.isNone && separators.contains letter then [] :: quotedParts separators none rest
      else match quotedParts separators next rest with
        | first :: others => (letter :: first) :: others
        | [] => [[letter]]

/-- The words of a list. -/
def wordsOfList (again : Runner) (text : String) : Action (List String) := do
  let separators := ((← parameter? "IFS").getD " \t\n").toList
  let parts := (quotedParts separators none text.toList).filter fun part => !part.isEmpty
  parts.mapM fun part => do
    let bound := readingBound part + 8
    let ending := Char.ofNat 0
    let reader := readArgument (inner .extended bound) bound false [ending] []
    match reader.run { rest := part ++ [ending] } with
    | some ((pieces, _), _) => Expansion.textOf again pieces
    | none => pure (String.ofList part)

/-- The words that a function gives, which is told the word that has been begun. -/
def wordsOfFunction (again : Runner) (name word : String) : Action (List String) := do
  setBinding "COMPREPLY" none
  let quoted := String.intercalate " " ([name, "compgen", word, ""].map inQuotes)
  again (.script { } 1 quoted)
  pure (← Expansion.valueOf "COMPREPLY").texts

/-- The words that a command writes, one on a line. -/
def wordsOfCommand (again : Runner) (text word : String) : Action (List String) := do
  let quoted := String.intercalate " " (["compgen", word, ""].map inQuotes)
  let (octets, _) ← capture again (again (.script { } 1 (text ++ " " ++ quoted)))
  pure (((Text.Octets.ofList octets).splitOn "\n").filter fun line => !line.isEmpty)

/-- Tells the words that complete what has been begun. -/
def runCompgen (again : Runner) (arguments : List String) : Action Nat := do
  match readCompleting { } (arguments.length + (String.join arguments).length + 1) arguments with
  | .error message => do
      protest message
      if message.endsWith "option" then tellUse "compgen"
      pure 2
  | .ok { kinds, texts, word } => do
      let isBegun (other : String) : Bool := word.toList.isPrefixOf other.toList
      let ofKinds ← (wordKinds.filter kinds.contains).mapM (wordsOfKind word)
      let ofPattern ← match texts.lookup 'G' with
        | some pattern => fileNames (pattern.toList.map fun letter => (letter, false))
        | none => pure []
      let ofList ← match texts.lookup 'W' with
        | some text => wordsOfList again text
        | none => pure []
      let ofFunction ← match texts.lookup 'F' with
        | some name => do
            protest "warning: -F option may not work as you expect"
            wordsOfFunction again name word
        | none => pure []
      let ofCommand ← match texts.lookup 'C' with
        | some text => do
            protest "warning: -C option may not work as you expect"
            wordsOfCommand again text word
        | none => pure []
      let all := ofKinds.flatten ++ ofPattern ++ ofList.filter isBegun ++ ofFunction ++ ofCommand
      let kept (filter : String) (other : String) : Bool :=
        let (isNegated, letters) := match filter.toList with
          | '!' :: letters => (true, letters)
          | letters => (false, letters)
        let pattern := Text.Pattern.expression true (letters.map fun letter => (letter, false))
        Text.Pattern.holds pattern other.toList = isNegated
      let chosen := match texts.lookup 'X' with
        | some filter => all.filter (kept filter)
        | none => all
      let front := (texts.lookup 'P').getD ""
      let back := (texts.lookup 'S').getD ""
      let _ ← answer (String.join (chosen.map fun other => front ++ other ++ back ++ "\n"))
      pure (if chosen.isEmpty && !(kinds.isEmpty && texts.isEmpty) then 1 else 0)

end StaticMulticast.Host.Shell
