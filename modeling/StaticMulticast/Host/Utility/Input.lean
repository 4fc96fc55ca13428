import StaticMulticast.Host.Process.Task

/-!
# Options and input

What most programs have in common: their options, and the files that they read.
-/

/-!
## Options of programs

Options stand among the arguments of a program: letters behind a minus sign, several of them in one
argument if that is wanted, and names behind two. A name can be shortened as long as no other one
begins in the same way. Two minus signs alone end the options.
-/

namespace StaticMulticast.Host.Utility

/-- What belongs to an option: nothing, a text that may stand in the next argument, or one that can
only stand in the same argument. -/
inductive Need where
  | nothing
  | text
  | attached
deriving DecidableEq, Repr

/-- An option that a program knows. One without a name has an empty one. -/
structure Known where
  letter : Char
  name : String
  need : Need := .nothing
deriving DecidableEq, Repr

/-- Options that are only known by their letters, without and with a text. -/
def knownLetters (plain withText : String) : List Known :=
  plain.toList.map (fun letter => ⟨letter, "", .nothing⟩) ++
    withText.toList.map fun letter => ⟨letter, "", .text⟩

/-- The options that have been given, each with its text, and the other arguments. -/
structure Given where
  options : List (Char × String) := []
  operands : List String := []
deriving DecidableEq, Repr

namespace Given

/-- The option has been given. -/
def has (given : Given) (letter : Char) : Bool :=
  given.options.any fun option => option.1 = letter

/-- The text of an option, as it was given last. -/
def text? (given : Given) (letter : Char) : Option String :=
  (given.options.reverse.find? fun option => option.1 = letter).map (·.2)

/-- All texts of an option. -/
def texts (given : Given) (letter : Char) : List String :=
  (given.options.filter fun option => option.1 = letter).map (·.2)

end Given

/-- The option that a name means. -/
def byName? (known : List Known) (name : String) : Option Known :=
  match known.find? fun option => option.name = name && !name.isEmpty with
  | some option => some option
  | none =>
      match known.filter fun option => name.toList.isPrefixOf option.name.toList with
      | [option] => if name.isEmpty then none else some option
      | _ => none

/-- Reads the letters of an argument. The text of the last one can be the next argument. -/
def readLetters (known : List Known) : List Char → List String →
    Option (List (Char × String) × List String)
  | [], rest => some ([], rest)
  | letter :: letters, rest => do
      let option ← known.find? fun option => option.letter = letter
      match option.need with
      | .nothing => do
          let (others, rest) ← readLetters known letters rest
          some ((letter, "") :: others, rest)
      | .attached => some ([(letter, String.ofList letters)], rest)
      | .text =>
          if !letters.isEmpty then some ([(letter, String.ofList letters)], rest)
          else match rest with
            | text :: rest => some ([(letter, text)], rest)
            | [] => none

/-- Reads an option by name. -/
def readName (known : List Known) (word : List Char) (rest : List String) :
    Option ((Char × String) × List String) := do
  let (name, value) := word.span (· != '=')
  let option ← byName? known (String.ofList name)
  match option.need, value with
  | .nothing, [] => some ((option.letter, ""), rest)
  | .nothing, _ => none
  | .attached, _ => some ((option.letter, String.ofList value.tail), rest)
  | .text, _ :: text => some ((option.letter, String.ofList text), rest)
  | .text, [] =>
      match rest with
      | text :: rest => some ((option.letter, text), rest)
      | [] => none

/-- Reads options. It is given whether they can stand behind other arguments. The bound is on the
number of arguments. -/
def readFrom (known : List Known) (anywhere : Bool) :
    Nat → Given → List String → Option Given
  | 0, given, _ => some given
  | _ + 1, given, [] => some given
  | bound + 1, given, argument :: rest =>
      match argument.toList with
      | ['-', '-'] => some { given with operands := given.operands ++ rest }
      | '-' :: '-' :: word => do
          let (option, rest) ← readName known word rest
          readFrom known anywhere bound { given with options := given.options ++ [option] } rest
      | '-' :: letter :: letters => do
          let (options, rest) ← readLetters known (letter :: letters) rest
          readFrom known anywhere bound { given with options := given.options ++ options } rest
      | _ =>
          if anywhere then
            readFrom known anywhere bound
              { given with operands := given.operands ++ [argument] } rest
          else some { given with operands := given.operands ++ argument :: rest }

/-- Reads the options among arguments, wherever they stand. There is no result if one is not known.
-/
def readOptions (known : List Known) (arguments : List String) : Option Given :=
  readFrom known true (arguments.length + 1) { } arguments

/-- What is wrong with the options among arguments. -/
def optionFault (known : List Known) (arguments : List String) : String :=
  let isWrong (argument : String) : Bool := (readOptions known [argument]).isNone
  let wrong := (arguments.takeWhile (· != "--")).find? fun argument => isWrong argument
  match wrong.map String.toList with
  | some ('-' :: '-' :: name) => "unrecognized option '--" ++ String.ofList name ++ "'"
  | some ('-' :: letters) =>
      let strange := letters.find? fun letter => known.all fun option => option.letter != letter
      match strange with
      | some letter => "invalid option -- '" ++ String.singleton letter ++ "'"
      | none =>
          "option requires an argument -- '" ++ String.singleton (letters.getLastD ' ') ++ "'"
  | _ => "invalid option"

/-- Reads the options in front of arguments. -/
def readLeading (known : List Known) (arguments : List String) : Option Given :=
  readFrom known false (arguments.length + 1) { } arguments

end StaticMulticast.Host.Utility

/-!
## The input of programs

Many programs read the files that their arguments name, or their input if there are none or where a
minus sign stands for it. A file that cannot be read is reported, and the others are still read.
-/

namespace StaticMulticast.Host.Utility

open Action

/-- Reads all of a file, or of the input. -/
def readOperand (path : String) : Action (Except Fault String) := do
  let result ← if path = "-" then readAll 0 else readPath path
  pure (result.map Text.Octets.ofList)

/-- A text in quotes. -/
def inQuotes (text : String) : String :=
  if text.toList.contains '\'' && !text.toList.contains '"' then "\"" ++ text ++ "\""
  else "'" ++ text ++ "'"

/-- A path as it stands in a message, in quotes if it has unusual letters. -/
def shownPath (path : String) : String :=
  let isUsual (letter : Char) : Bool := letter.isAlphanum || "%+,-./:=@_~".toList.contains letter
  if !path.isEmpty && path.toList.all isUsual then path else inQuotes path

/-- Reports a fault with a path. -/
def report (path : String) (fault : Fault) : Action Unit :=
  complain (shownPath path ++ ": " ++ fault.reason)

/-- Reports that something could not be done with a path. -/
def reportThat (deed path : String) (fault : Fault) : Action Unit :=
  complain (deed ++ " " ++ inQuotes path ++ ": " ++ fault.reason)

/-- How a fault with a path is reported. -/
abbrev Report := String → Fault → Action Unit

/-- The texts of files with their paths, as far as they can be read, and the status if one cannot.
-/
def readEachWith (report : Report) (failed : Nat) :
    List String → Action (List (String × String) × Nat)
  | [] => pure ([], 0)
  | path :: rest => do
      let result ← readOperand path
      match result with
      | .error fault => report path fault
      | .ok _ => pure ()
      let (others, status) ← readEachWith report failed rest
      match result with
      | .ok text => pure ((path, text) :: others, status)
      | .error _ => pure (others, failed)

/-- The texts of files with their paths, where a fault is reported as usual. -/
def readEach (failed : Nat) (paths : List String) : Action (List (String × String) × Nat) :=
  readEachWith report failed paths

/-- The texts of files with their paths, or the input if there are no paths. -/
def readOperands (failed : Nat) (paths : List String) : Action (List (String × String) × Nat) :=
  readEach failed (if paths.isEmpty then ["-"] else paths)

/-- The texts of files, one after the other. -/
def together (texts : List (String × String)) : String :=
  String.join (texts.map fun text => text.2)

/-- Gives back so many octets that have been read of the input last. From a pipe, whole blocks have
been read. -/
def giveBackBlocks (block count : Nat) : Action Unit := do
  match ← openFile? 0 with
  | some (_, { stream := .pipe number, .. }) =>
      modifyWorld fun world =>
        { world with pipes := world.pipes.modify number fun pipe => pipe.giveBack block count }
  | _ => pure ()

/-- Gives back so many octets that have been read of the input, even if it is a file. -/
def giveBack (block count : Nat) : Action Unit := do
  match ← openFile? 0 with
  | some (number, { stream := .opened (.file _), offset, .. }) => setOffset number (offset - count)
  | _ => giveBackBlocks block count

/-- Writes a text to an open file. -/
def writeOpen (number : Nat) (text : String) : Action Unit := do
  let before := (← process).descriptors
  setDescriptor 9 (some number)
  let _ ← write 9 text
  modifyProcess fun process => { process with descriptors := before }

/-- Writes a text to a path, in the place of what is there. -/
def writePath (path text : String) : Action (Option Fault) := do
  match ← openPath path .writing with
  | .error fault => pure (some fault)
  | .ok number => do
      writeOpen number text
      pure none

/-- Writes to a path instead of the output. -/
def redirectOutput (path : String) : Action (Option Fault) := do
  match ← openPath path .writing with
  | .error fault => pure (some fault)
  | .ok number => do
      setDescriptor 1 (some number)
      pure none

/-- Writes a text, and gives the status of the program after it. -/
def finish (status : Nat) (text : String) : Action Nat := do
  pure (max status (← answer text))

/-- A number behind blanks up to a width. -/
def atWidth (width : Nat) (number : Nat) : String :=
  let digits := toString number
  String.ofList (List.replicate (width - digits.length) ' ') ++ digits

/-- The character is a blank of a line. -/
def isBlank (letter : Char) : Bool :=
  letter = ' ' || letter = '\t'

/-- The lines of a text without their ends, which are marks, and whether the last one has an end. -/
def cutLines (mark : Char) (text : String) : List String × Bool :=
  let lines := (List.splitOnP (· == mark) text.toList).map String.ofList
  if lines.getLast? = some "" then (lines.dropLast, true) else (lines, false)

/-- The lines of a text without their ends, and whether the last one has an end. -/
def linesOf (text : String) : List String × Bool :=
  cutLines '\n' text

/-- Lines as a text, each with a mark as its end, the last one perhaps without. -/
def joinCut (mark : Char) (ended : Bool) (lines : List String) : String :=
  if ended || lines.isEmpty then String.join (lines.map (·.push mark))
  else String.intercalate (String.singleton mark) lines

/-- Lines as a text. -/
def joinLines (lines : List String) : String :=
  joinCut '\n' true lines

/-- Lines as a text, the last one with an end or without. -/
def joinEnded (ended : Bool) (lines : List String) : String :=
  joinCut '\n' ended lines

/-- A program has been called in a wrong way. -/
def refuse (status : Nat) (message : String) : Action Nat := do
  complain message
  pure status

/-- A program has been called in a wrong way, and tells how to learn the right one. -/
def refuseUse (status : Nat) (message : String) : Action Nat := do
  complain message
  let _ ← write 2 ("Try '" ++ (← process).name ++ " --help' for more information.\n")
  pure status

/-- Does something for each operand, and gives the greatest status. -/
def forEach (operands : List String) (body : String → Action Nat) : Action Nat := do
  let statuses ← operands.mapM body
  pure (statuses.foldl max 0)

/-- Reads the options among arguments and goes on with them, or refuses to run. -/
def withOptions (failed : Nat) (known : List Known) (arguments : List String)
    (body : Given → Action Nat) : Action Nat := do
  match readOptions known arguments with
  | some given => body given
  | none => refuseUse failed (optionFault known arguments)

/-- A number with the name of a unit behind it. -/
def amount? (text : String) : Option Nat :=
  let (digits, rest) := text.toList.span Char.isDigit
  let unit : Option Nat := match String.ofList rest with
    | "" => some 1
    | "b" => some 512
    | "kB" | "KB" => some 1000
    | "k" | "K" | "KiB" => some 0x400
    | "MB" => some 1000000
    | "m" | "M" | "MiB" => some 0x100000
    | "GB" => some 1000000000
    | "G" | "GiB" => some 0x40000000
    | _ => none
  match (String.ofList digits).toNat?, unit with
  | some number, some unit => some (number * unit)
  | _, _ => none

/-- The name at the end of a path, without slashes behind it. -/
def lastName (path : String) : String :=
  let reversed := path.toList.reverse
  let inside := reversed.dropWhile (· == '/')
  if inside.isEmpty then (if path.isEmpty then "" else "/")
  else String.ofList (inside.takeWhile (· != '/')).reverse

/-- A path to a name in a directory. -/
def joinPath (directory name : String) : String :=
  if directory.toList.getLast? = some '/' then directory ++ name else directory ++ "/" ++ name

end StaticMulticast.Host.Utility
