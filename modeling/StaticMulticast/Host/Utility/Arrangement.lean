import StaticMulticast.Host.Shell.Declaration
import StaticMulticast.Host.Utility.Input

/-!
# Arranging arguments

`getopt` reads arguments as options that a script knows, and writes them again: the options first,
each in a word of its own with its text behind it, then two minus signs and what is left.
-/

namespace StaticMulticast.Host.Utility

open Action

namespace Arrangement

/-- How arguments are read: options and other arguments stand among each other, the first other
argument ends the options, or every argument keeps its place. -/
inductive Order where
  | mixed
  | leading
  | kept
deriving DecidableEq, Repr

/-- The options that a script knows, and how arguments are read and written. -/
structure Wish where
  order : Order := .mixed
  letters : List (Char × Need) := []
  names : List (String × Need) := []
  /-- Names can stand behind one minus sign. -/
  isLoose : Bool := false
  isQuoted : Bool := true

/-- The need that marks behind a letter or a name tell. -/
def needOf (colons : Nat) : Need :=
  if colons = 0 then .nothing else if colons = 1 then .text else .attached

/-- The letters of options, each with what belongs to it. -/
def lettersOf : Nat → List Char → List (Char × Need)
  | 0, _ => []
  | _ + 1, [] => []
  | bound + 1, letter :: rest =>
      let (colons, after) := rest.span (· == ':')
      (letter, needOf colons.length) :: lettersOf bound after

/-- Adds letters to a wish. A mark in front of them tells how arguments are read. -/
def Wish.addLetters (wish : Wish) (text : String) : Wish :=
  let (order, rest) := match text.toList with
    | '+' :: rest => (Order.leading, rest)
    | '-' :: rest => (Order.kept, rest)
    | rest => (wish.order, rest)
  let rest := if rest.head? = some ':' then rest.tail else rest
  { wish with order, letters := lettersOf (rest.length + 1) rest }

/-- Adds names to a wish. -/
def Wish.addNames (wish : Wish) (text : String) : Wish :=
  let words := (List.splitOnP (fun letter => letter = ',' || Char.isWhitespace letter)
    text.toList).filter fun word => !word.isEmpty
  let names := words.map fun word =>
    let name := word.takeWhile (· != ':')
    (String.ofList name, needOf (word.length - name.length))
  { wish with names := wish.names ++ names }

/-- What has been read: words with the note whether they are quoted, other arguments, and complaints,
all in reverse. -/
structure Reading where
  words : List (String × Bool) := []
  others : List String := []
  complaints : List String := []

/-- Adds an option. -/
def Reading.add (reading : Reading) (option : String) (text : Option String) : Reading :=
  { reading with
    words := (text.map fun text => (text, true)).toList ++ (option, false) :: reading.words }

/-- Adds a complaint. -/
def Reading.complain (reading : Reading) (text : String) : Reading :=
  { reading with complaints := text :: reading.complaints }

/-- Reads the letters of an argument, and tells what is left of the arguments. -/
def Wish.readLetters (wish : Wish) (reading : Reading) :
    List Char → List String → Reading × List String
  | [], rest => (reading, rest)
  | letter :: letters, rest =>
      let option := String.ofList ['-', letter]
      match wish.letters.lookup letter with
      | none =>
          wish.readLetters
            (reading.complain ("invalid option -- '" ++ String.singleton letter ++ "'")) letters rest
      | some .nothing => wish.readLetters (reading.add option none) letters rest
      | some .attached => (reading.add option (some (String.ofList letters)), rest)
      | some .text =>
          if !letters.isEmpty then (reading.add option (some (String.ofList letters)), rest)
          else match rest with
            | text :: rest => (reading.add option (some text), rest)
            | [] => (reading.complain
                ("option requires an argument -- '" ++ String.singleton letter ++ "'"), [])

/-- Reads an option by name, which stands behind some minus signs. -/
def Wish.readName (wish : Wish) (reading : Reading) (signs : String) (word : List Char)
    (rest : List String) : Reading × List String :=
  let (name, value) := word.span (· != '=')
  let shown := signs ++ String.ofList name
  let exact := wish.names.filter fun other => other.1.toList = name
  let near := wish.names.filter fun other => name.isPrefixOf other.1.toList
  match if exact.isEmpty then near else exact.take 1 with
  | [] => (reading.complain ("unrecognized option '" ++ shown ++ "'"), rest)
  | [(full, need)] =>
      let option := "--" ++ full
      match need, value with
      | .nothing, [] => (reading.add option none, rest)
      | .nothing, _ =>
          (reading.complain ("option '" ++ "--" ++ full ++ "' doesn't allow an argument"), rest)
      | .attached, value => (reading.add option (some (String.ofList value.tail)), rest)
      | .text, _ :: text => (reading.add option (some (String.ofList text)), rest)
      | .text, [] =>
          match rest with
          | text :: rest => (reading.add option (some text), rest)
          | [] => (reading.complain ("option '--" ++ full ++ "' requires an argument"), [])
  | several =>
      let possible := String.join (several.map fun other => " '--" ++ other.1 ++ "'")
      (reading.complain ("option '" ++ shown ++ "' is ambiguous; possibilities:" ++ possible), rest)

/-- Reads arguments. The bound is on their number. -/
def Wish.read (wish : Wish) : Nat → Reading → List String → Reading
  | 0, reading, _ => reading
  | _ + 1, reading, [] => reading
  | bound + 1, reading, argument :: rest =>
      match argument.toList with
      | ['-', '-'] => { reading with others := rest.reverse ++ reading.others }
      | '-' :: '-' :: word =>
          let (reading, rest) := wish.readName reading "--" word rest
          wish.read bound reading rest
      | '-' :: letter :: letters =>
          let isName := wish.isLoose &&
            wish.names.any fun other => (letter :: letters).isPrefixOf other.1.toList
          let (reading, rest) := if isName then wish.readName reading "-" (letter :: letters) rest
            else wish.readLetters reading (letter :: letters) rest
          wish.read bound reading rest
      | _ =>
          match wish.order with
          | .leading => { reading with others := rest.reverse ++ argument :: reading.others }
          | .kept => wish.read bound { reading with words := (argument, true) :: reading.words } rest
          | .mixed => wish.read bound { reading with others := argument :: reading.others } rest

/-- What has been read as a line that a script can read again. -/
def Wish.line (wish : Wish) (reading : Reading) : String :=
  let shown (text : String) : String :=
    if wish.isQuoted then "'" ++ String.intercalate "'\\''" (text.splitOn "'") ++ "'" else text
  let words := reading.words.reverse.map fun (text, isQuoted) => if isQuoted then shown text else text
  String.join ((words ++ "--" :: reading.others.reverse.map shown).map fun word => " " ++ word)

end Arrangement

open Arrangement (Wish Reading)

/-- The mark of the option of `getopt` that has no letter. -/
def arrangementHelp : Char := Char.ofNat 1

/-- The options of `getopt` itself. -/
def arrangementOptions : List Known :=
  [⟨'a', "alternative", .nothing⟩, ⟨'l', "longoptions", .text⟩, ⟨'l', "long", .text⟩,
    ⟨'n', "name", .text⟩, ⟨'o', "options", .text⟩, ⟨'q', "quiet", .nothing⟩,
    ⟨'Q', "quiet-output", .nothing⟩, ⟨'s', "shell", .text⟩, ⟨'T', "test", .nothing⟩,
    ⟨'u', "unquoted", .nothing⟩, ⟨arrangementHelp, "help", .nothing⟩]

/-- Writes what has been read, and tells what was wrong. -/
def finishArrangement (given : Given) (wish : Wish) (arguments : List String) : Action Nat := do
  let reading := wish.read (arguments.length + 1) { } arguments
  let name := (given.text? 'n').getD (← process).name
  if !given.has 'q' then
    reading.complaints.reverse.forM fun text => do
      let _ ← write 2 (name ++ ": " ++ text ++ "\n")
  if !given.has 'Q' then
    let _ ← answer (wish.line reading ++ "\n")
  pure (if reading.complaints.isEmpty then 0 else 1)

/-- Reads arguments as options, and writes them in order. -/
def runGetopt (arguments : List String) : Action Nat := do
  let isOld := (arguments.head?.bind fun first => first.toList.head?).any (· != '-')
  match arguments with
  | [] => refuseUse 2 "missing optstring argument"
  | letters :: rest =>
      if isOld || letters.isEmpty then
        let wish := ({ isQuoted := false } : Wish).addLetters letters
        finishArrangement { } wish rest
      else match readLeading arrangementOptions arguments with
      | none => refuseUse 2 (optionFault arrangementOptions arguments)
      | some given =>
          if given.has 'T' then pure 4
          else if given.has arrangementHelp then answer "Usage: getopt\n"
          else
            let wish : Wish :=
              { isLoose := given.has 'a'
                isQuoted := !given.has 'u' }
            let wish := (given.texts 'l').foldl Wish.addNames wish
            match given.text? 'o', given.operands with
            | some letters, operands => finishArrangement given (wish.addLetters letters) operands
            | none, letters :: operands =>
                finishArrangement given (wish.addLetters letters) operands
            | none, [] => refuseUse 2 "missing optstring argument"

end StaticMulticast.Host.Utility
