import StaticMulticast.Host.Utility.Date
import StaticMulticast.Host.Utility.Listing
import StaticMulticast.Host.Utility.Start
import StaticMulticast.Text.Regular

/-!
# Finding files

`find` goes through directories and takes the steps of an expression with each file: tests, and
deeds with those files for which the tests before them hold.
-/

namespace StaticMulticast.Host.Utility

open Action
open StaticMulticast.Text (Regular)

/-! ## Steps -/

/-- A number that another one must be, or must be above or below. -/
structure Bound where
  order : Ordering
  number : Nat
deriving DecidableEq, Repr

/-- The bound of a text: a number, with a sign if another one is to be above or below it. -/
def Bound.ofText? (text : List Char) : Option Bound :=
  match text with
  | '+' :: digits => (Text.Decimal.digits? digits).map fun number => ⟨.gt, number⟩
  | '-' :: digits => (Text.Decimal.digits? digits).map fun number => ⟨.lt, number⟩
  | digits => (Text.Decimal.digits? digits).map fun number => ⟨.eq, number⟩

/-- A number keeps to the bound. -/
def Bound.holds (bound : Bound) (number : Nat) : Bool :=
  compare number bound.number = bound.order

/-- A test of a file. -/
inductive FindTest where
  | named (ignoresCase : Bool) (pattern : String)
  | inPath (ignoresCase : Bool) (pattern : String)
  | leadsTo (ignoresCase : Bool) (pattern : String)
  | describes (ignoresCase : Bool) (expression : Regular)
  | kind (letters : List Char) (isOther : Bool)
  | isEmpty
  /-- The size in units of so many octets. -/
  | size (unit : Nat) (bound : Bound)
  /-- The age in units of so many seconds. -/
  | age (unit : Nat) (bound : Bound)
  | newer (path : String)
  | newerThan (time : Int)
  /-- The rights are the given ones, include them all, or include some of them. -/
  | rights (manner : Char) (mode : Nat)
  | owner (number : Nat)
  | group (number : Nat)
  | hasNoOwner
  | hasNoGroup
  | links (bound : Bound)
  | number (bound : Bound)
  | sameAs (path : String)
  | runnable
  | always (answer : Bool)

/-- A deed with a file. What is written goes to a descriptor. -/
inductive FindDeed where
  | print (output : Nat) (ending : String)
  | format (output : Nat) (text : String)
  | list (output : Nat)
  | delete
  | quit
  | prune
  | run (words : List String) (inDirectory asks : Bool)
  /-- Gathers paths for a program that is started once. The lists have numbers. -/
  | gather (number : Nat) (words : List String) (inDirectory : Bool)

/-- An expression of `find`. -/
inductive FindStep where
  | test (test : FindTest)
  | deed (deed : FindDeed)
  | negation (body : FindStep)
  | both (first second : FindStep)
  | either (first second : FindStep)
  /-- Takes both, and the second one counts. -/
  | after (first second : FindStep)

/-- The expression has a deed by which it is told what becomes of files. -/
def FindStep.acts : FindStep → Bool
  | .test _ => false
  | .deed .prune | .deed .quit => false
  | .deed _ => true
  | .negation body => body.acts
  | .both first second | .either first second | .after first second =>
      first.acts || second.acts

/-! ## Reading -/

/-- How deep `find` looks, and how it follows links. -/
structure Depth where
  least : Nat := 0
  most : Option Nat := none
  /-- What is in a directory comes before the directory. -/
  isInner : Bool := false
  follows : Bool := false
  followsFirst : Bool := false

/-- What is left of the words of an expression, and what has been learned from them. -/
structure FindReading where
  words : List String
  depth : Depth := { }
  outputs : List String := []
  gathered : Nat := 0
  manner : Option Regular.Manner := none
  present : Int

/-- A function that reads an expression. -/
abbrev FindReader := StateT FindReading (Except String)

/-- A text in the quotes of messages of `find`. -/
def inOldQuotes (text : String) : String :=
  String.singleton (Char.ofNat 0x60) ++ text ++ "'"

/-- Takes the argument of a word. -/
def findArgument (word : String) : FindReader String := do
  let state ← get
  match state.words with
  | [] => throw ("missing argument to " ++ inOldQuotes word)
  | text :: rest => do
      set { state with words := rest }
      pure text

/-- A number for what is written to a path, the same for the same path. -/
def findOutput (path : String) : FindReader Nat := do
  let state ← get
  match state.outputs.findIdx? (· == path) with
  | some index => pure (100 + index)
  | none => do
      set { state with outputs := state.outputs ++ [path] }
      pure (100 + state.outputs.length)

/-- An expression in which signs for repetition need no backslash in front of them, as one in which
they do. -/
def withRepeatMarks : List Char → List Char
  | [] => []
  | '\\' :: letter :: rest =>
      if letter = '+' || letter = '?' then letter :: withRepeatMarks rest
      else '\\' :: letter :: withRepeatMarks rest
  | letter :: rest =>
      if letter = '+' || letter = '?' then '\\' :: letter :: withRepeatMarks rest
      else letter :: withRepeatMarks rest

/-- The expression of the argument of a word. -/
def findExpression (ignoresCase : Bool) (word : String) : FindReader FindStep := do
  let text ← findArgument word
  let expression := match (← get).manner with
    | some manner => Regular.ofText? manner text
    | none => Regular.ofText? .basic (String.ofList (withRepeatMarks text.toList))
  match expression with
  | some expression => pure (.test (.describes ignoresCase expression))
  | none => throw "Invalid regular expression"

/-- The bound in the argument of a word. -/
def findBound (word : String) : FindReader Bound := do
  let text ← findArgument word
  match Bound.ofText? text.toList with
  | some bound => pure bound
  | none => throw ("invalid argument " ++ inOldQuotes text ++ " to " ++ inOldQuotes word)

/-- The age in the argument of a word. -/
def findAge (unit : Nat) (word : String) : FindReader FindStep := do
  pure (.test (.age unit (← findBound word)))

/-- The words of a program up to the mark of their end, and what follows. They may end with braces
and a plus sign. -/
def programWords (word : String) : List String → List String →
    Except String (List String × Bool × List String)
  | _, [] => throw ("missing argument to " ++ inOldQuotes word)
  | done, ";" :: rest => pure (done.reverse, false, rest)
  | done, next :: rest =>
      if next = "+" && done.head? = some "\x7b\x7d" then pure (done.tail.reverse, true, rest)
      else programWords word (next :: done) rest

/-- Reads the words of a program. -/
def findRun (word : String) (inDirectory asks : Bool) : FindReader FindStep := do
  let state ← get
  let (words, gathers, rest) ← programWords word [] state.words
  if words.isEmpty && !gathers then throw ("missing argument to " ++ inOldQuotes word)
  else if gathers && words.contains "\x7b\x7d" then
    throw ("Only one instance of \x7b\x7d is supported with " ++ word ++ " ... +")
  else do
    set { state with
      words := rest
      gathered := state.gathered + if gathers then 1 else 0 }
    pure (.deed (if gathers then .gather state.gathered words inDirectory
      else .run words inDirectory asks))

/-- The rights in an argument. -/
def findRights (text : String) : Except String FindStep :=
  let (manner, mode) := match text.toList with
    | '-' :: rest => ('-', String.ofList rest)
    | '/' :: rest => ('/', String.ofList rest)
    | _ => ('=', text)
  match Shell.changedMode? mode false 0 with
  | some mode => pure (.test (.rights manner mode))
  | none => throw ("invalid mode " ++ inQuotes text)

/-- The size in an argument. -/
def findSize (text : String) : Except String FindStep :=
  let letters := text.toList
  let (number, unit) := match letters.getLast? with
    | some 'c' => (letters.dropLast, some 1)
    | some 'w' => (letters.dropLast, some 2)
    | some 'b' => (letters.dropLast, some 512)
    | some 'k' => (letters.dropLast, some 0x400)
    | some 'M' => (letters.dropLast, some 0x100000)
    | some 'G' => (letters.dropLast, some 0x40000000)
    | some letter => (letters, if letter.isDigit then some 512 else none)
    | none => (letters, none)
  match unit, Bound.ofText? number with
  | some unit, some bound => pure (.test (.size unit bound))
  | none, _ =>
      throw ("invalid -size type " ++ inOldQuotes (String.ofList (letters.drop
        (letters.length - 1))))
  | some _, none => throw ("Invalid argument " ++ inOldQuotes text ++ " to -size")

/-- A number that a text is, or that it names. -/
def findNumber (named : String → Option Nat) (what text : String) : Except String Nat :=
  match (named text).orElse fun _ => text.toNat? with
  | some number => pure number
  | none => throw (inQuotes text ++ " is not the name of " ++ what)

/-- Reads a test or a deed that begins with a word. -/
def readFindWord (word : String) : FindReader FindStep := do
  let test (test : FindTest) : FindReader FindStep := pure (.test test)
  let always : FindReader FindStep := pure (.test (.always true))
  let change (change : Depth → Depth) : FindReader FindStep := do
    modify fun state => { state with depth := change state.depth }
    pure (.test (.always true))
  match word with
  | "-name" => do test (.named false (← findArgument word))
  | "-iname" => do test (.named true (← findArgument word))
  | "-path" | "-wholename" => do test (.inPath false (← findArgument word))
  | "-ipath" | "-iwholename" => do test (.inPath true (← findArgument word))
  | "-lname" => do test (.leadsTo false (← findArgument word))
  | "-ilname" => do test (.leadsTo true (← findArgument word))
  | "-regex" => findExpression false word
  | "-iregex" => findExpression true word
  | "-regextype" => do
      let name ← findArgument word
      let manner := if ["posix-extended", "posix-egrep", "egrep", "awk", "gnu-awk",
          "posix-awk"].contains name then some { Regular.Manner.extended with isLenient := true }
        else if ["posix-basic", "ed", "sed", "grep", "posix-minimal-basic"].contains name then
          some Regular.Manner.basic
        else none
      modify fun state => { state with manner }
      always
  | "-type" | "-xtype" => do
      let text ← findArgument word
      let letters := (List.splitOnP (· == ',') text.toList).filterMap List.head?
      match letters.find? fun letter => !"bcdpflsD".toList.contains letter with
      | some letter =>
          throw ("Unknown argument to " ++ word ++ ": " ++ String.singleton letter)
      | none => test (.kind letters (word = "-xtype"))
  | "-empty" => test .isEmpty
  | "-size" => do findSize (← findArgument word)
  | "-mtime" | "-ctime" | "-atime" | "-used" => findAge 86400 word
  | "-mmin" | "-cmin" | "-amin" => findAge 60 word
  | "-newer" | "-anewer" | "-cnewer" => do test (.newer (← findArgument word))
  | "-perm" => do findRights (← findArgument word)
  | "-user" => do
      let named (name : String) : Option Nat := (Account.named? name).map Account.number
      test (.owner (← findNumber named "a known user" (← findArgument word)))
  | "-group" => do
      let named (name : String) : Option Nat := groupNumbers.lookup name
      test (.group (← findNumber named "an existing group" (← findArgument word)))
  | "-uid" => do test (.owner (← findBound word).number)
  | "-gid" => do test (.group (← findBound word).number)
  | "-nouser" => test .hasNoOwner
  | "-nogroup" => test .hasNoGroup
  | "-links" => do test (.links (← findBound word))
  | "-inum" => do test (.number (← findBound word))
  | "-samefile" => do test (.sameAs (← findArgument word))
  | "-readable" | "-writable" => always
  | "-executable" => test .runnable
  | "-true" => always
  | "-false" => test (.always false)
  | "-fstype" | "-context" => do
      let _ ← findArgument word
      test (.always false)
  | "-maxdepth" | "-mindepth" => do
      let text ← findArgument word
      match text.toNat? with
      | none => throw ("Expected a positive decimal integer argument to " ++ word ++
          ", but got " ++ inQuotes text)
      | some number =>
          change fun depth => if word = "-maxdepth" then { depth with most := some number }
            else { depth with least := number }
  | "-depth" | "-d" => change fun depth => { depth with isInner := true }
  | "-follow" => change fun depth => { depth with follows := true }
  | "-xdev" | "-mount" | "-noleaf" | "-daystart" | "-warn" | "-nowarn"
  | "-ignore_readdir_race" | "-noignore_readdir_race" => always
  | "-print" => pure (.deed (.print 1 "\n"))
  | "-print0" => pure (.deed (.print 1 "\x00"))
  | "-printf" => do pure (.deed (.format 1 (← findArgument word)))
  | "-fprint" => do pure (.deed (.print (← findOutput (← findArgument word)) "\n"))
  | "-fprint0" => do pure (.deed (.print (← findOutput (← findArgument word)) "\x00"))
  | "-fprintf" => do
      let output ← findOutput (← findArgument word)
      pure (.deed (.format output (← findArgument word)))
  | "-ls" => pure (.deed (.list 1))
  | "-fls" => do pure (.deed (.list (← findOutput (← findArgument word))))
  | "-delete" => do
      modify fun state => { state with depth := { state.depth with isInner := true } }
      pure (.deed .delete)
  | "-quit" => pure (.deed .quit)
  | "-prune" => pure (.deed .prune)
  | "-exec" => findRun word false false
  | "-execdir" => findRun word true false
  | "-ok" => findRun word false true
  | "-okdir" => findRun word true true
  | _ =>
      match word.toList with
      | '-' :: 'n' :: 'e' :: 'w' :: 'e' :: 'r' :: first :: [second] => do
          let text ← findArgument word
          if !"aBcm".toList.contains first then
            throw ("unknown predicate " ++ inOldQuotes word)
          else if second = 't' then
            let present := Text.Calendar.Moment.ofMillionths (← get).present
            match Date.moment? present text with
            | some moment => test (.newerThan (Date.millionths moment))
            | none =>
                throw ("I cannot figure out how to interpret " ++ inQuotes text ++
                  " as a date or time")
          else test (.newer text)
      | '-' :: _ => throw ("unknown predicate " ++ inOldQuotes word)
      | _ => throw ("paths must precede expression: " ++ inOldQuotes word)

mutual

/-- Reads expressions that are taken one after the other, of which the last one counts. -/
def readFindList : Nat → FindReader FindStep
  | 0 => throw "invalid expression"
  | fuel + 1 => do
      let first ← readFindEither fuel
      let state ← get
      match state.words with
      | "," :: rest => do
          set { state with words := rest }
          pure (.after first (← readFindList fuel))
      | _ => pure first

/-- Reads expressions of which one must hold. -/
def readFindEither : Nat → FindReader FindStep
  | 0 => throw "invalid expression"
  | fuel + 1 => do
      let first ← readFindBoth fuel
      readFindOthers fuel first

/-- Reads on after an expression of which another one may hold in its place. -/
def readFindOthers : Nat → FindStep → FindReader FindStep
  | 0, _ => throw "invalid expression"
  | fuel + 1, first => do
      let state ← get
      match state.words with
      | word :: rest =>
          if word = "-o" || word = "-or" then do
            set { state with words := rest }
            let second ← readFindBoth fuel
            readFindOthers fuel (.either first second)
          else pure first
      | [] => pure first

/-- Reads expressions that must all hold. -/
def readFindBoth : Nat → FindReader FindStep
  | 0 => throw "invalid expression"
  | fuel + 1 => do
      let first ← readFindOne fuel
      let state ← get
      match state.words with
      | [] => pure first
      | word :: rest =>
          if ["-o", "-or", ")", ","].contains word then pure first
          else do
            if word = "-a" || word = "-and" then set { state with words := rest }
            pure (.both first (← readFindBoth fuel))

/-- Reads one expression. -/
def readFindOne : Nat → FindReader FindStep
  | 0 => throw "invalid expression"
  | fuel + 1 => do
      let state ← get
      match state.words with
      | [] => throw "invalid expression"
      | "(" :: rest => do
          set { state with words := rest }
          if rest.head? = some ")" then throw "invalid expression; empty parentheses are not allowed."
          else do
            let body ← readFindList fuel
            let state ← get
            match state.words with
            | ")" :: rest => do
                set { state with words := rest }
                pure body
            | _ => throw ("invalid expression; expected to find a ')' but didn't see one. " ++
                "Perhaps you need an extra predicate after '('")
      | ")" :: _ => throw "invalid expression; you have too many ')'"
      | word :: rest => do
          set { state with words := rest }
          if word = "!" || word = "-not" then do pure (.negation (← readFindOne fuel))
          else if ["-o", "-or", "-a", "-and", ","].contains word then
            throw ("invalid expression; you have used a binary operator '" ++ word ++
              "' with nothing before it.")
          else readFindWord word

end

/-! ## Going through files -/

/-- What has been found out on the way: paths for programs that are started once, whether the way
goes on below the current file and at all, and the status. -/
structure Findings where
  gathered : List (Nat × List String) := []
  isPruned : Bool := false
  isOver : Bool := false
  status : Nat := 0

/-- What goes through files. -/
abbrev Finder := StateT Findings Action

/-- What is known about the file that steps are taken with. -/
structure FindPlace where
  run : List String → Action Nat
  present : Int
  /-- The path from which the way has begun. -/
  start : String
  path : String
  level : Nat
  found : Found
  follows : Bool

/-- The pattern describes a text. -/
def patternHolds (ignoresCase : Bool) (pattern text : String) : Bool :=
  let expression := Text.Pattern.ofText pattern
  if ignoresCase then Text.Pattern.holdsFolded expression text.toList
  else Text.Pattern.holds expression text.toList

/-- The letter of the kind of a file. -/
def findKind (found : Found) : Char :=
  let letter := kindLetter found
  if letter = '-' then 'f' else letter

/-- A test holds for a file. -/
def FindTest.holds (place : FindPlace) : FindTest → Action Bool
  | .named ignoresCase pattern => pure (patternHolds ignoresCase pattern (lastName place.path))
  | .inPath ignoresCase pattern => pure (patternHolds ignoresCase pattern place.path)
  | .leadsTo ignoresCase pattern =>
      pure (match place.found.entry with
        | .link target => patternHolds ignoresCase pattern (Text.Octets.encode target)
        | _ => false)
  | .describes ignoresCase expression =>
      let text := place.path.toList
      let accepts (start stop : Nat) : Bool := start = 0 && stop = text.length
      pure (Regular.search expression { ignoresCase, accepts, text } 0).isSome
  | .kind letters isOther => do
      if !isOther then pure (letters.contains (findKind place.found))
      else
        let other ← find? (!place.follows) place.path
        pure (letters.contains (findKind (other.getD place.found)))
  | .isEmpty => do
      if place.found.isDirectory then pure ((← files).names place.found.location).isEmpty
      else pure (place.found.isPlain && place.found.size = 0)
  | .size unit bound => pure (bound.holds ((place.found.size + unit - 1) / unit))
  | .age unit bound =>
      let age := place.present - place.found.time
      let span := Int.ofNat (1000000 * unit * bound.number)
      let own := Int.ofNat (1000000 * unit)
      let behind := if unit = 60 then 0 else own
      pure (match bound.order with
        | .gt => decide (span + behind < age)
        | .lt => decide (age < span + (if unit = 60 then 0 else 1000000))
        | .eq => decide (age < span + behind) && decide (span + behind - own ≤ age))
  | .newer path => do
      let other ← find? true path
      pure (other.any fun other => other.time < place.found.time)
  | .newerThan time => pure (time < place.found.time)
  | .rights manner mode =>
      let own := place.found.mode
      pure (match manner with
        | '-' => own &&& mode = mode
        | '/' => mode = 0 || own &&& mode != 0
        | _ => own = mode)
  | .owner wanted => pure (ownerOf place.found = wanted)
  | .group wanted => pure (groupOf place.found = wanted)
  | .hasNoOwner => pure (Account.all.all fun account => account.number != ownerOf place.found)
  | .hasNoGroup => pure (groupNumbers.all fun group => group.2 != groupOf place.found)
  | .links bound => do pure (bound.holds (← linkCount place.found))
  | .number bound => do pure (bound.holds (← fileNumber place.found))
  | .sameAs path => do
      let other ← find? true path
      pure (match other with
        | some other => other.location = place.found.location ||
            (other.entry.node?.isSome && other.entry.node? = place.found.entry.node?)
        | none => false)
  | .runnable => pure place.found.isRunnable
  | .always answer => pure answer

/-- A time in a format, by the letter of a directive. -/
def findTime (time : Int) (letter : Char) : String :=
  let moment := Text.Calendar.Moment.ofMillionths time
  let digits := toString (time % 1000000)
  let fraction := "." ++ String.ofList (List.replicate (6 - digits.length) '0') ++ digits ++ "0000"
  let format (text : String) : String := Text.Calendar.format moment text
  match letter with
  | '@' => toString (Int.fdiv time 1000000) ++ fraction
  | 'S' => format "%S" ++ fraction
  | 'T' | 'X' => format "%H:%M:%S" ++ fraction
  | '+' => format "%Y-%m-%d+%H:%M:%S" ++ fraction
  | _ => format (String.ofList ['%', letter])

/-- What is known about a file, by the letter of a directive. -/
def findPart (place : FindPlace) (letter : Char) : Action (Option String) := do
  let found := place.found
  let below := place.path.toList.drop place.start.length
  let below := below.dropWhile (· == '/')
  let fullTime :=
    findTime found.time 'a' ++ " " ++ findTime found.time 'b' ++ " " ++ findTime found.time 'e' ++
      " " ++ findTime found.time 'T' ++ " " ++ findTime found.time 'Y'
  match letter with
  | 'p' => pure (some place.path)
  | 'f' => pure (some (lastName place.path))
  | 'h' =>
      let reversed := place.path.toList.reverse.dropWhile (· == '/')
      let above := (reversed.dropWhile (· != '/')).tail
      pure (some (if reversed.contains '/' then String.ofList above.reverse else "."))
  | 'P' => pure (some (String.ofList below))
  | 'H' => pure (some place.start)
  | 'd' => pure (some (toString place.level))
  | 's' => pure (some (toString found.size))
  | 'k' => pure (some (toString (blockCount found)))
  | 'b' => pure (some (toString (2 * blockCount found)))
  | 'm' => pure (some (String.ofList (Nat.toDigits 8 found.mode)))
  | 'M' => pure (some (rightsText found))
  | 'u' => pure (some (Account.nameOf (ownerOf found)))
  | 'g' => pure (some (groupName (groupOf found)))
  | 'U' => pure (some (toString (ownerOf found)))
  | 'G' => pure (some (toString (groupOf found)))
  | 'y' => pure (some (String.singleton (findKind found)))
  | 'Y' => do
      let other ← find? true place.path
      pure (some (match other with
        | some other => String.singleton (findKind other)
        | none => "N"))
  | 'l' => pure (some (match found.entry with
      | .link target => Text.Octets.encode target
      | _ => ""))
  | 'n' => do pure (some (toString (← linkCount found)))
  | 'i' => do pure (some (toString (← fileNumber found)))
  | 'D' => pure (some "50")
  | 'F' => pure (some "overlay")
  | 'S' => pure (some "1")
  | 't' | 'a' | 'c' => pure (some fullTime)
  | _ => pure none

/-- The text of a format about a file, and whether it is cut off. The bound is on its length. -/
def expandFind (place : FindPlace) : Nat → List Char → Action (List Char)
  | 0, _ => pure []
  | _ + 1, [] => pure []
  | bound + 1, '\\' :: 'c' :: _ => do
      let _ ← pure bound
      pure []
  | bound + 1, '\\' :: rest => do
      let (meant, rest) := replaceEscape .program .format rest
      pure (meant ++ (← expandFind place bound rest))
  | bound + 1, '%' :: '%' :: rest => do pure ('%' :: (← expandFind place bound rest))
  | bound + 1, '%' :: rest => do
      let (flags, rest) := rest.span ['-', '+', '#', '0', ' '].contains
      let (width, rest) := rest.span Char.isDigit
      let (precision, rest) := match rest with
        | '.' :: rest =>
            let (digits, rest) := rest.span Char.isDigit
            (some ((Text.Decimal.digits? digits).getD 0), rest)
        | _ => (none, rest)
      match rest with
      | [] => pure ['%']
      | letter :: rest => do
          let isTime := letter = 'T' || letter = 'A' || letter = 'C' || letter = 'B'
          let (text, rest) ← match isTime, rest with
            | true, kind :: rest => pure (some (findTime place.found.time kind), rest)
            | _, _ => do pure (← findPart place letter, rest)
          match text with
          | some text =>
              let text := match precision with
                | some precision => String.ofList (text.toList.take precision)
                | none => text
              let isNumber := letter = 'd' || letter = 'm'
              let shown := padTo flags ((Text.Decimal.digits? width).getD 0) isNumber text
              pure (shown.toList ++ (← expandFind place bound rest))
          | none => do
              complain ("warning: unrecognized format directive " ++
                inOldQuotes (String.ofList ['%', letter]))
              pure ('%' :: letter :: (← expandFind place bound rest))
  | bound + 1, letter :: rest => do pure (letter :: (← expandFind place bound rest))

/-- The line about a file in a long list. -/
def findLine (place : FindPlace) : Action String := do
  let found := place.found
  let style : ListStyle := ⟨{ }, 'l', 'n', place.present, none⟩
  let right (width : Nat) (text : String) : String := padTo [] width false text
  let left (width : Nat) (text : String) : String := padTo ['-'] width false text
  let (major, minor) := deviceNumbers found
  let size := if kindLetter found = 'c' then toString major ++ ", " ++ right 3 (toString minor)
    else toString found.size
  let target := match found.entry with
    | .link target => " -> " ++ Text.Octets.encode target
    | _ => ""
  pure (right 9 (toString (← fileNumber found)) ++ " " ++ right 6 (toString (blockCount found)) ++
    " " ++ rightsText found ++ " " ++ right 3 (toString (← linkCount found)) ++ " " ++
    left 8 (Account.nameOf (ownerOf found)) ++ " " ++ left 8 (groupName (groupOf found)) ++ " " ++
    right 8 size ++ " " ++ style.timeText found.time ++ " " ++ place.path ++ target)

/-- The path of a file as it is seen from its directory, and that directory. -/
def fromDirectory (path : String) : String × String :=
  let reversed := path.toList.reverse.dropWhile (· == '/')
  let (name, above) := reversed.span (· != '/')
  let directory := if above.isEmpty then "." else String.ofList (above.dropWhile (· == '/')).reverse
  ("./" ++ String.ofList name.reverse, if directory.isEmpty then "/" else directory)

/-- Does something in another directory. -/
def inDirectoryOf {Result : Type} (path : String) (body : Action Result) : Action Result := do
  let before := (← process).working
  match ← find? true path with
  | some found => modifyProcess fun process => { process with working := found.location }
  | none => pure ()
  let result ← body
  modifyProcess fun process => { process with working := before }
  pure result

/-- Asks whether a program is to be run. -/
def isGranted (words : List String) (path : String) : Action Bool := do
  let _ ← write 2 ("< " ++ words.headD "" ++ " ... " ++ path ++ " > ? ")
  match ← readLine 0 0x0A with
  | .ok (first :: _) => pure (first = 0x79 || first = 0x59)
  | _ => pure false

/-- Does a deed with a file, and tells whether it went well. -/
def FindDeed.take (place : FindPlace) : FindDeed → Finder Bool
  | .print output ending => do
      let _ ← write output (place.path ++ ending)
      pure true
  | .format output text => do
      let letters ← expandFind place (2 * text.length + 1) text.toList
      let _ ← write output (String.ofList letters)
      pure true
  | .list output => do
      let _ ← write output ((← findLine place) ++ "\n")
      pure true
  | .delete => do
      if place.path = "." then pure true
      else
        let isFull := place.found.isDirectory &&
          !((← Action.files).names place.found.location).isEmpty
        if isFull then do
          complain ("cannot delete " ++ inQuotes place.path ++ ": Directory not empty")
          modify fun state => { state with status := 1 }
          pure false
        else do
          modifyFiles fun files => files.prune place.found.location
          pure true
  | .quit => do
      modify fun state => { state with isOver := true }
      pure true
  | .prune => do
      modify fun state => { state with isPruned := true }
      pure true
  | .run words inDirectory asks => do
      let (name, directory) := fromDirectory place.path
      let path := if inDirectory then name else place.path
      let words := words.map fun word => String.intercalate path (word.splitOn "\x7b\x7d")
      let isWanted ← if asks then (isGranted words place.path : Action Bool) else pure true
      if !isWanted then pure false
      else
        let status ← if inDirectory then (inDirectoryOf directory (place.run words) : Action Nat)
          else (place.run words : Action Nat)
        pure (status = 0)
  | .gather number words inDirectory => do
      if inDirectory then
        let (name, directory) := fromDirectory place.path
        let status ← (inDirectoryOf directory (place.run (words ++ [name])) : Action Nat)
        if status != 0 then modify fun state => { state with status := 1 }
      else
        modify fun state =>
          let own := (state.gathered.lookup number).getD []
          { state with
            gathered := (number, own ++ [place.path]) ::
              state.gathered.filter fun other => other.1 != number }
      pure true

/-- Takes an expression with a file, and tells whether it holds. -/
def FindStep.take (place : FindPlace) : FindStep → Finder Bool
  | .test asked => asked.holds place
  | .deed wanted => wanted.take place
  | .negation body => do pure !(← body.take place)
  | .both first second => do
      if (← first.take place) && !(← get).isOver then second.take place else pure false
  | .either first second => do
      if (← first.take place) || (← get).isOver then pure true else second.take place
  | .after first second => do
      let _ ← first.take place
      if (← get).isOver then pure false else second.take place

/-- Takes an expression with what is at a path and below it. The bound is on the depth. -/
def findBelow (place : FindPlace) (depth : Depth) (step : FindStep) : Nat → Finder Unit
  | 0 => pure ()
  | bound + 1 => do
      if (← get).isOver then pure ()
      else do
        let visit : Finder Unit := do
          if depth.least ≤ place.level && !(← get).isOver then
            let _ ← step.take place
        let inside : Finder Unit := do
          if place.found.isDirectory && depth.most.all (place.level < ·) then
            let names := ((← Action.files).names place.found.location).map Text.Octets.encode
            (Shell.sortTexts names).forM fun name => do
              let path := joinPath place.path name
              let own ← (find? false path : Action (Option Found))
              let target ← if depth.follows then (find? true path : Action (Option Found))
                else pure none
              match target.orElse fun _ => own with
              | some found =>
                  let inner := { place with path, level := place.level + 1, found }
                  findBelow inner depth step bound
              | none => pure ()
        modify fun state => { state with isPruned := false }
        if depth.isInner then do
          inside
          visit
        else do
          visit
          let isPruned := (← get).isPruned
          modify fun state => { state with isPruned := false }
          if !isPruned then inside

/-! ## The program -/

/-- The programs that are started once at the end, with the words in front of their paths. -/
def gatherings : FindStep → List (Nat × List String)
  | .test _ => []
  | .deed (.gather number words false) => [(number, words)]
  | .deed _ => []
  | .negation body => gatherings body
  | .both first second | .either first second | .after first second =>
      gatherings first ++ gatherings second

/-- The files to which others are compared. -/
def references : FindStep → List String
  | .test (.newer path) | .test (.sameAs path) => [path]
  | .test _ | .deed _ => []
  | .negation body => references body
  | .both first second | .either first second | .after first second =>
      references first ++ references second

/-- Opens the files that are written to. -/
def openOutputs : Nat → List String → Action Unit
  | _, [] => pure ()
  | number, path :: rest => do
      match ← openPath path .writing with
      | .ok file => setDescriptor number (some file)
      | .error fault => report path fault
      openOutputs (number + 1) rest

/-- Goes through files from paths on. -/
def findAll (run : List String → Action Nat) (reading : FindReading) (step : FindStep)
    (paths : List String) : Finder Unit :=
  paths.forM fun path => do
    let depth := reading.depth
    let own ← (find? false path : Action (Option Found))
    let target ← (find? true path : Action (Option Found))
    let found := if depth.follows || depth.followsFirst then target.orElse fun _ => own else own
    match found with
    | none => do
        match ← (Utility.place false path : Action (Except Fault Location)) with
        | .error fault => complain (inQuotes path ++ ": " ++ fault.reason)
        | .ok _ => complain (inQuotes path ++ ": " ++ Fault.missing.reason)
        modify fun state => { state with status := 1 }
    | some found =>
        findBelow ⟨run, reading.present, path, path, 0, found, depth.follows⟩ depth step 66

/-- Looks for files. -/
def runFind (again : Runner) (arguments : List String) : Action Nat := do
  let run (words : List String) : Action Nat := do
    match ← startChild again words with
    | .ok status => pure (statusOf status)
    | .error fault => do
        reportQuoted (words.headD "") fault
        pure 1
  let isFirst (argument : String) : Bool :=
    ["-L", "-H", "-P", "-O1", "-O2", "-O3"].contains argument
  let (first, arguments) := arguments.span isFirst
  let isWord (word : String) : Bool :=
    ["(", "!", ")", ","].contains word || (word.toList.head? = some '-' && word != "-")
  let (paths, words) := arguments.span fun word => !isWord word
  let paths := if paths.isEmpty then ["."] else paths
  let last := (first.filter fun option => option.length = 2).getLast?
  let depth : Depth := { follows := last = some "-L", followsFirst := last = some "-H" }
  let present ← now
  let start : FindReading := { words, depth, present }
  let parsed := if words.isEmpty then .ok (FindStep.deed (.print 1 "\n"), start)
    else (readFindList (8 * words.length + 8)).run start
  match parsed with
  | .error message => refuse 1 message
  | .ok (step, reading) =>
      match reading.words with
      | word :: _ =>
          refuse 1 (if word = ")" then "invalid expression; you have too many ')'"
            else "paths must precede expression: " ++ inOldQuotes word)
      | [] => do
          let missing ← (references step).filterM fun path => do
            pure (← find? true path).isNone
          match missing with
          | path :: _ => refuse 1 (inQuotes path ++ ": " ++ Fault.missing.reason)
          | [] => do
              openOutputs 100 reading.outputs
              let step := if step.acts then step else .both step (.deed (.print 1 "\n"))
              let (_, findings) ← (findAll run reading step paths).run { }
              let statuses ← (gatherings step).mapM fun (number, words) =>
                match findings.gathered.lookup number with
                | some paths => run (words ++ paths)
                | none => pure 0
              pure (max findings.status (if statuses.any (· != 0) then 1 else 0))

end StaticMulticast.Host.Utility
