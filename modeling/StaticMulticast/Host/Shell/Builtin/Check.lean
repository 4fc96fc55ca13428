import StaticMulticast.Host.Process.Task
import StaticMulticast.Host.Shell.Expansion
import StaticMulticast.Text.Decimal

/-!
# The command `test`

What a check of one or two words comes to, and how arguments make up checks.
-/

/-!
## Answers about texts, numbers and files

What a single check comes to: about one word, or about two. The shells and the program `test` know
different operators.
-/

namespace StaticMulticast.Host.Shell

open Action

/-- Who does a check: a shell of the plain or the extended language, or a program. -/
inductive Checking where
  | plain
  | extended
  | program
deriving DecidableEq, Repr

/-- Why there is no answer to a check. -/
inductive CheckFault where
  | noNumber (word : String)
  /-- An operator with one argument should have been there. -/
  | noUnary (word : String)
  /-- An operator between two arguments should have been there. -/
  | noBinary (word : String)
  /-- An argument should have followed. -/
  | noArgument (word : String)
  /-- Words are left over behind one that has been used, from another one on. -/
  | unexpected (used word : String)
  /-- A closing parenthesis should have followed. -/
  | noClosing (found : Option String)
  | noBracket

/-- What is told about a check without an answer. -/
def CheckFault.message (checking : Checking) (fault : CheckFault) : String :=
  match checking, fault with
  | .plain, .noNumber word => "Illegal number: " ++ word
  | .plain, .noUnary word | .plain, .noBinary word | .plain, .unexpected word _ =>
      word ++ ": unexpected operator"
  | .plain, .noArgument word => word ++ ": argument expected"
  | .plain, .noClosing _ => "closing paren expected"
  | .plain, .noBracket => "missing ]"
  | .extended, .noNumber word => word ++ ": integer expression expected"
  | .extended, .noUnary word => word ++ ": unary operator expected"
  | .extended, .noBinary word => word ++ ": binary operator expected"
  | .extended, .noArgument _ => "argument expected"
  | .extended, .unexpected _ word =>
      if word.toList.head? = some '-' then "syntax error: " ++ inOldQuotes word ++ " unexpected"
      else "too many arguments"
  | .extended, .noClosing found =>
      inOldQuotes ")" ++ " expected" ++ (match found with
        | some word => ", found " ++ word
        | none => "")
  | .extended, .noBracket => "missing " ++ inOldQuotes "]"
  | .program, .noNumber word => "invalid integer '" ++ word ++ "'"
  | .program, .noUnary word => "'" ++ word ++ "': unary operator expected"
  | .program, .noBinary word => "'" ++ word ++ "': binary operator expected"
  | .program, .noArgument word => "missing argument after '" ++ word ++ "'"
  | .program, .unexpected _ word => "extra argument '" ++ word ++ "'"
  | .program, .noClosing found =>
      "')' expected" ++ (match found with
        | some word => ", found '" ++ word ++ "'"
        | none => "")
  | .program, .noBracket => "missing ']'"

/-- The number that an argument of a check is. A program knows numbers of any size. -/
def integer (checking : Checking) (argument : String) : Except CheckFault Int :=
  let text := Text.Decimal.withoutBlanks argument.toList
  let number := if checking != .program then Text.Decimal.signed64? text
    else match text with
    | '-' :: digits => (Text.Decimal.digits? digits).map fun number => -Int.ofNat number
    | '+' :: digits => (Text.Decimal.digits? digits).map Int.ofNat
    | digits => (Text.Decimal.digits? digits).map Int.ofNat
  match number with
  | some number => .ok number
  | none => .error (.noNumber argument)

/-! ## Operators -/

/-- The operators with one argument that all know. -/
def unaryOperators : List String :=
  ["-n", "-z", "-e", "-f", "-d", "-r", "-w", "-x", "-s", "-h", "-L", "-c", "-b", "-p", "-S", "-u",
    "-g", "-k", "-O", "-G", "-t"]

/-- It is an operator with one argument. -/
def isUnary (checking : Checking) (word : String) : Bool :=
  unaryOperators.contains word || match checking with
    | .plain => false
    | .extended => ["-a", "-v", "-o", "-N", "-R"].contains word
    | .program => word = "-N"

/-- The operators that compare numbers. -/
def numberOperators : List String := ["-eq", "-ne", "-lt", "-le", "-gt", "-ge"]

/-- It is an operator between two arguments. -/
def isBinary (checking : Checking) (word : String) : Bool :=
  ["=", "!=", "-nt", "-ot", "-ef"].contains word || numberOperators.contains word ||
    match checking with
    | .plain => ["<", ">"].contains word
    | .extended => ["<", ">", "=="].contains word
    | .program => word = "=="

/-! ## Answers -/

/-- A variable, or a member of a list, has a value. -/
def hasValue (target : String) : Action Bool := do
  let (name, subscript) := target.toList.span (· != '[')
  match subscript with
  | [] => do pure (← parameter? target).isSome
  | _ :: inside => do
      let place := String.ofList inside.dropLast
      let value := ((← binding? (String.ofList name)).map Binding.value).getD .absent
      match value with
      | .table members => pure (members.any fun member => member.1 = place)
      | value => do
          if place = "@" || place = "*" then pure (!value.places.isEmpty)
          else do
            let number ← Expansion.placeOf place
            let number := if number < 0 then number + Value.nextPlace value.members else number
            pure (value.places.contains (toString number))

/-- The answer about one argument, if there is one. -/
def checkOne (checking : Checking) (operator argument : String) :
    Action (Except CheckFault Bool) := do
  match operator with
  | "-n" => pure (.ok (!argument.isEmpty))
  | "-z" => pure (.ok argument.isEmpty)
  | "-t" =>
      pure (if checking = .extended then .ok false else (integer checking argument).map fun _ => false)
  | "-o" => do pure (.ok ((← process).options.isOn argument))
  | "-v" => do pure (.ok (← hasValue argument))
  | "-R" => do
      pure (.ok ((← ownBinding? argument).any fun binding =>
        binding.isReference && binding.value.text?.isSome))
  | "-h" | "-L" => do pure (.ok ((← find? false argument).any Found.isLink))
  | _ => do
      match ← find? true argument with
      | none => pure (.ok false)
      | some found =>
          pure (.ok (match operator with
            | "-a" | "-e" | "-r" | "-w" | "-O" | "-G" => true
            | "-d" => found.isDirectory
            | "-f" => found.isPlain
            | "-s" => found.hasContent
            | "-x" => found.isRunnable
            | "-c" => found.isDevice
            | "-p" => found.isQueue
            | "-u" => found.mode &&& 0x800 != 0
            | "-g" => found.mode &&& 0x400 != 0
            | "-k" => found.mode &&& 0x200 != 0
            | _ => false))

/-- The answer to a comparison of numbers. -/
def compareNumbers (operator : String) (first second : Int) : Bool :=
  match operator with
  | "-eq" => first = second
  | "-ne" => first ≠ second
  | "-lt" => first < second
  | "-le" => first ≤ second
  | "-gt" => first > second
  | _ => first ≥ second

/-- Two paths lead to the same file. -/
def areSame (first second : Found) : Bool :=
  first.location = second.location || match first.entry, second.entry with
    | .file one, .file other => one = other
    | _, _ => false

/-- The first of two files is newer. One that is missing is older than any other, unless the plain
language is used, where nothing is newer than it. -/
def isNewer (checking : Checking) (one other : Option Found) : Bool :=
  match one, other with
  | some one, some other => other.time < one.time
  | some _, none => checking ≠ .plain
  | none, _ => false

/-- The answer to a comparison, if there is one. -/
def checkTwo (checking : Checking) (first operator second : String) :
    Action (Except CheckFault Bool) := do
  if numberOperators.contains operator then
    pure do
      let first ← integer checking first
      let second ← integer checking second
      .ok (compareNumbers operator first second)
  else do
    let one ← find? true first
    let other ← find? true second
    pure (.ok (match operator with
      | "=" | "==" => first = second
      | "!=" => first ≠ second
      | "<" => first < second
      | ">" => second < first
      | "-nt" => isNewer checking one other
      | "-ot" => isNewer checking other one
      | _ => match one, other with
        | some one, some other => areSame one other
        | _, _ => false))

end StaticMulticast.Host.Shell

/-!
## Checks

What the command `test` answers to its arguments. Its other name is an opening bracket, and a
closing one must then stand last. A word is an operator or not depending on the words around it: the
plain language looks at the next two words, the others at the number of words first.
-/

namespace StaticMulticast.Host.Shell

open Action

/-- A way to check words: the answer, and the words after it. There is no answer if the words are
no expression. -/
abbrev Checker := Action (Except CheckFault (Bool × List String))

/-- The opposite answer. -/
def opposite (result : Except CheckFault (Bool × List String)) :
    Except CheckFault (Bool × List String) :=
  result.map fun (answer, rest) => (!answer, rest)

/-- The answer to two checks that have been joined. -/
def withFirst (join : Bool → Bool → Bool) (first : Bool)
    (result : Except CheckFault (Bool × List String)) : Except CheckFault (Bool × List String) :=
  result.map fun (second, rest) => (join first second, rest)

/-- Checks one word with an operator, before further words. -/
def checkOneBefore (checking : Checking) (operator argument : String) (rest : List String) :
    Checker := do
  pure ((← checkOne checking operator argument).map fun answer => (answer, rest))

/-- Checks two words with an operator, before further words. -/
def checkTwoBefore (checking : Checking) (first operator second : String) (rest : List String) :
    Checker := do
  pure ((← checkTwo checking first operator second).map fun answer => (answer, rest))

/-- The answer to words as an expression, all of which must belong to it. -/
def wholeAnswer (words : List String) :
    Except CheckFault (Bool × List String) → Except CheckFault Bool
  | .error fault => .error fault
  | .ok (answer, []) => .ok answer
  | .ok (_, word :: rest) =>
      .error (.unexpected ((words.take (words.length - rest.length - 1)).getLast?.getD "") word)

/-- No answer, since the bound on the steps has been met. -/
def noAnswer : Checker := pure (.error (.noArgument ""))

/-! ## The plain language -/

/-- An operator with one argument is only a text, because of the words after it. -/
def isOperand : List String → Bool
  | [] => true
  | [_] => false
  | operator :: _ :: _ => isBinary .plain operator

/-- The words go on with a comparison. -/
def comparisonFollows : List String → Bool
  | operator :: _ => isBinary .plain operator
  | [] => false

mutual

/-- Checks words joined by `-o`. -/
def plainSome : Nat → List String → Checker
  | 0, _ => noAnswer
  | fuel + 1, words => do
      match ← plainEvery fuel words with
      | .ok (first, "-o" :: rest) => do pure (withFirst or first (← plainSome fuel rest))
      | result => pure result

/-- Checks words joined by `-a`. -/
def plainEvery : Nat → List String → Checker
  | 0, _ => noAnswer
  | fuel + 1, words => do
      match ← plainNegated fuel words with
      | .ok (first, "-a" :: rest) => do pure (withFirst and first (← plainEvery fuel rest))
      | result => pure result

/-- Checks words after exclamation marks. -/
def plainNegated : Nat → List String → Checker
  | 0, _ => noAnswer
  | fuel + 1, words => do
      match words with
      | "!" :: rest => opposite <$> plainNegated fuel rest
      | _ => plainPrimary fuel words

/-- Checks a text, a comparison, an operator with its argument, or words in parentheses. -/
def plainPrimary : Nat → List String → Checker
  | 0, _ => noAnswer
  | fuel + 1, words => do
      match words with
      | [] => pure (.ok (false, []))
      | first :: rest =>
          if first = "(" && !rest.isEmpty && !comparisonFollows rest then
            match rest with
            | ")" :: rest => pure (.ok (false, rest))
            | _ => do
                match ← plainSome fuel rest with
                | .ok (answer, ")" :: rest) => pure (.ok (answer, rest))
                | .ok (_, rest) => pure (.error (.noClosing rest.head?))
                | .error fault => pure (.error fault)
          else if isUnary .plain first && !isOperand rest then
            match rest with
            | argument :: rest => checkOneBefore .plain first argument rest
            | [] => pure (.error (.noArgument first))
          else match rest with
          | operator :: second :: after =>
              if isBinary .plain operator then checkTwoBefore .plain first operator second after
              else pure (.ok (!first.isEmpty, rest))
          | [operator] =>
              if isBinary .plain operator then pure (.error (.noArgument operator))
              else pure (.ok (!first.isEmpty, rest))
          | [] => pure (.ok (!first.isEmpty, rest))

end

/-- The answer to words as an expression, all of which must belong to it. -/
def plainWhole (words : List String) : Action (Except CheckFault Bool) := do
  pure (wholeAnswer words (← plainSome (4 * words.length + 8) words))

/-- The answer to a check in the plain language. Three or four arguments are looked at as a whole
first. -/
def checkPlain : List String → Action (Except CheckFault Bool)
  | [] => pure (.ok false)
  | first :: rest => do
      let isShort := rest.length = 2 || rest.length = 3
      match rest with
      | [operator, second] =>
          if isBinary .plain operator then checkTwo .plain first operator second
          else if first = "(" && second = ")" then plainWhole [operator]
          else if first = "!" then do pure ((← checkPlain rest).map not)
          else plainWhole (first :: rest)
      | _ =>
          if isShort && first = "(" && rest.getLast? = some ")" then plainWhole rest.dropLast
          else if isShort && first = "!" then do pure ((← checkPlain rest).map not)
          else plainWhole (first :: rest)

/-! ## Checks by the number of words -/

/-- Checks one word. -/
def countedOne : List String → Checker
  | word :: rest => pure (.ok (!word.isEmpty, rest))
  | [] => noAnswer

/-- Checks two words. -/
def countedTwo (checking : Checking) : List String → Checker
  | first :: second :: rest =>
      let isLetter := first.length = 2 && first.toList.head? = some '-'
      if first = "!" then pure (.ok (second.isEmpty, rest))
      else if isUnary checking first then checkOneBefore checking first second rest
      else if checking = .program && !isLetter then pure (.error (.noArgument second))
      else pure (.error (.noUnary first))
  | _ => noAnswer

/-- The number of words up to a closing parenthesis, as a program counts them. If there are more
than four, it is that of all words. -/
def countToClosing (words : List String) : Nat :=
  let count := ((words.drop 1).takeWhile (· != ")")).length + 1
  if 4 < count then words.length else count

mutual

/-- Checks three words. -/
def countedThree (checking : Checking) : Nat → List String → Checker
  | 0, _ => noAnswer
  | fuel + 1, words => do
      match words with
      | first :: operator :: second :: rest =>
          let isJoint := operator = "-a" || operator = "-o"
          if isBinary checking operator then checkTwoBefore checking first operator second rest
          else if isJoint && checking = .extended then
            let join := if operator = "-a" then and else or
            pure (.ok (join (!first.isEmpty) (!second.isEmpty), rest))
          else if first = "!" then opposite <$> countedTwo checking (operator :: second :: rest)
          else if first = "(" && second = ")" then pure (.ok (!operator.isEmpty, rest))
          else if isJoint then countedSome checking "" fuel words
          else pure (.error (.noBinary operator))
      | _ => noAnswer

/-- Checks so many words. -/
def countedWords (checking : Checking) : Nat → Nat → List String → Checker
  | 0, _, _ => noAnswer
  | fuel + 1, count, words => do
      match count, words with
      | 1, _ => countedOne words
      | 2, _ => countedTwo checking words
      | 3, _ => countedThree checking fuel words
      | 4, "!" :: rest => opposite <$> countedThree checking fuel rest
      | 4, "(" :: first :: second :: ")" :: rest => do
          pure ((← countedTwo checking [first, second]).map fun (answer, _) => (answer, rest))
      | _, _ => countedSome checking "(" fuel words

/-- Checks words joined by `-o`. It is told the word in front. -/
def countedSome (checking : Checking) (before : String) : Nat → List String → Checker
  | 0, _ => noAnswer
  | fuel + 1, words => do
      match ← countedEvery checking before fuel words with
      | .ok (first, "-o" :: rest) => do
          pure (withFirst or first (← countedSome checking "-o" fuel rest))
      | result => pure result

/-- Checks words joined by `-a`. It is told the word in front. -/
def countedEvery (checking : Checking) (before : String) : Nat → List String → Checker
  | 0, _ => noAnswer
  | fuel + 1, words => do
      match ← countedTerm checking before fuel words with
      | .ok (first, "-a" :: rest) => do
          pure (withFirst and first (← countedEvery checking "-a" fuel rest))
      | result => pure result

/-- Checks a text, a comparison, an operator with its argument, or words in parentheses. It is told the
word in front. -/
def countedTerm (checking : Checking) (before : String) : Nat → List String → Checker
  | 0, _ => noAnswer
  | fuel + 1, words => do
      match words with
      | [] => pure (.error (.noArgument before))
      | "!" :: rest => opposite <$> countedTerm checking "!" fuel rest
      | "(" :: rest => do
          let count := if checking = .program then countToClosing rest else 0
          let result ← if rest.isEmpty then pure (.error (.noArgument "("))
            else countedWords checking fuel count rest
          match result with
          | .ok (answer, ")" :: rest) => pure (.ok (answer, rest))
          | .ok (_, rest) => pure (.error (.noClosing rest.head?))
          | .error fault => pure (.error fault)
      | first :: rest =>
          let isLetter := checking = .program && first.length = 2 && first.toList.head? = some '-'
          let isComparison := match rest with
            | operator :: _ :: _ => isBinary checking operator
            | _ => false
          match isComparison, rest with
          | true, operator :: second :: after =>
              checkTwoBefore checking first operator second after
          | _, argument :: after =>
              if isUnary checking first then checkOneBefore checking first argument after
              else if isLetter then pure (.error (.noUnary first))
              else pure (.ok (!first.isEmpty, rest))
          | _, [] =>
              if isLetter then
                pure (.error (if isUnary checking first then .noArgument first else .noUnary first))
              else pure (.ok (!first.isEmpty, rest))

end

/-- The answer to a check that depends on the number of words. -/
def checkCounted (checking : Checking) (words : List String) :
    Action (Except CheckFault Bool) := do
  if words.isEmpty then pure (.ok false)
  else
    let result ← countedWords checking (8 * words.length + 16) words.length words
    pure (wholeAnswer words result)

/-! ## The command -/

/-- The status of a check. It is told what the name of the command is, and why there is no answer. -/
def runCheck (checking : Checking) (command : String) (words : List String) : Action Nat := do
  let refuse (fault : CheckFault) : Action Nat := do
    protest (fault.message checking)
    pure 2
  let isBracket := command = "["
  if isBracket && words.getLast? != some "]" then refuse .noBracket
  else
    let words := if isBracket then words.dropLast else words
    let result ← if checking = .plain then checkPlain words else checkCounted checking words
    match result with
    | .ok answer => pure (if answer then 0 else 1)
    | .error (.noClosing none) =>
        refuse (.noClosing (if isBracket && checking != .plain then some "]" else none))
    | .error fault => refuse fault

end StaticMulticast.Host.Shell
