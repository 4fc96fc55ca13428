import StaticMulticast.Host.Utility.Datum
import StaticMulticast.Text.Fraction

/-!
# The parts of scripts of rules

What scripts of rules consist of, and the tokens of their text.
-/

/-!
## Scripts of rules

The language of `awk`. A script is a list of rules. Each tells for which records of the input
something is done, and what: terms are calculated from the fields of the record and from variables,
and results are written.
-/

namespace StaticMulticast.Host.Utility.Rule

/-! ## Calculations -/

/-- A calculation with two numbers. -/
inductive Operation where
  | add
  | subtract
  | multiply
  | divide
  | remainder
  | power
deriving DecidableEq, Repr

/-- A comparison of two values. -/
inductive Comparison where
  | less
  | atMost
  | equal
  | different
  | atLeast
  | greater
deriving DecidableEq, Repr

/-- What stands for the result of a calculation that has none. -/
def noNumber : Datum := .text "-nan"

/-- The result of a calculation. -/
def Operation.apply (operation : Operation) (first second : Rat) : Datum :=
  let limited (value : Rat) : Datum := .number (Datum.limited value)
  match operation with
  | .add => limited (first + second)
  | .subtract => limited (first - second)
  | .multiply => limited (first * second)
  | .divide =>
      if second != 0 then limited (first / second)
      else if first = 0 then noNumber
      else limited (if first < 0 then -Datum.unbounded else Datum.unbounded)
  | .remainder =>
      if second = 0 then noNumber
      else limited (first - second * Datum.truncated (first / second))
  | .power =>
      if first < 0 && exponentIsBroken second then noNumber
      else limited (Datum.powerOf first second)
where
  /-- Numbers below zero have no power with this exponent. -/
  exponentIsBroken (exponent : Rat) : Bool := exponent.den != 1

/-- The result of a function of one number. -/
def functionOf? (name : String) (value : Rat) : Option Datum :=
  let limited (value : Rat) : Datum := .number (Datum.limited value)
  match name with
  | "int" => some (.number (Datum.truncated value))
  | "sqrt" => some (if value < 0 then noNumber else .number (Datum.squareRoot value))
  | "exp" => some (limited (Datum.exponential value))
  | "log" => some (
      if value < 0 then noNumber
      else if value = 0 then .number (-Datum.unbounded)
      else limited (Elementary.logarithm value))
  | "sin" => some (limited (Elementary.sine value))
  | "cos" => some (limited (Elementary.cosine value))
  | _ => none

/-- The answer of a comparison. -/
def Comparison.holds : Comparison → Ordering → Bool
  | .less, order => order = .lt
  | .atMost, order => order != .gt
  | .equal, order => order = .eq
  | .different, order => order != .eq
  | .atLeast, order => order != .lt
  | .greater, order => order = .gt

/-! ## Terms -/

/-- What has a value. Some of it can also be given one. -/
inductive Term where
  | number (value : Rat)
  | text (text : String)
  /-- An expression that is searched for in the record. -/
  | expression (text : String)
  | variable (name : String)
  | member (name : String) (places : List Term)
  | field (number : Term)
  | assign (place : Term) (operation : Option Operation) (value : Term)
  /-- Adds an amount to a place. Its value is that of the place after or before that. -/
  | advance (amount : Rat) (isAfter : Bool) (place : Term)
  | not (term : Term)
  | minus (term : Term)
  | plus (term : Term)
  | calculate (operation : Operation) (first second : Term)
  | compare (comparison : Comparison) (first second : Term)
  | join (first second : Term)
  | search (isWanted : Bool) (text expression : Term)
  | both (first second : Term)
  | either (first second : Term)
  | choice (condition consequence alternative : Term)
  | isMember (places : List Term) (name : String)
  | call (name : String) (arguments : List Term)
  | builtin (name : String) (arguments : List Term)
  /-- Reads the next record of the input. -/
  | next (place : Option Term)
  /-- Reads the next record of a file. -/
  | nextOf (place : Option Term) (path : Term)
  /-- Reads the next record of what a command writes. -/
  | nextFrom (place : Option Term) (command : Term)

/-- A value can be given to the term. -/
def Term.isPlace : Term → Bool
  | .variable _ | .member _ _ | .field _ => true
  | _ => false

/-! ## Deeds -/

/-- Where something is written. -/
inductive Target where
  | output
  | file (isAdded : Bool) (path : Term)
  | command (command : Term)

/-- What is done. -/
inductive Deed where
  | nothing
  | evaluate (term : Term)
  | write (terms : List Term) (target : Target)
  | format (terms : List Term) (target : Target)
  | block (deeds : List Deed)
  | choice (condition : Term) (consequence alternative : Deed)
  | loop (condition : Term) (step body : Deed)
  /-- The body comes before the condition. -/
  | lateLoop (body : Deed) (condition : Term)
  | each (name table : String) (body : Deed)
  | leave
  | again
  | next
  | nextFile
  | exit (status : Option Term)
  | give (value : Option Term)
  | delete (name : String) (places : List Term)
  | clear (name : String)

/-! ## Scripts -/

/-- When the deed of a rule is done. -/
inductive Occasion where
  | start
  | finish
  | always
  | holds (condition : Term)
  /-- From a record for which the first term holds to one for which the last one does. -/
  | between (first last : Term)

/-- A rule. -/
structure Row where
  occasion : Occasion
  deed : Deed

/-- A function. Arguments that are not given are variables of its own. -/
structure Function where
  name : String
  parameters : List String
  body : Deed

/-- A script. -/
structure Script where
  rows : List Row := []
  functions : List Function := []

/-- The names of the functions that every script has, with the least and the greatest number of
their arguments. -/
def builtins : List (String × Nat × Nat) :=
  [("length", 0, 1), ("substr", 2, 3), ("index", 2, 2), ("split", 2, 3), ("sub", 2, 3),
    ("gsub", 2, 3), ("match", 2, 2), ("sprintf", 1, 1000), ("tolower", 1, 1), ("toupper", 1, 1),
    ("int", 1, 1), ("sqrt", 1, 1), ("system", 1, 1), ("close", 1, 1), ("fflush", 0, 1),
    ("exp", 1, 1), ("log", 1, 1), ("sin", 1, 1), ("cos", 1, 1), ("atan2", 2, 2), ("rand", 0, 0),
    ("srand", 0, 1), ("strftime", 0, 3), ("mktime", 1, 2), ("systime", 0, 0)]

/-- The words with a meaning of their own. -/
def keywords : List String :=
  ["BEGIN", "END", "function", "if", "else", "while", "for", "do", "break", "continue", "next",
    "nextfile", "exit", "return", "delete", "in", "getline", "print", "printf"]

end StaticMulticast.Host.Utility.Rule

/-!
## The tokens of a script of rules

A slash begins an expression where a term can begin, and is a mark of division elsewhere.
-/

namespace StaticMulticast.Host.Utility.Rule

/-- A token. -/
inductive Token where
  | number (value : Rat)
  | text (text : String)
  | expression (text : String)
  | name (name : String)
  /-- A name with an opening parenthesis right behind it, which is a token of its own. -/
  | called (name : String)
  | mark (text : String)
  | line
deriving DecidableEq

/-- A term can end with the token. -/
def Token.isEnd : Token → Bool
  | .number _ | .text _ | .expression _ => true
  | .name word => !keywords.contains word
  | .mark symbol => [")", "]", "++", "--"].contains symbol
  | .called _ | .line => false

/-- The marks, each before those that begin it. -/
def marks : List String :=
  ["+=", "-=", "*=", "/=", "%=", "^=", "==", "<=", ">=", "!=", "!~", "++", "--", "&&", "||", ">>",
    "\x7b", "\x7d", "(", ")", "[", "]", ";", ",", "+", "-", "*", "/", "%", "^", "!", "<", ">", "|",
    "?", ":", "~", "$", "="]

/-- The character for a letter behind a backslash. -/
def escaped? : Char → Option Char
  | '"' => some '"'
  | '\\' => some '\\'
  | 'a' => some (Char.ofNat 7)
  | 'b' => some (Char.ofNat 8)
  | 'f' => some (Char.ofNat 12)
  | 'n' => some '\n'
  | 'r' => some '\r'
  | 't' => some '\t'
  | 'v' => some (Char.ofNat 11)
  | _ => none

/-- The character is a digit of base eight. -/
def isOctal (letter : Char) : Bool :=
  '0' ≤ letter && letter ≤ '7'

/-- The text that stands in quotes, up to the closing one, and what follows. -/
def takeQuoted : Nat → List Char → List Char → Option (String × List Char)
  | 0, _, _ => none
  | bound + 1, done, text =>
      match text with
      | '"' :: rest => some (String.ofList done.reverse, rest)
      | '\n' :: _ | [] => none
      | '\\' :: '\n' :: rest => takeQuoted bound done rest
      | '\\' :: letter :: rest =>
          match escaped? letter with
          | some meant => takeQuoted bound (meant :: done) rest
          | none =>
              let digits := ((letter :: rest).take 3).takeWhile isOctal
              let (sixteenths, after) := (rest.take 2).span fun digit =>
                (Text.Fraction.sixteenthDigit? digit).isSome
              if letter = 'x' && !sixteenths.isEmpty then
                let value := sixteenths.foldl
                  (fun value digit => 16 * value + (Text.Fraction.sixteenthDigit? digit).getD 0) 0
                takeQuoted bound (Char.ofNat value :: done) (after ++ rest.drop 2)
              else if digits.isEmpty then takeQuoted bound (letter :: '\\' :: done) rest
              else
                let value := digits.foldl (fun value digit => 8 * value + (digit.toNat - 0x30)) 0
                takeQuoted bound (Char.ofNat (value % 256) :: done)
                  ((letter :: rest).drop digits.length)
      | letter :: rest => takeQuoted bound (letter :: done) rest

/-- The expression up to the closing slash, and what follows. A slash in brackets does not close. -/
def takeExpression : Nat → Bool → List Char → List Char → Option (String × List Char)
  | 0, _, _, _ => none
  | bound + 1, isInside, done, text =>
      match text with
      | '\n' :: _ | [] => none
      | '\\' :: '/' :: rest => takeExpression bound isInside ('/' :: done) rest
      | '\\' :: letter :: rest => takeExpression bound isInside (letter :: '\\' :: done) rest
      | letter :: rest =>
          if letter = '/' && !isInside then some (String.ofList done.reverse, rest)
          else
            let isInside := if letter = '[' then true else if letter = ']' then false else isInside
            takeExpression bound isInside (letter :: done) rest

/-- The character can stand in a name. -/
def isNameLetter (letter : Char) : Bool :=
  letter.isAlphanum || letter = '_'

/-- The mark at the front of a text, and what follows. -/
def takeMark? (text : List Char) : Option (String × List Char) :=
  (marks.find? fun mark => mark.toList.isPrefixOf text).map fun mark =>
    (mark, text.drop mark.length)

/-- The token at the front of a text without blanks, and what follows. It is given whether a term
ends before it. -/
def takeToken (afterTerm : Bool) (text : List Char) : Option (Token × List Char) := do
  let letter ← text.head?
  let startsNumber := letter.isDigit ||
    (letter = '.' && (text.drop 1).head?.any Char.isDigit)
  if letter = '\n' then some (.line, text.drop 1)
  else if letter = '"' then do
    let (quoted, rest) ← takeQuoted (text.length + 1) [] (text.drop 1)
    some (.text quoted, rest)
  else if letter = '/' && !afterTerm then do
    let (expression, rest) ← takeExpression (text.length + 1) false [] (text.drop 1)
    some (.expression expression, rest)
  else if startsNumber then do
    let (value, rest) ← Text.Fraction.readUnsigned? text
    some (.number (Text.Fraction.rounded value), rest)
  else if isNameLetter letter then
    let (name, rest) := text.span isNameLetter
    let name := String.ofList name
    if rest.head? = some '(' then some (.called name, rest) else some (.name name, rest)
  else do
    let (mark, rest) ← takeMark? text
    some (.mark mark, rest)

/-- The tokens of a text. The bound is on their number, with that of blanks and remarks. -/
def tokensOf : Nat → Bool → List Char → Option (List Token)
  | 0, _, _ => none
  | bound + 1, afterTerm, text =>
      match text with
      | [] => some []
      | '\\' :: '\n' :: rest => tokensOf bound afterTerm rest
      | '\\' :: '\r' :: '\n' :: rest => tokensOf bound afterTerm rest
      | letter :: rest =>
          if letter = ' ' || letter = '\t' || letter = '\r' then tokensOf bound afterTerm rest
          else if letter = '#' then tokensOf bound false (rest.dropWhile (· != '\n'))
          else do
            let (token, rest) ← takeToken afterTerm text
            some (token :: (← tokensOf bound token.isEnd rest))

/-- The tokens of a script. -/
def tokens? (script : String) : Option (List Token) :=
  tokensOf (script.length + 1) false script.toList

end StaticMulticast.Host.Utility.Rule
