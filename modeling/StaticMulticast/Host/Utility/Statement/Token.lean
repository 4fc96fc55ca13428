import StaticMulticast.Text.Fraction

/-!
# The words of scripts of statements

What scripts of statements consist of, and the tokens that stand at the front of their text.
-/

/-!
## Scripts of statements

The language of `perl`. A term has a value where one is wanted, or a list of values. Names begin
with a mark that tells whether they stand for one value, for a list, for a table or for a function.
The names that a script declares have been replaced by numbers, the places of what they stand for.
-/

namespace StaticMulticast.Host.Utility.Statement

/-- What a name stands for. -/
inductive Shape where
  | scalar
  | array
  | table
  | function
deriving DecidableEq, Repr

namespace Shape

/-- The mark in front of names. -/
def mark : Shape → Char
  | .scalar => '$'
  | .array => '@'
  | .table => '%'
  | .function => '&'

/-- It holds several values. -/
def isPlural : Shape → Bool
  | .array | .table => true
  | _ => false

end Shape

/-- What has a value, or a list of values. -/
inductive Term where
  | number (value : Rat)
  | text (text : String)
  /-- A number that is written as a text of its own. -/
  | noted (text : String) (value : Rat)
  /-- A word that is nothing else. -/
  | bare (word : String)
  /-- A text made of parts. A list in it is written with a text between its values. -/
  | joined (parts : List Term)
  | list (terms : List Term)
  /-- What a declared name stands for, by its place. -/
  | own (shape : Shape) (slot : Nat)
  /-- What a name stands for in all of the script. -/
  | shared (shape : Shape) (name : String)
  /-- What a reference leads to. -/
  | behind (shape : Shape) (reference : Term)
  | element (array index : Term)
  | member (table key : Term)
  /-- Several elements of a list. -/
  | elements (array indices : Term)
  /-- Several members of a table. -/
  | members (table keys : Term)
  /-- Several members of a table or elements of a list, each behind its key. -/
  | pairs (isTable : Bool) (container keys : Term)
  /-- Several values of a list of terms. -/
  | pick (list indices : Term)
  /-- The index of the last value of a list. -/
  | last (array : Term)
  | reference (term : Term)
  | newArray (terms : List Term)
  | newTable (terms : List Term)
  /-- A function without a name, by the number of its body. -/
  | newFunction (body : Nat)
  /-- Names that are declared, each time anew. -/
  | declare (isList : Bool) (places : List Term)
  /-- Places whose values come back when what is around ends. -/
  | hide (isList : Bool) (places : List Term)
  /-- The first term the first time, and the second one from then on. -/
  | once (number : Nat) (first later : Term)
  | assign (operator : String) (place value : Term)
  | advance (amount : Int) (isAfter : Bool) (place : Term)
  | operate (operator : String) (first second : Term)
  /-- Repeats a list. -/
  | copies (list count : Term)
  | not (term : Term)
  | minus (term : Term)
  | complement (term : Term)
  | both (first second : Term)
  | either (first second : Term)
  /-- One of two terms, and not both. -/
  | exclusive (first second : Term)
  /-- The second term, if the first has no value. -/
  | instead (first second : Term)
  | choice (condition consequence alternative : Term)
  /-- The values from one to another, or whether the script is between two events. -/
  | range (number : Nat) (isLong : Bool) (first last : Term)
  | search (isWanted : Bool) (text : Option Term) (pattern : Term) (flags : String)
  | replace (text : Option Term) (pattern replacement : Term) (flags : String)
  | translate (text : Option Term) (first second flags : String)
  /-- An expression as a value. -/
  | expression (pattern : Term) (flags : String)
  | check (letter : Char) (path : Term)
  /-- What a command writes. -/
  | capture (command : Term)
  /-- The next line of a file, or all lines where a list is wanted. -/
  | read (handle : Term)
  /-- The names of files that patterns match. -/
  | paths (patterns : Term)
  | write (way : String) (handle : Option Term) (terms : List Term)
  | call (name : String) (arguments : List Term)
  /-- Goes through a list with statements, a term or a function. -/
  | sift (way package : String) (body : Term) (list : Term)
  /-- Calls a function by name. Without arguments it gets those of the function around. -/
  | callNamed (name : String) (arguments : Option (List Term))
  | callValue (function : Term) (arguments : Option (List Term))
  | callMethod (object name : Term) (arguments : List Term)
  /-- Does statements as a term. -/
  | perform (body : Nat)
  /-- Does statements, and keeps the message if they are given up. -/
  | attempt (body : Nat)
  /-- Does the statements of a text, in which the names have these places. -/
  | interpret (text : Term) (names : List (String × Term)) (package : String)

namespace Term

/-- What `$_` stands for. -/
def topic : Term := .shared .scalar "main::_"

/-- A list is assigned to the term. -/
def isListPlace : Term → Bool
  | .own shape _ | .shared shape _ | .behind shape _ => shape.isPlural
  | .list _ | .elements _ _ | .members _ _ | .pairs _ _ _ => true
  | .declare isList places | .hide isList places =>
      isList || match places with
        | [.own shape _] | [.shared shape _] | [.behind shape _] => shape.isPlural
        | [.elements _ _] | [.members _ _] => true
        | _ => false
  | .once _ first _ => first.isListPlace
  | _ => false

end Term

/-- What is done. -/
inductive Deed where
  | nothing
  /-- Evaluates a term on a line. -/
  | evaluate (line : Nat) (term : Term)
  /-- Statements that are done once, which can be left like a loop. -/
  | block (label : String) (deeds : List Deed)
  /-- Statements at whose end hidden values come back. -/
  | scope (deeds : List Deed)
  /-- Statements without anything of their own. -/
  | group (deeds : List Deed)
  | choice (line : Nat) (condition : Term) (consequence alternative : Deed)
  /-- Goes on as long as the condition has the wanted answer. The step comes after each round. -/
  | loop (label : String) (line : Nat) (isWanted : Bool) (condition : Term) (step body : Deed)
  /-- The body comes before the condition. -/
  | lateLoop (isWanted : Bool) (body : Deed) (condition : Term)
  /-- Goes through a list, each value of which is what a name stands for. -/
  | each (label : String) (line : Nat) (name list : Term) (step body : Deed)

/-- A script: its bodies, the functions with the numbers of their bodies, what is done early, in
order and at the end, and what it has behind its end. -/
structure Script where
  bodies : Array Deed := #[]
  functions : List (String × Nat) := []
  early : List Deed := []
  deeds : List Deed := []
  late : List Deed := []
  /-- What the declared names stand for, by their places. -/
  slots : Array Shape := #[]
  /-- The places that a function or a reference can still lead to later. -/
  kept : List Nat := []
  data : Option String := none
  isStrict : Bool := false

end StaticMulticast.Host.Utility.Statement

/-!
## Words and marks of scripts of statements

What stands at the front of a text: a name, a number, a text between marks of any choice, or an
operator with how tightly it binds.
-/

namespace StaticMulticast.Host.Utility.Statement

/-! ## Names -/

/-- The character can stand in a name. -/
def isNameLetter (letter : Char) : Bool :=
  letter.isAlphanum || letter = '_'

/-- A name can begin with the character. -/
def isNameStart (letter : Char) : Bool :=
  letter.isAlpha || letter = '_'

/-- The name at the front of a text, with those of the packages in front of it, and what follows.
The bound is on the number of packages. -/
def takeName : Nat → List Char → List Char × List Char
  | 0, text => text.span isNameLetter
  | bound + 1, text =>
      let (name, rest) := text.span isNameLetter
      match rest with
      | ':' :: ':' :: next :: _ =>
          if isNameLetter next then
            let (later, rest) := takeName bound (rest.drop 2)
            (name ++ "::".toList ++ later, rest)
          else (name, rest)
      | _ => (name, rest)

/-- The word at the front of a text, and what follows. -/
def takeWord (text : List Char) : String × List Char :=
  if text.head?.any isNameStart then
    let (name, rest) := takeName 8 text
    (String.ofList name, rest)
  else ("", text)

/-- The characters that are names of variables by themselves. -/
def specialNames : List Char :=
  "&+!@/\\,;.\"<>()[]:|?~=%-^$".toList ++ [Char.ofNat 0x27, Char.ofNat 0x60]

/-! ## Numbers -/

/-- The worth of a digit of a base up to sixteen, if it is one. -/
def digitWorth? (base : Nat) (letter : Char) : Option Nat :=
  let worth := if letter.isDigit then letter.toNat - 0x30
    else if letter.isAlpha then letter.toLower.toNat - 0x57 else base
  if worth < base then some worth else none

/-- The number that digits of a base are, which can have marks among them. -/
def numberOf (base : Nat) (digits : List Char) : Nat :=
  digits.foldl (fun value digit => match digitWorth? base digit with
    | some worth => value * base + worth
    | none => value) 0

/-- The digits of a base at the front of a text, and what follows. -/
def takeDigits (base : Nat) (text : List Char) : List Char × List Char :=
  text.span fun letter => (digitWorth? base letter).isSome || letter = '_'

/-- From here on, numbers that are not counted exactly are written with a power of ten. -/
def longNumber : Rat := (1000000000000000 : Nat)

/-- The number at the front of a text, and what follows. -/
def takeNumber? (text : List Char) : Option (Term × List Char) :=
  let whole (base : Nat) (digits : List Char) : Option (Term × List Char) :=
    let (digits, rest) := takeDigits base digits
    some (.number (numberOf base digits), rest)
  match text with
  | '0' :: 'x' :: rest | '0' :: 'X' :: rest => whole 16 rest
  | '0' :: 'b' :: rest | '0' :: 'B' :: rest => whole 2 rest
  | '0' :: 'o' :: rest => whole 8 rest
  | _ =>
      let (digits, rest) := takeDigits 10 text
      let hasPoint := rest.head? = some '.' && rest.tail.head? != some '.'
      let (fraction, rest) := if hasPoint then takeDigits 10 rest.tail else ([], rest)
      let exponent? := match rest with
        | mark :: sign :: next =>
            if mark.toLower = 'e' then
              if sign.isDigit then some (sign :: next)
              else if (sign = '-' || sign = '+') && next.head?.any Char.isDigit then
                some (sign :: next)
              else none
            else none
        | _ => none
      match hasPoint, exponent? with
      | false, none =>
          if digits.head? = some '0' && 1 < digits.length then
            some (.number (numberOf 8 digits), rest)
          else if digits.isEmpty then none
          else some (.number (numberOf 10 digits), rest)
      | _, _ =>
          let (power, after) : List Char × List Char := match exponent? with
            | some (sign :: next) =>
                let (more, after) := takeDigits 10 next
                ('e' :: sign :: more, after)
            | _ => ([], rest)
          let plain := (digits ++ '.' :: fraction ++ power).filter (· != '_')
          let plain := if digits.isEmpty then '0' :: plain else plain
          match Text.Fraction.readUnsigned? plain with
          | some (value, _) =>
              let value := Text.Fraction.rounded value
              if value.den = 1 && longNumber ≤ value then
                some (.noted (Text.Fraction.general 'e' 15 false value) value, after)
              else some (.number value, after)
          | none => none

/-! ## Quotes -/

/-- The mark that closes what a mark opens. -/
def closingMark : Char → Char
  | '(' => ')'
  | '[' => ']'
  | '\x7b' => '\x7d'
  | '<' => '>'
  | mark => mark

/-- The text up to a closing mark, with its backslashes, and what follows. Opening marks in it have
closing ones of their own. -/
def takeDelimited (opening closing : Char) : Nat → Nat → List Char → List Char →
    Option (List Char × List Char)
  | 0, _, _, _ => none
  | bound + 1, depth, done, text =>
      match text with
      | [] => none
      | '\\' :: letter :: rest =>
          let kept := if letter = closing && opening = closing && closing != '\\' then [letter]
            else [letter, '\\']
          takeDelimited opening closing bound depth (kept ++ done) rest
      | letter :: rest =>
          if letter = closing then
            if depth = 0 then some (done.reverse, rest)
            else takeDelimited opening closing bound (depth - 1) (letter :: done) rest
          else if letter = opening then
            takeDelimited opening closing bound (depth + 1) (letter :: done) rest
          else takeDelimited opening closing bound depth (letter :: done) rest

/-- What is quoted behind a mark, and what follows. -/
def takeQuote? (text : List Char) : Option (List Char × List Char) :=
  match text with
  | opening :: rest => takeDelimited opening (closingMark opening) (text.length + 1) 0 [] rest
  | [] => none

/-- Passes over blanks and remarks. The bound is on the length. -/
def withoutBlanks : Nat → List Char → List Char
  | 0, text => text
  | bound + 1, text =>
      match text with
      | '#' :: rest => withoutBlanks bound (rest.dropWhile (· != '\n'))
      | letter :: rest => if letter.isWhitespace then withoutBlanks bound rest else text
      | [] => []

/-- The second of two quoted texts, and what follows. It has marks of its own if the first has a
pair of them. -/
def takeSecond? (opening : Char) (rest : List Char) : Option (List Char × List Char) :=
  if closingMark opening = opening then
    takeDelimited opening opening (rest.length + 1) 0 [] rest
  else takeQuote? (withoutBlanks (rest.length + 1) rest)

/-- The text in plain quotes without the backslashes that protect marks and backslashes. -/
def plainText (opening : Char) : List Char → List Char
  | '\\' :: letter :: rest =>
      if letter = '\\' || letter = opening || letter = closingMark opening then
        letter :: plainText opening rest
      else '\\' :: plainText opening (letter :: rest)
  | letter :: rest => letter :: plainText opening rest
  | [] => []

/-- The words that quote. -/
def quoteWords : List String := ["q", "qq", "qw", "qx", "m", "qr", "s", "tr", "y"]

/-- A word quotes what follows it: a mark that is no comma, no arrow and no end. -/
def quotes (word : String) (rest : List Char) : Bool :=
  let beyond := rest.dropWhile Char.isWhitespace
  quoteWords.contains word &&
    match beyond with
    | '=' :: '>' :: _ => false
    | letter :: next :: _ =>
        !isNameLetter letter && !([',', ';', ')'].contains letter) &&
          !(letter = '#' && rest.head? != some '#') && !(letter = '=' && [' ', '='].contains next)
    | _ => false

/-- The parts of a text between blanks. -/
def wordsOf (text : List Char) : List String :=
  ((List.splitOnP Char.isWhitespace text).map String.ofList).filter fun word => !word.isEmpty

/-! ## Operators -/

/-- The operators of two terms, with how tightly they bind. Those that begin like another one stand
behind it. -/
def operators : List (String × Nat) :=
  [("<=>", 5), ("**", 13), ("=~", 11), ("!~", 11), ("==", 5), ("!=", 5), ("<=", 6), (">=", 6),
    ("&&", 2), ("||", 1), ("//", 1), ("<<", 8), (">>", 8), ("<", 6), (">", 6), ("+", 9), ("-", 9),
    (".", 9), ("*", 10), ("/", 10), ("%", 10), ("&", 4), ("|", 3), ("^", 3)]

/-- The operators that are words. -/
def wordOperators : List (String × Nat) :=
  [("x", 10), ("eq", 5), ("ne", 5), ("cmp", 5), ("lt", 6), ("gt", 6), ("le", 6), ("ge", 6),
    ("isa", 7)]

/-- How tightly the arguments of functions of one argument bind. -/
def argumentLevel : Nat := 8

/-- The operators that stand in front of an equals sign. -/
def assigning : List String :=
  ["**", "||", "&&", "//", "<<", ">>", "+", "-", "*", "/", ".", "%", "x", "&", "|", "^"]

/-- The operator of an assignment at the front of a text, and what follows. It is empty for a plain
one. -/
def assignAt? (text : List Char) : Option (String × List Char) :=
  match text with
  | '=' :: next :: _ =>
      if next = '=' || next = '~' || next = '>' then none else some ("", text.tail)
  | ['='] => some ("", [])
  | _ => do
      let operator ← assigning.find? fun operator => (operator ++ "=").toList.isPrefixOf text
      let rest := text.drop (operator.length + 1)
      if operator = "x" && (rest.head? = some '=' || rest.head? = some '>') then none
      else some (operator, rest)

/-- The operator of two terms at the front of a text, how tightly it binds, and what follows. -/
def operatorAt? (text : List Char) : Option (String × Nat × List Char) :=
  let begins (mark : String) : Bool := mark.toList.isPrefixOf text
  if (assignAt? text).isSome || ["=>", "->", "++", "--", ".."].any begins then none
  else
    match operators.find? fun row => begins row.1 with
    | some (symbol, level) => some (symbol, level, text.drop symbol.length)
    | none => do
        let (word, rest) := text.span isNameLetter
        let word := String.ofList word
        match wordOperators.lookup word with
        | some level =>
            if "=>".toList.isPrefixOf (rest.dropWhile Char.isWhitespace) then none
            else some (word, level, rest)
        | none =>
            match text with
            | 'x' :: digit :: _ => if digit.isDigit then some ("x", 10, text.tail) else none
            | _ => none

/-- The words between terms and behind statements. -/
def joiningWords : List String :=
  ["x", "lt", "gt", "le", "ge", "eq", "ne", "cmp", "isa", "and", "or", "xor", "if", "unless", "while",
    "until", "for", "foreach"]

/-- A term can begin at the front of a text, where an operator can stand too. -/
def beginsTerm (text : List Char) : Bool :=
  match text with
  | [] => false
  | letter :: rest =>
      let next := rest.headD ' '
      if isNameStart letter then !joiningWords.contains (takeWord text).1
      else if letter = '.' then next.isDigit
      else if letter = '*' then isNameStart next || next = '\x7b'
      else if letter = '%' then isNameStart next || ['$', '\x7b', '+', '-', '!'].contains next
      else if letter = '&' then isNameStart next || next = '$' || next = '\x7b'
      else if letter = '!' then next != '=' && next != '~'
      else if letter = '/' then next != '/'
      else if letter = '-' then next != '=' && !next.isWhitespace
      else if letter = '+' then next != '=' && !next.isWhitespace
      else if letter = '<' then
        next = '<' || (rest.dropWhile fun letter => isNameLetter letter || letter = '$' || letter = ':'
          ).head? = some '>' || next = '*' || next = '/'
      else !")]\x7d:;,?=|^>".toList.contains letter

/-- What stands behind an opening brace looks like the members of a table. -/
def looksLikeTable (text : List Char) : Bool :=
  let text := withoutBlanks (text.length + 1) text
  let first := text.headD ' '
  let isQuote := first = '\'' || first = '"' || first.toNat = 0x60
  let beyond := if isQuote then ((takeQuote? text).map (·.2)).getD []
    else text.dropWhile isNameLetter
  let beyond := withoutBlanks (beyond.length + 1) beyond
  first = '\x7d' ||
    match beyond with
    | ',' :: _ => (isQuote || (isNameLetter first && !first.isLower))
    | '=' :: '>' :: _ => isQuote || isNameLetter first
    | _ => false

end StaticMulticast.Host.Utility.Statement
