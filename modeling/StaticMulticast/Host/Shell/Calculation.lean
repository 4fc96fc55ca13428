import StaticMulticast.Host.Shell.Word

/-!
# Calculations

The language of calculations with whole numbers. Numbers have 64 bits, and results that do not fit
are wrapped. The text is cut into tokens, and these are read as an expression by the precedence of
the operators. Every text stands for an expression: where a text goes wrong, the expression has a
flaw, which is met after all that stands before it has been calculated.
-/

namespace StaticMulticast.Host.Shell.Calculation

/-- A whole number as it fits in 64 bits. -/
def wrap (number : Int) : Int :=
  Int.bmod number 0x10000000000000000

/-- The greatest number. -/
def greatest : Nat := 0x7fffffffffffffff

/-! ## Flaws -/

/-- What is wrong with a calculation. -/
inductive Flaw where
  | noOperand
  | noExpression
  | noOperator
  | excess
  | unclosed
  | noColon
  | noVariable
  /-- A variable is stepped on both sides, by the sign that is told. -/
  | doubleStep (sign : Char)
  | digit
  | numeral
  | base
  | constant
  | place
  | division
  | exponent
  | depth
deriving DecidableEq, Repr

/-- What is told about a flaw in the extended language. -/
def Flaw.message : Flaw → String
  | .noOperand => "syntax error: operand expected"
  | .noExpression => "expression expected"
  | .noOperator => "syntax error: invalid arithmetic operator"
  | .excess => "syntax error in expression"
  | .unclosed => "missing " ++ inOldQuotes ")"
  | .noColon => inOldQuotes ":" ++ " expected for conditional expression"
  | .noVariable => "attempted assignment to non-variable"
  | .doubleStep sign => String.ofList [sign, sign] ++ ": assignment requires lvalue"
  | .digit => "value too great for base"
  | .numeral => "invalid number"
  | .base => "invalid arithmetic base"
  | .constant => "invalid integer constant"
  | .place => "bad array subscript"
  | .division => "division by 0"
  | .exponent => "exponent less than 0"
  | .depth => "expression recursion level exceeded"

/-- What is told about a flaw in the plain language. -/
def Flaw.plainMessage : Flaw → String
  | .noOperand => "expecting primary"
  | .unclosed => "expecting ')'"
  | .noColon => "expecting ':'"
  | .division => "division by zero"
  | _ => "expecting EOF"

/-! ## Numerals -/

/-- The value of a digit in bases up to 64. -/
def digitValue (base : Nat) (character : Char) : Nat :=
  let code := character.toNat
  if character.isDigit then code - '0'.toNat
  else if character.isLower then code - 'a'.toNat + 10
  else if character.isUpper then code - 'A'.toNat + (if base ≤ 36 then 10 else 36)
  else if character = '@' then 62
  else if character = '_' then 63
  else 64

/-- The number that digits of a base make after those that have been read. A number sign ends a base, if
none has been told. -/
def numberFrom (base : Nat) (isTold : Bool) (value : Nat) : List Char → Except Flaw Nat
  | [] => .ok value
  | '#' :: digits =>
      if isTold then .error .numeral
      else if value < 2 || 64 < value then .error .base
      else if digits.isEmpty || digits.head? = some '#' then .error .constant
      else numberFrom value true 0 digits
  | digit :: digits =>
      if base ≤ digitValue base digit then .error .digit
      else numberFrom base isTold (base * value + digitValue base digit) digits

/-- The number of a numeral in the extended language: with a base in front, or a zero in front for base
eight, or a zero and an x for base sixteen. -/
def extendedNumber (text : List Char) : Except Flaw Nat :=
  match text with
  | '0' :: 'x' :: digits => numberFrom 16 true 0 digits
  | '0' :: 'X' :: digits => numberFrom 16 true 0 digits
  | '0' :: digits => numberFrom 8 true 0 digits
  | _ => numberFrom 10 false 0 text

/-- The number that digits of a base make. -/
def numberOf (base : Nat) (digits : List Char) : Nat :=
  digits.foldl (fun value digit => base * value + digitValue base digit) 0

/-- The number at the front of a text in the plain language, and the text after it. -/
def plainNumber (text : List Char) : Nat × List Char :=
  let hasBase (base : Nat) (digit : Char) : Bool := digit.isAlphanum && digitValue base digit < base
  let cut (base : Nat) (text : List Char) : Nat × List Char :=
    let (digits, rest) := text.span (hasBase base)
    (numberOf base digits, rest)
  match text with
  | '0' :: mark :: digit :: rest =>
      if (mark = 'x' || mark = 'X') && hasBase 16 digit then cut 16 (digit :: rest)
      else cut 8 text
  | '0' :: rest => cut 8 ('0' :: rest)
  | _ => cut 10 text

/-- The character can stand in a numeral of the extended language. -/
def inNumeral (character : Char) : Bool :=
  character.isAlphanum || ['#', '@', '_'].contains character

/-! ## Tokens -/

/-- What a token of an expression is. -/
inductive Kind where
  | number (value : Int)
  /-- The name of a variable, perhaps with a place in it. -/
  | name (text : String) (place : Option String)
  | operator (text : String)
  /-- Adds to the variable that follows. -/
  | before (amount : Int)
  /-- Adds to the variable in front. -/
  | behind (amount : Int)
  | flaw (flaw : Flaw)
  | finish
deriving DecidableEq, Repr

/-- A token of an expression, and the text from it on. -/
structure Token where
  kind : Kind
  text : List Char
deriving DecidableEq, Repr

/-- The operators, longer ones before those they begin with. -/
def operators : List String :=
  ["<<=", ">>=", "**", "<<", ">>", "<=", ">=", "==", "!=", "&&", "||", "*=", "/=", "%=",
    "+=", "-=", "&=", "^=", "|=", "+", "-", "*", "/", "%", "<", ">", "=", "!", "~", "&", "|", "^",
    "?", ":", "(", ")", ","]

/-- The operator at the front of a text. The plain language does not have all of them. -/
def operatorAt? (isExtended : Bool) (text : List Char) : Option String :=
  operators.find? fun operator =>
    operator.toList.isPrefixOf text && (isExtended || (operator != "**" && operator != ","))

/-- The character is blank. -/
def isBlank (character : Char) : Bool :=
  [' ', '\t', '\n', '\r'].contains character

/-- The text up to the bracket that closes one that stands before it, and the text after it. The
depth of brackets that are open in it is given. -/
def upToBracket? : Nat → List Char → Option (List Char × List Char)
  | _, [] => none
  | 0, ']' :: rest => some ([], rest)
  | depth, character :: rest => do
      let depth := if character = '[' then depth + 1 else if character = ']' then depth - 1 else depth
      let (inside, after) ← upToBracket? depth rest
      some (character :: inside, after)

/-- What stands in front of a token, as far as it matters. -/
inductive Front where
  | operator
  | operand
  | name
  /-- A variable to which is added by a sign in front. -/
  | stepped

/-- The token at the front of a text that begins with no blank and no name, and the text after it. -/
def signAt (isExtended : Bool) (front : Front) (text : List Char) : Kind × List Char :=
  let other : Kind × List Char :=
    match operatorAt? isExtended text, isExtended with
    | some operator, _ => (.operator operator, text.drop operator.length)
    | none, false => (.operator (String.ofList (text.take 1)), text.drop 1)
    | none, true =>
        (.flaw (match front with | .operator => .noOperand | _ => .noOperator), [])
  match isExtended, text with
  | true, first :: second :: rest =>
      if first = second && (first = '+' || first = '-') then
        let amount := if first = '+' then 1 else -1
        match front with
        | .name => (.behind amount, rest)
        | .stepped => (.flaw (.doubleStep first), [])
        | _ =>
            if (rest.dropWhile isBlank).head?.any beginsName then (.before amount, rest)
            else (.operator (String.singleton first), second :: rest)
      else other
  | _, _ => other

/-- What stands in front of the token after one. -/
def Front.after (front : Kind) : Kind → Front
  | .number _ | .behind _ => .operand
  | .name _ _ => match front with | .before _ => .stepped | _ => .name
  | _ => .operator

/-- The tokens of a text, up to the first that has a flaw. They are told the token before them, and the
text from it on, and the last of them is the end. The bound is on their number. -/
def tokensFrom (isExtended : Bool) (front : Front) (before : Token) :
    Nat → List Char → List Token
  | 0, _ => [{ before with kind := .finish }]
  | bound + 1, text =>
      match text.dropWhile isBlank with
      | [] => [{ before with kind := .finish }]
      | character :: rest =>
          let text := character :: rest
          let go (kind : Kind) (rest : List Char) : List Token :=
            { kind, text } ::
              tokensFrom isExtended (Front.after before.kind kind) { kind, text } bound rest
          if character.isDigit then
            if isExtended then
              let (digits, rest) := text.span inNumeral
              match extendedNumber digits with
              | .ok value => go (.number (wrap value)) rest
              | .error flaw => [{ kind := .flaw flaw, text := digits }]
            else
              let (value, rest) := plainNumber text
              go (.number (min value greatest)) rest
          else if beginsName character then
            let (name, rest) := text.span continuesName
            match isExtended, rest with
            | true, '[' :: rest =>
                match upToBracket? 0 rest with
                | some (inside, rest) =>
                    go (.name (String.ofList name) (some (String.ofList inside))) rest
                | none => [{ kind := .flaw .place, text }]
            | _, _ => go (.name (String.ofList name) none) rest
          else
            match signAt isExtended front text with
            | (.flaw flaw, _) => [{ kind := .flaw flaw, text }]
            | (kind, rest) => go kind rest

/-- The tokens of a text. -/
def tokens (isExtended : Bool) (text : List Char) : List Token :=
  tokensFrom isExtended .operator ⟨.finish, []⟩ (text.length + 1) text

/-- The text from the next token on. -/
def textOf (tokens : List Token) : String :=
  String.ofList ((tokens.head?.map Token.text).getD [])

/-! ## Expressions -/

/-- An expression. A name may have a place in a list after it, whose meaning depends on the list. The
text that tells where a flaw is stands beside what may turn out to have one. -/
inductive Expression where
  | number (value : Int)
  | name (text : String) (place : Option String)
  | sign (operator : String) (body : Expression)
  | join (operator : String) (left right : Expression) (text : String)
  | choice (condition consequence alternative : Expression)
  | assign (operator name : String) (place : Option String) (value : Expression) (text : String)
  /-- Adds to a variable, and has its value from before or after. -/
  | step (name : String) (place : Option String) (amount : Int) (isBefore : Bool)
  | flaw (flaw : Flaw) (text : String)

/-- One expression after the other. -/
def Expression.andThen (first second : Expression) : Expression :=
  .join "," first second ""

/-- The first flaw of an expression, whatever it would come to. -/
def Expression.flaw? : Expression → Option (Flaw × String)
  | .number _ | .name _ _ | .step _ _ _ _ => none
  | .flaw found text => some (found, text)
  | .sign _ body => body.flaw?
  | .join _ left right _ => left.flaw?.or right.flaw?
  | .choice condition consequence alternative =>
      (condition.flaw?.or consequence.flaw?).or alternative.flaw?
  | .assign _ _ _ value _ => value.flaw?

/-- How strongly an operator between two expressions holds them together. -/
def strength? (operator : String) : Option Nat :=
  match operator with
  | "||" => some 4
  | "&&" => some 5
  | "|" => some 6
  | "^" => some 7
  | "&" => some 8
  | "==" | "!=" => some 9
  | "<" | ">" | "<=" | ">=" => some 10
  | "<<" | ">>" => some 11
  | "+" | "-" => some 12
  | "*" | "/" | "%" => some 13
  | "**" => some 14
  | _ => none

/-- The operators that assign. -/
def assigning : List String :=
  ["=", "+=", "-=", "*=", "/=", "%=", "&=", "|=", "^=", "<<=", ">>="]

/-- The tokens after an operator, if it is next. -/
def after? (operator : String) : List Token → Option (List Token)
  | ⟨.operator found, _⟩ :: rest => if found = operator then some rest else none
  | _ => none

/-- The operator that is next assigns. -/
def isAssigning : List Token → Bool
  | ⟨.operator operator, _⟩ :: _ => assigning.contains operator
  | _ => false

/-- The variable to which something is assigned, by what operator, and the tokens after that. -/
def target? : List Token → Option (String × Option String × String × List Token)
  | ⟨.name name place, _⟩ :: ⟨.operator operator, _⟩ :: rest =>
      if assigning.contains operator then some (name, place, operator, rest) else none
  | _ => none

/-- What has been read of an expression, and the tokens after it. There are none after a flaw. -/
abbrev Reading := Expression × List Token

/-- A flaw at the next token, after an expression. -/
def Expression.wrong (expression : Expression) (flaw : Flaw) (tokens : List Token) : Reading :=
  (expression.andThen (.flaw flaw (textOf tokens)), [])

/-- An expression that has been read, unless the next token has a flaw. -/
def settled (expression : Expression) : List Token → Reading
  | ⟨Kind.flaw flaw, text⟩ :: _ => (expression.andThen (.flaw flaw (String.ofList text)), [])
  | tokens => (expression, tokens)

mutual

/-- Reads expressions with commas between them. The plain language has no commas. -/
def readAll (isExtended : Bool) : Nat → List Token → Reading
  | 0, tokens => (.flaw .depth (textOf tokens), [])
  | fuel + 1, tokens =>
      let (first, rest) := readAssignment isExtended fuel tokens
      match after? "," rest, isExtended with
      | some after, true =>
          let (second, rest) := readAll isExtended fuel after
          (first.andThen second, rest)
      | _, _ => (first, rest)

/-- Reads an expression that may assign. -/
def readAssignment (isExtended : Bool) : Nat → List Token → Reading
  | 0, tokens => (.flaw .depth (textOf tokens), [])
  | fuel + 1, tokens =>
      match target? tokens with
      | some (name, place, operator, rest) =>
          let (value, rest) := readAssignment isExtended fuel rest
          (.assign operator name place value (textOf rest), rest)
      | none =>
          let (left, rest) := readChoice isExtended fuel tokens
          if isExtended && isAssigning rest then left.wrong .noVariable rest else (left, rest)

/-- Reads a choice between two expressions, or what has none. -/
def readChoice (isExtended : Bool) : Nat → List Token → Reading
  | 0, tokens => (.flaw .depth (textOf tokens), [])
  | fuel + 1, tokens =>
      let (condition, rest) := readJoins isExtended fuel 4 tokens
      let lacks (rest : List Token) : Bool :=
        isExtended && (rest.head?.map Token.kind = some .finish)
      match after? "?" rest with
      | none => (condition, rest)
      | some inside =>
          if lacks inside || (isExtended && (after? ":" inside).isSome) then
            condition.wrong .noExpression inside
          else
            let (consequence, rest) := readAll isExtended fuel inside
            match after? ":" rest with
            | none =>
                let chosen := Expression.choice condition consequence (.number 0)
                if rest.isEmpty then (chosen, []) else chosen.wrong .noColon rest
            | some inside =>
                if lacks inside then
                  let flaw := Expression.flaw .noExpression (textOf inside)
                  (.choice condition consequence flaw, [])
                else
                  let (alternative, rest) := readChoice isExtended fuel inside
                  (.choice condition consequence alternative, rest)

/-- Reads an expression whose operators are at least so strong. -/
def readJoins (isExtended : Bool) : Nat → Nat → List Token → Reading
  | 0, _, tokens => (.flaw .depth (textOf tokens), [])
  | fuel + 1, least, tokens =>
      let (left, rest) := readFront isExtended fuel tokens
      readOn isExtended fuel least left rest

/-- Reads on after the left side of operators. -/
def readOn (isExtended : Bool) : Nat → Nat → Expression → List Token → Reading
  | 0, _, _, tokens => (.flaw .depth (textOf tokens), [])
  | fuel + 1, least, left, tokens =>
      match tokens with
      | ⟨.operator operator, _⟩ :: rest =>
          match strength? operator with
          | some strength =>
              if strength < least then (left, tokens)
              else
                let isPower := operator = "**"
                let next := if isPower then strength else strength + 1
                let (right, after) := readJoins isExtended fuel next rest
                let text := textOf (if isPower then after else rest)
                readOn isExtended fuel least (.join operator left right text) after
          | none => (left, tokens)
      | _ => (left, tokens)

/-- Reads a number, a name, an expression in parentheses, or one of these with a sign. -/
def readFront (isExtended : Bool) : Nat → List Token → Reading
  | 0, tokens => (.flaw .depth (textOf tokens), [])
  | fuel + 1, tokens =>
      match tokens with
      | ⟨.number value, _⟩ :: rest => settled (.number value) rest
      | ⟨.name name place, _⟩ :: rest =>
          match rest with
          | ⟨.behind amount, _⟩ :: rest => settled (.step name place amount true) rest
          | ⟨.flaw flaw, text⟩ :: _ => (.flaw flaw (String.ofList text), [])
          | _ => (.name name place, rest)
      | ⟨.before amount, _⟩ :: ⟨.name name place, _⟩ :: rest =>
          settled (.step name place amount false) rest
      | ⟨.flaw flaw, text⟩ :: _ => (.flaw flaw (String.ofList text), [])
      | ⟨.operator operator, _⟩ :: rest =>
          if operator = "(" then
            let (body, rest) := readAll isExtended fuel rest
            match after? ")" rest with
            | some rest => settled body rest
            | none => if rest.isEmpty then (body, []) else body.wrong .unclosed rest
          else if ["+", "-", "!", "~"].contains operator then
            let (body, rest) := readFront isExtended fuel rest
            (.sign operator body, rest)
          else (.flaw .noOperand (textOf tokens), [])
      | _ => (.flaw .noOperand (textOf tokens), [])

end

/-- The expression of a text. An empty text stands for zero in the extended language. -/
def expression (isExtended : Bool) (text : List Char) : Expression :=
  let tokens := tokens isExtended text
  if tokens.length ≤ 1 && isExtended && tokens.head?.map Token.kind = some .finish then .number 0
  else
    let (read, rest) := readAll isExtended (8 * tokens.length + 8) tokens
    match rest with
    | [] | [⟨.finish, _⟩] => read
    | _ => (read.wrong .excess rest).1

/-! ## Results -/

/-- The number for an answer. -/
def ofBool (answer : Bool) : Int :=
  if answer then 1 else 0

/-- The amount of a shift, which only has six bits. -/
def shift (amount : Int) : Nat :=
  (amount % 64).toNat

/-- A number as 64 bits without a sign. -/
def bits (number : Int) : Nat :=
  (number % 0x10000000000000000).toNat

/-- The result of an operator between two numbers. -/
def joined (operator : String) (left right : Int) : Except Flaw Int :=
  match operator with
  | "+" => .ok (wrap (left + right))
  | "-" => .ok (wrap (left - right))
  | "*" => .ok (wrap (left * right))
  | "/" => if right = 0 then .error .division else .ok (wrap (left.tdiv right))
  | "%" => if right = 0 then .error .division else .ok (wrap (left.tmod right))
  | "**" => if right < 0 then .error .exponent else .ok (power left right.toNat)
  | "<<" => .ok (wrap (left * Int.ofNat (1 <<< shift right)))
  | ">>" => .ok (left.fdiv (Int.ofNat (1 <<< shift right)))
  | "&" => .ok (wrap (Int.ofNat (bits left &&& bits right)))
  | "|" => .ok (wrap (Int.ofNat (bits left ||| bits right)))
  | "^" => .ok (wrap (Int.ofNat (bits left ^^^ bits right)))
  | "<" => .ok (ofBool (left < right))
  | ">" => .ok (ofBool (right < left))
  | "<=" => .ok (ofBool (left ≤ right))
  | ">=" => .ok (ofBool (right ≤ left))
  | "==" => .ok (ofBool (left = right))
  | "!=" => .ok (ofBool (left ≠ right))
  | _ => .ok right
where
  /-- A power, wrapped after every step. -/
  power (base : Int) : Nat → Int
    | 0 => 1
    | exponent + 1 => wrap (base * power base exponent)

/-- The result of a sign in front of a number. -/
def signed (operator : String) (value : Int) : Int :=
  match operator with
  | "-" => wrap (-value)
  | "!" => ofBool (value = 0)
  | "~" => -value - 1
  | _ => value

end StaticMulticast.Host.Shell.Calculation
