import StaticMulticast.Host.Utility.Input
import StaticMulticast.Text.Decimal
import StaticMulticast.Text.Regular

/-!
# The program for expressions

The arguments of `expr` are the tokens of an expression over texts and whole numbers. The status
tells whether its value is neither empty nor zero.
-/

namespace StaticMulticast.Host.Utility

open StaticMulticast.Text (Regular)

/-- Why an expression has no value. -/
inductive ExpressionFault where
  | misformed
  | noNumber
deriving DecidableEq, Repr

/-- What reads from tokens. -/
abbrev ExpressionReader := StateT (List String) (Except ExpressionFault) String

/-- The number that a value is. -/
def numberOf? (text : String) : Option Int :=
  match text.toList with
  | '-' :: digits => (Text.Decimal.digits? digits).map fun number => -Int.ofNat number
  | digits => (Text.Decimal.digits? digits).map Int.ofNat

/-- The number of a value that must be one. -/
def numberOf (text : String) : StateT (List String) (Except ExpressionFault) Int :=
  match numberOf? text with
  | some number => pure number
  | none => throw .noNumber

/-- The value is neither empty nor zero. -/
def isSomething (text : String) : Bool :=
  !text.isEmpty && numberOf? text != some 0

/-- The value of an answer. -/
def ofAnswer (answer : Bool) : String := if answer then "1" else "0"

/-- What a regular expression stands for at the beginning of a text: its first group, or the length.
-/
def matched (text expression : String) : ExpressionReader := do
  match Regular.ofText? .basic expression with
  | none => throw .misformed
  | some regular =>
      let hasGroup := 1 < (expression.splitOn "\\(").length
      match Regular.matchStart regular { text := text.toList } with
      | some found =>
          pure (if hasGroup then String.ofList (found.group text.toList 1) else toString found.stop)
      | none => pure (if hasGroup then "" else "0")

/-- The operators, by how strongly they hold. -/
def levels : List (List String) :=
  [["|"], ["&"], ["<", "<=", "=", "==", "!=", ">=", ">"], ["+", "-"], ["*", "/", "%"], [":"]]

/-- The value of an operator between two values. -/
def combine (operator left right : String) : ExpressionReader := do
  let compare (test : Int → Int → Bool) (order : String → String → Bool) : ExpressionReader :=
    pure (ofAnswer (match numberOf? left, numberOf? right with
      | some left, some right => test left right
      | _, _ => order left right))
  match operator with
  | "|" => pure (if isSomething left then left else if isSomething right then right else "0")
  | "&" => pure (if isSomething left && isSomething right then left else "0")
  | "<" => compare (· < ·) (· < ·)
  | "<=" => compare (· ≤ ·) fun left right => !(right < left)
  | "=" | "==" => compare (· == ·) (· == ·)
  | "!=" => compare (· != ·) (· != ·)
  | ">=" => compare (· ≥ ·) fun left right => !(left < right)
  | ">" => compare (· > ·) fun left right => right < left
  | "+" => do pure (toString ((← numberOf left) + (← numberOf right)))
  | "-" => do pure (toString ((← numberOf left) - (← numberOf right)))
  | "*" => do pure (toString ((← numberOf left) * (← numberOf right)))
  | "/" => do
      let left ← numberOf left
      let right ← numberOf right
      if right = 0 then throw .noNumber else pure (toString (left.tdiv right))
  | "%" => do
      let left ← numberOf left
      let right ← numberOf right
      if right = 0 then throw .noNumber else pure (toString (left.tmod right))
  | _ => matched left right

/-- Takes a token, which must be there. -/
def takeToken : ExpressionReader := do
  match ← get with
  | [] => throw .misformed
  | token :: rest => do
      set rest
      pure token

mutual

/-- Reads an expression of the operators that are given, from the weakest on. -/
def readLevel : Nat → List (List String) → ExpressionReader
  | 0, _ => throw .misformed
  | fuel + 1, [] => readFactor fuel
  | fuel + 1, operators :: stronger => do
      let left ← readLevel fuel stronger
      readMore fuel operators stronger left

/-- Reads on after the left side of operators. -/
def readMore : Nat → List String → List (List String) → String → ExpressionReader
  | 0, _, _, _ => throw .misformed
  | fuel + 1, operators, stronger, left => do
      match ← get with
      | operator :: rest =>
          if operators.contains operator then do
            set rest
            let right ← readLevel fuel stronger
            let value ← combine operator left right
            readMore fuel operators stronger value
          else pure left
      | [] => pure left

/-- Reads an expression in parentheses, a function with its arguments, or a single token. -/
def readFactor : Nat → ExpressionReader
  | 0 => throw .misformed
  | fuel + 1 => do
      match ← takeToken with
      | "(" => do
          let value ← readLevel fuel levels
          if (← takeToken) = ")" then pure value else throw .misformed
      | "+" => takeToken
      | "length" => do pure (toString (← readFactor fuel).length)
      | "match" => do
          let text ← readFactor fuel
          matched text (← readFactor fuel)
      | "index" => do
          let text ← readFactor fuel
          let letters := (← readFactor fuel).toList
          let before := text.toList.takeWhile fun letter => !letters.contains letter
          pure (if before.length = text.length then "0" else toString (before.length + 1))
      | "substr" => do
          let text ← readFactor fuel
          let start := (numberOf? (← readFactor fuel)).getD 0
          let count := (numberOf? (← readFactor fuel)).getD 0
          pure (if start < 1 || count < 1 then ""
            else String.ofList ((text.toList.drop (start.toNat - 1)).take count.toNat))
      | ")" => throw .misformed
      | token => pure token

end

/-- Writes the value of an expression. -/
def runExpr (arguments : List String) : Action Nat := do
  let arguments := if arguments.head? = some "--" then arguments.tail else arguments
  match (readLevel (16 * arguments.length + 16) levels).run arguments with
  | .ok (value, []) => do
      let written ← Action.answer (value ++ "\n")
      pure (if written != 0 then 3 else if isSomething value then 0 else 1)
  | .ok _ => refuse 2 "syntax error"
  | .error .misformed => refuse 2 "syntax error"
  | .error .noNumber => refuse 2 "non-integer argument"

end StaticMulticast.Host.Utility
