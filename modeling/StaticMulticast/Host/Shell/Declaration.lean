import StaticMulticast.Host.Process.Variable
import StaticMulticast.Host.Shell.Word

/-!
# Texts that can be read again

How a shell writes a text, or a whole variable, so that it can be read again as a part of a script.
-/

namespace StaticMulticast.Host.Shell

/-- The character cannot be seen. -/
def isUnseen (letter : Char) : Bool :=
  letter.toNat < 0x20 || 0x7E < letter.toNat

/-- A character as an escape, if it needs one. -/
def asEscape (letter : Char) : List Char :=
  match letter with
  | '\\' => ['\\', '\\']
  | '\'' => ['\\', '\'']
  | '\n' => ['\\', 'n']
  | '\t' => ['\\', 't']
  | '\r' => ['\\', 'r']
  | _ =>
      match letter.toNat with
      | 7 => ['\\', 'a']
      | 8 => ['\\', 'b']
      | 11 => ['\\', 'v']
      | 12 => ['\\', 'f']
      | 27 => ['\\', 'E']
      | number =>
          if isUnseen letter then
            let digits := Nat.toDigits 8 number
            '\\' :: (List.replicate (3 - digits.length) '0' ++ digits)
          else [letter]

/-- A text between quotes in which escapes have a meaning. -/
def withEscapedLetters (text : String) : String :=
  "$'" ++ String.ofList (text.toList.flatMap asEscape) ++ "'"

/-- A text between quotes, as a shell of the extended language reads it. -/
def inQuotes (text : String) : String :=
  if text.toList.any isUnseen then withEscapedLetters text
  else "'" ++ String.intercalate "'\\''" (text.splitOn "'") ++ "'"

/-- A text in double quotes, or in others if it has characters that cannot be seen. -/
def inDoubleQuotes (text : String) : String :=
  if text.toList.any isUnseen then withEscapedLetters text else
  let escaped := text.toList.flatMap fun letter =>
    if ['"', '\\', '$', backquote].contains letter then ['\\', letter] else [letter]
  "\"" ++ String.ofList escaped ++ "\""

/-- A text as it is written so that it can be read again: in single quotes in the plain language, and
in the extended one only if it needs them. -/
def shownValue (isExtended : Bool) (text : String) : String :=
  let isUsual (letter : Char) : Bool := letter.isAlphanum || "_-+=:,./@%^".toList.contains letter
  if !isExtended then
    String.intercalate "\"'\"" ((List.splitOnP (· == '\'') text.toList).map fun piece =>
      "'" ++ String.ofList piece ++ "'")
  else if text.toList.all isUsual then text
  else inQuotes text

/-- The letters of what is special about a variable. -/
def attributeLetters (binding : Binding) : String :=
  let kind := match binding.value with
    | .list _ => "a"
    | .table _ => "A"
    | _ => ""
  kind ++ (if binding.isNumber then "i" else "") ++ (if binding.isReference then "n" else "") ++
    (if binding.isFixed then "r" else "") ++ (if binding.isMarked then "t" else "") ++
    (if binding.isExported then "x" else "") ++ match binding.casing with
    | some .lower => "l"
    | some .upper => "u"
    | some .capital => "c"
    | none => ""

/-- The text has characters that mean something else than themselves in a script. -/
def hasMetas (text : String) : Bool :=
  let letters := text.toList
  letters.any (fun letter =>
    [' ', '\t', '\n', '\'', '"', '\\', '|', '&', ';', '(', ')', '<', '>', '!', '\x7b', '\x7d', '*',
      '[', ']', '?', '^', '$', backquote].contains letter) ||
    letters.head? = some '~' || letters.head? = some '#' ||
    (letters.zip letters.tail).any fun pair => (pair.1 = '=' || pair.1 = ':') && pair.2 = '~'

/-- A place of a table as it stands in brackets. -/
def shownPlace (place : String) : String :=
  if place.toList.any isUnseen then withEscapedLetters place
  else if hasMetas place || place = "@" then inDoubleQuotes place
  else place

/-- The value of a variable as it stands behind an equals sign. -/
def declaredValue : Value → String
  | .absent => ""
  | .single text => "=" ++ inDoubleQuotes text
  | .list members => "=(" ++ String.intercalate " " (members.map fun (place, text) =>
      "[" ++ toString place ++ "]=" ++ inDoubleQuotes text) ++ ")"
  | .table members => "=(" ++ String.join (members.map fun (place, text) =>
      "[" ++ shownPlace place ++ "]=" ++ inDoubleQuotes text ++ " ") ++ ")"

/-- A declaration that makes a variable what it is, without the end of its line. -/
def declaration (name : String) (binding : Binding) : String :=
  let letters := attributeLetters binding
  "declare -" ++ (if letters.isEmpty then "-" else letters) ++ " " ++ name ++
    (if binding.isBare then "" else declaredValue binding.value)

/-- An assignment that gives a variable its value, behind a declaration if it is special. -/
def assignment (name : String) (binding : Binding) (text : String) : String :=
  let letters := attributeLetters binding
  (if letters.isEmpty then "" else "declare -" ++ letters ++ " ") ++ name ++ "=" ++ inQuotes text

/-- The name and the place that a target of an assignment has. -/
def targetOf (target : String) : String × Option String :=
  match target.toList.span (· != '[') with
  | (_, []) => (target, none)
  | (name, inside) => (String.ofList name, some (String.ofList inside.tail.dropLast))

/-- The text is the name of a variable or, in the extended language, that of a member of a list. -/
def isTarget (isExtended : Bool) (target : String) : Bool :=
  let (name, place) := targetOf target
  isName name.toList &&
    (place.isNone || (isExtended && target.toList.getLast? = some ']' && place != some ""))

end StaticMulticast.Host.Shell
