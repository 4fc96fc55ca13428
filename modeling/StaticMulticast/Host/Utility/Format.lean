import StaticMulticast.Host.Shell.Declaration
import StaticMulticast.Host.Shell.Word
import StaticMulticast.Text.Calendar
import StaticMulticast.Text.Fraction

/-!
# Formatted output

What `echo` and `printf` write. A format is used again as long as there are arguments for it. A
directive names a conversion, with flags, a width and a precision in front of it.
-/

namespace StaticMulticast.Host.Utility

open StaticMulticast.Host.Shell (leadingDigits)

/-! ## Escapes -/

/-- Who writes: a shell of the plain or the extended language, or a program. -/
inductive Writer where
  | plain
  | extended
  | program
deriving DecidableEq, Repr

/-- Where an escape stands: in a format, in an argument of a format, or in a word of `echo`. -/
inductive EscapePlace where
  | format
  | argument
  | word
deriving DecidableEq, Repr

/-- Text after escapes have been replaced, and whether an escape ends all output. -/
structure Unescaped where
  text : List Char
  isEnd : Bool := false

/-- The characters that a letter behind a backslash stands for. -/
def escapedLetter? (writer : Writer) (place : EscapePlace) (letter : Char) : Option Char :=
  match letter with
  | 'a' => some (Char.ofNat 7)
  | 'b' => some (Char.ofNat 8)
  | 'e' => some (Char.ofNat 27)
  | 'E' => if writer = .extended then some (Char.ofNat 27) else none
  | 'f' => some (Char.ofNat 12)
  | 'n' => some '\n'
  | 'r' => some '\r'
  | 't' => some '\t'
  | 'v' => some (Char.ofNat 11)
  | '\\' => some '\\'
  | '"' => if place = .format && writer != .plain then some letter else none
  | '\'' | '?' => if place = .format && writer = .extended then some letter else none
  | _ => none

/-- The greatest number of octal digits behind a backslash. -/
def mostOctalDigits (writer : Writer) (place : EscapePlace) (digits : List Char) : Nat :=
  let hasZero := digits.head? = some '0'
  match place with
  | .format => 3
  | .argument => if hasZero then 4 else 3
  | .word => if hasZero then 4 else if writer = .extended then 0 else 3

/-- What stands for an escape, and the characters after it. The backslash has been taken. -/
def replaceEscape (writer : Writer) (place : EscapePlace) (text : List Char) :
    List Char × List Char :=
  match text with
  | [] => (['\\'], [])
  | letter :: rest =>
      match escapedLetter? writer place letter with
      | some meant => ([meant], rest)
      | none =>
          let inBase (base most : Nat) (digits : List Char) : Option (Nat × List Char) :=
            let (value, after) := leadingDigits base most digits
            if after.length = digits.length then none else some (value, after)
          let isCode := writer = .extended && (letter = 'u' || letter = 'U')
          let result :=
            if letter = 'x' && writer != .plain then
              (inBase 16 2 rest).map fun (value, after) => ([Char.ofNat (value % 256)], after)
            else if isCode then
              (inBase 16 (if letter = 'u' then 4 else 8) rest).map fun (value, after) =>
                (Shell.encoded value, after)
            else
              (inBase 8 (mostOctalDigits writer place text) text).map fun (value, after) =>
                ([Char.ofNat (value % 256)], after)
          result.getD (['\\', letter], rest)

/-- Replaces escapes. The bound is on their number. -/
def unescape (writer : Writer) (place : EscapePlace) : Nat → List Char → List Char → Unescaped
  | 0, done, _ => ⟨done.reverse, false⟩
  | bound + 1, done, text =>
      let (plain, rest) := text.span (· != '\\')
      let done := plain.reverse ++ done
      match rest with
      | [] => ⟨done.reverse, false⟩
      | [_] => ⟨('\\' :: done).reverse, false⟩
      | _ :: letter :: after =>
          if letter = 'c' && place != .format then ⟨done.reverse, true⟩
          else
            let (meant, after) := replaceEscape writer place (letter :: after)
            unescape writer place bound (meant.reverse ++ done) after

/-- Replaces the escapes of a text. -/
def unescaped (writer : Writer) (place : EscapePlace) (text : String) : Unescaped :=
  unescape writer place (text.length + 1) [] text.toList

/-! ## Simple output -/

/-- The options of `echo` at the front of words: whether a line is ended, and whether escapes are
replaced. -/
def echoOptions (ends escapes : Bool) : List String → Bool × Bool × List String
  | [] => (ends, escapes, [])
  | word :: rest =>
      match word.toList with
      | '-' :: first :: letters =>
          let letters := first :: letters
          if letters.all ['n', 'e', 'E'].contains then
            let ends := ends && !letters.contains 'n'
            let escapes := letters.foldl
              (fun escapes letter =>
                if letter = 'e' then true else if letter = 'E' then false else escapes) escapes
            echoOptions ends escapes rest
          else (ends, escapes, word :: rest)
      | _ => (ends, escapes, word :: rest)

/-- What `echo` writes. In the plain language it has one option, and escapes are always replaced. In the
others they can be wanted from the beginning. -/
def echoText (writer : Writer) (escapes : Bool) (words : List String) : String :=
  let (ends, escapes, words) :=
    if writer != .plain then echoOptions true escapes words
    else match words with
    | "-n" :: rest => (false, true, rest)
    | _ => (true, true, words)
  let text := String.intercalate " " words
  if escapes then
    let result := unescaped writer .word text
    String.ofList result.text ++ if ends && !result.isEnd then "\n" else ""
  else text ++ if ends then "\n" else ""

/-! ## Directives -/

/-- A part of a format: text, or a directive. -/
inductive FormatPart where
  | text (text : List Char) (isEnd : Bool)
  /-- The width and the precision may be taken from the arguments. A conversion that is missing is a
  zero character. -/
  | directive (flags : List Char) (width precision : Option (Option Nat)) (conversion : Char)
      (text : List Char)
  /-- A moment in a format of its own. -/
  | moment (flags : List Char) (width : Option (Option Nat)) (format : List Char)

/-- A width or a precision, and what follows: a number, or an asterisk for an argument. -/
def readExtent (text : List Char) : Option (Option Nat) × List Char :=
  match text with
  | '*' :: rest => (some none, rest)
  | _ =>
      let (digits, rest) := text.span Char.isDigit
      if digits.isEmpty then (none, text) else (some (String.ofList digits).toNat?, rest)

/-- The parts of a format. The bound is on their number. -/
def formatParts (writer : Writer) : Nat → List Char → List FormatPart
  | 0, _ => []
  | _ + 1, [] => []
  | bound + 1, '%' :: '%' :: rest => .text ['%'] false :: formatParts writer bound rest
  | bound + 1, '%' :: start =>
      let (flags, rest) := start.span fun letter =>
        ['-', '+', ' ', '#', '0'].contains letter || (letter = '\'' && writer != .plain)
      let (width, rest) := readExtent rest
      let (precision, rest) := match rest with
        | '.' :: rest =>
            let (precision, rest) := readExtent rest
            (some (precision.getD (some 0)), rest)
        | _ => (none, rest)
      let rest := if writer = .plain then rest
        else rest.dropWhile ['l', 'h', 'j', 'z', 't', 'L'].contains
      let taken (rest : List Char) : List Char := '%' :: start.take (start.length - rest.length)
      let momentEnd (rest : List Char) : Option (List Char × List Char) :=
        match rest.span (· != ')') with
        | (format, ')' :: 'T' :: after) => some (format, after)
        | _ => none
      match rest with
      | [] => [.directive flags width precision (Char.ofNat 0) (taken [])]
      | conversion :: rest =>
        match if conversion = '(' && writer = .extended then momentEnd rest else none with
        | some (format, after) =>
          .moment flags width format :: formatParts writer bound after
        | none =>
          .directive flags width precision conversion (taken rest) :: formatParts writer bound rest
  | bound + 1, text =>
      let (plain, rest) := text.span (· != '%')
      let result := unescape writer .format (plain.length + 1) [] plain
      .text result.text result.isEnd :: formatParts writer bound rest

/-! ## Conversions -/

/-- What is wrong with an argument for a number. -/
inductive NumberFault where
  | none
  /-- No number is there. -/
  | absent
  /-- Something stands behind the number. -/
  | followed
  /-- The number is too great. -/
  | great
  /-- More stands behind the character whose number is meant. -/
  | more (rest : List Char)
deriving DecidableEq, Repr

/-- The character whose number an argument means, behind a quotation mark. -/
def quotedCharacter? (writer : Writer) (argument : String) : Option (Nat × NumberFault) :=
  match argument.toList with
  | mark :: rest =>
      if mark != '\'' && mark != '"' then none
      else match rest with
      | [] => some (0, if writer = .program then .absent else .none)
      | [letter] => some (letter.toNat, .none)
      | letter :: others => some (letter.toNat, if writer = .program then .more others else .none)
  | [] => none

/-- The number at the front of an argument, and what is wrong with it. A number without a sign can be
greater than one with a sign. -/
def argumentNumber (writer : Writer) (isSigned : Bool) (argument : String) : Int × NumberFault :=
  match quotedCharacter? writer argument with
  | some (number, fault) => (Int.ofNat number, fault)
  | none =>
      let text := argument.toList.dropWhile [' ', '\t', '\n'].contains
      let (isNegative, digits) := match text with
        | '-' :: rest => (true, rest)
        | '+' :: rest => (false, rest)
        | _ => (false, text)
      let inSixteen (digits : List Char) : Bool :=
        (digits.head?).any fun letter => (Text.Fraction.sixteenthDigit? letter).isSome
      let (base, digits) := match digits with
        | '0' :: mark :: rest =>
            if (mark = 'x' || mark = 'X') && inSixteen rest then (16, rest)
            else (8, '0' :: mark :: rest)
        | ['0'] => (8, digits)
        | _ => (10, digits)
      let (value, rest) := leadingDigits base digits.length digits
      let most : Nat := if !isSigned then 0xFFFFFFFFFFFFFFFF
        else if isNegative then 0x8000000000000000 else 0x7FFFFFFFFFFFFFFF
      let fault : NumberFault := if argument.isEmpty then .none
        else if rest.length = digits.length then .absent
        else if !rest.isEmpty then .followed
        else if most < value then .great else .none
      let number := Int.ofNat (min value most)
      (if !isNegative then number else if most < value && !isSigned then number else -number, fault)

/-- Puts blanks or zeros to a text until it has a width. -/
def padTo (flags : List Char) (width : Nat) (zeros : Bool) (text : String) : String :=
  let missing := width - text.length
  if flags.contains '-' then text ++ String.ofList (List.replicate missing ' ')
  else if zeros && flags.contains '0' then
    let sign := text.toList.takeWhile ['-', '+', ' '].contains
    let sign := match text.toList.drop sign.length with
      | '0' :: 'x' :: _ => sign ++ ['0', 'x']
      | '0' :: 'X' :: _ => sign ++ ['0', 'X']
      | _ => sign
    String.ofList (sign ++ List.replicate missing '0' ++ text.toList.drop sign.length)
  else String.ofList (List.replicate missing ' ') ++ text

/-- The digits of a number, at least so many. -/
def digitsAtLeast (precision : Option Nat) (digits : String) : String :=
  String.ofList (List.replicate (precision.getD 1 - digits.length) '0') ++ digits

/-- The text of a number for a conversion. -/
def numberText (flags : List Char) (precision : Option Nat) (conversion : Char) (value : Int) :
    String :=
  let unsigned := (value % 0x10000000000000000).toNat
  let isMarked := flags.contains '#' && unsigned != 0
  match conversion with
  | 'o' => (if isMarked then "0" else "") ++
      digitsAtLeast precision (String.ofList (Nat.toDigits 8 unsigned))
  | 'x' => (if isMarked then "0x" else "") ++
      digitsAtLeast precision (String.ofList (Nat.toDigits 16 unsigned))
  | 'X' => (if isMarked then "0X" else "") ++
      digitsAtLeast precision (String.ofList ((Nat.toDigits 16 unsigned).map Char.toUpper))
  | 'u' => digitsAtLeast precision (toString unsigned)
  | _ =>
      let value := min value 0x7FFFFFFFFFFFFFFF
      let sign := if value < 0 then "-" else if flags.contains '+' then "+"
        else if flags.contains ' ' then " " else ""
      sign ++ digitsAtLeast precision (toString value.natAbs)

/-- The text of a number with a fraction for a conversion. -/
def fractionText (flags : List Char) (precision : Option Nat) (conversion : Char) (value : Rat) :
    String :=
  let sign := if value < 0 then "-" else if flags.contains '+' then "+"
    else if flags.contains ' ' then " " else ""
  let value := if value < 0 then -value else value
  let precision := precision.getD 6
  sign ++ match conversion with
    | 'f' | 'F' => Text.Fraction.fixed precision value
    | 'e' => Text.Fraction.scientific 'e' precision value
    | 'E' => Text.Fraction.scientific 'E' precision value
    | 'G' => Text.Fraction.general 'E' precision (flags.contains '#') value
    | _ => Text.Fraction.general 'e' precision (flags.contains '#') value

/-- The text of an argument for a number with a fraction, and what is wrong with it. A shell of the
plain language keeps fewer binary digits. -/
def argumentFraction (writer : Writer) (flags : List Char) (precision : Option Nat)
    (conversion : Char) (argument : String) : String × NumberFault :=
  let count := if writer = .plain then 53 else 64
  let shown (value : Rat) : String :=
    let value := Text.Fraction.roundedTo count value
    if conversion != 'a' && conversion != 'A' then fractionText flags precision conversion value
    else
      let size := if value < 0 then -value else value
      let text := Text.Fraction.sixteenths count (if writer = .plain then 1 else 4) size
      let text := if value < 0 then "-" ++ text else text
      if conversion = 'A' then String.ofList (text.toList.map Char.toUpper) else text
  match quotedCharacter? writer argument with
  | some (number, fault) => (shown number, fault)
  | none =>
      let text := argument.toList.dropWhile [' ', '\t', '\n'].contains
      let (sign, text) := match text with
        | '-' :: rest => ("-", rest)
        | '+' :: rest => (if flags.contains '+' then "+" else "", rest)
        | _ => (if flags.contains '+' then "+" else "", text)
      let word := (["infinity", "inf", "nan"].find? fun word =>
        word.toList.isPrefixOf (text.map Char.toLower))
      let ended (rest : List Char) : NumberFault := if rest.isEmpty then .none else .followed
      match word with
      | some word =>
          let name := if word = "nan" then "nan" else "inf"
          let name := if conversion.isUpper then String.ofList (name.toList.map Char.toUpper) else name
          (sign ++ name, ended (text.drop word.length))
      | none =>
          match Text.Fraction.readAny? 0 text with
          | some (value, rest) => (shown (if sign = "-" then -value else value), ended rest)
          | none => (shown 0, if argument.isEmpty then .none else .absent)

/-- A text as a program tells it, with quotes around it if it needs them. -/
def toldWord (text : String) : String :=
  let isUsual (letter : Char) : Bool := letter.isAlphanum || "%+,-./:=@_^".toList.contains letter
  let isOpen (letter : Char) : Bool := ['"', '$', '\\', Shell.backquote].contains letter
  if !text.isEmpty && text.toList.all isUsual then text
  else if text.toList.contains '\'' && !text.toList.any isOpen then "\"" ++ text ++ "\""
  else Shell.inQuotes text

/-- A text with quotes around it, so that a shell reads it as one word. -/
def quotedWord (writer : Writer) (text : String) : String :=
  let isPlain (character : Char) : Bool :=
    character.isAlphanum || ['_', '-', '.', '/', ':', '=', '@', '%', '+', '~', '#'].contains character
  let escaped : List Char → List Char := List.flatMap fun character =>
    if isPlain character then [character] else ['\\', character]
  if writer = .program then toldWord text
  else if text.isEmpty then "''"
  else if text.toList.any Shell.isUnseen then Shell.withEscapedLetters text
  else match text.toList with
  | first :: rest =>
      String.ofList ((if first = '~' || first = '#' then ['\\', first] else escaped [first]) ++
        escaped rest)
  | [] => ""

/-- What a format brings about: text that is written, or a message. -/
inductive Outcome where
  | text (text : String)
  | message (text : String)

/-- What has been written, how the command will end, and the arguments that are left. -/
structure Formatting where
  outcomes : List Outcome := []
  status : Nat := 0
  arguments : List String
  isEnd : Bool := false
  /-- Some argument has been asked for. -/
  takes : Bool := false
  /-- The present time and that at which the shell has started, in seconds. -/
  now : Int := 0
  start : Int := 0

namespace Formatting

/-- Takes the next argument. -/
def next (state : Formatting) : String × Formatting :=
  (state.arguments.headD "", { state with arguments := state.arguments.tail, takes := true })

/-- Takes a width or a precision. -/
def extent (writer : Writer) (state : Formatting) :
    Option (Option Nat) → Option Int × Formatting
  | none => (none, state)
  | some (some number) => (some number, state)
  | some none =>
      let (argument, state) := state.next
      (some (argumentNumber writer true argument).1, state)

/-- Writes a text. -/
def write (state : Formatting) (text : String) : Formatting :=
  { state with outcomes := .text text :: state.outcomes }

/-- Tells a message. -/
def tell (state : Formatting) (text : String) : Formatting :=
  { state with outcomes := .message text :: state.outcomes }

/-- Tells what is wrong with an argument for a number. -/
def judge (writer : Writer) (state : Formatting) (argument : String) (fault : NumberFault) :
    Formatting :=
  let failed (text : String) : Formatting :=
    { state.tell (match writer with
        | .plain => argument ++ ": " ++ text
        | .program => "'" ++ argument.replace "'" "\\'" ++ "': " ++ text
        | .extended => text) with status := 1 }
  let invalid (text : String) : Formatting :=
    if writer != .extended then failed text
    else failed (argument ++ ": invalid " ++ (match argument.toList with
      | '0' :: mark :: _ =>
          if mark.isDigit then "octal "
          else if mark = 'x' || mark = 'X' then "hex " else ""
      | _ => "") ++ "number")
  match fault with
  | .none => state
  | .absent => invalid (if writer = .plain then "expected numeric value"
      else "expected a numeric value")
  | .followed => invalid (if writer = .plain then "not completely converted"
      else "value not completely converted")
  | .great =>
      let text := "Numerical result out of range"
      if writer = .extended then state.tell ("warning: " ++ argument ++ ": " ++ text) else failed text
  | .more rest => state.tell ("warning: " ++ String.ofList rest ++
      ": character(s) following character constant have been ignored")

/-- Tells that a directive cannot be used, and ends the output. -/
def refuse (writer : Writer) (state : Formatting) (conversion : Char) (text : List Char) :
    Formatting :=
  let shown := String.ofList text
  let isMissing := conversion.toNat = 0
  { state.tell (match writer with
      | .plain => if isMissing then "missing format character" else shown ++ ": invalid directive"
      | .extended =>
          if isMissing then Shell.inOldQuotes shown ++ ": missing format character"
          else Shell.inOldQuotes (String.singleton conversion) ++ ": invalid format character"
      | .program => shown ++ ": invalid conversion specification") with
    status := if writer = .plain then 2 else 1
    isEnd := true }

/-- A directive of a program has a flag or a precision that its conversion cannot have. -/
def isRefused (writer : Writer) (flags : List Char) (hasPrecision : Bool) (conversion : Char) :
    Bool :=
  let isOne (letters : String) : Bool := letters.toList.contains conversion
  writer = .program &&
    ((flags.contains '0' && isOne "cs") || (flags.contains '#' && isOne "cdisu") ||
      (flags.contains '\'' && isOne "aAceEosxX") || (hasPrecision && isOne "c"))

/-- Writes a directive. -/
def direct (writer : Writer) (state : Formatting) (flags : List Char)
    (extents : Option (Option Nat) × Option (Option Nat)) (conversion : Char) (source : List Char) :
    Formatting :=
  let (width, state) := state.extent writer extents.1
  let (precision, state) := state.extent writer extents.2
  let isRefused := isRefused writer flags precision.isSome conversion ||
    (writer = .program && conversion = 'q' && 2 < source.length)
  let flags := if width.any (· < 0) then '-' :: flags else flags
  let width := (width.map Int.natAbs).getD 0
  let precision := (precision.filter (0 ≤ ·)).map Int.toNat
  let finish (state : Formatting) (zeros : Bool) (text : String) : Formatting :=
    state.write (padTo flags width zeros text)
  let cut (text : String) : String := match precision with
    | some length => String.ofList (text.toList.take length)
    | none => text
  let hasArgument := !state.arguments.isEmpty
  let isOne (letters : String) : Bool := letters.toList.contains conversion
  let (argument, after) := state.next
  let judged (fault : NumberFault) : Formatting :=
    if hasArgument then after.judge writer argument fault else after
  if isRefused then state.refuse writer conversion source
  else if conversion = 's' then finish after false (cut argument)
  else if conversion = 'b' then
    let result := unescaped writer .argument argument
    { finish after false (cut (String.ofList result.text)) with isEnd := result.isEnd }
  else if conversion = 'c' then
    let none := if hasArgument then [Char.ofNat 0] else []
    finish after false (String.ofList (match argument.toList with
      | letter :: _ => [letter]
      | [] => none))
  else if conversion = 'q' && writer != .plain then
    finish after false (cut (quotedWord writer argument))
  else if conversion = 'Q' && writer = .extended then
    finish after false (quotedWord writer (cut argument))
  else if isOne "diouxX" then
    let (value, fault) := argumentNumber writer (isOne "di") argument
    finish (judged fault) precision.isNone (numberText flags precision conversion value)
  else if isOne "fFeEgGaA" then
    let (text, fault) := argumentFraction writer flags precision conversion argument
    finish (judged fault) true text
  else state.refuse writer conversion source

/-- Writes a part of a format. -/
def step (writer : Writer) (state : Formatting) (part : FormatPart) : Formatting :=
  if state.isEnd then state
  else match part with
  | .text text isEnd => { state.write (String.ofList text) with isEnd }
  | .moment flags width format =>
      let (width, state) := state.extent writer width
      let hasArgument := !state.arguments.isEmpty
      let (argument, state) := state.next
      let (value, fault) := argumentNumber writer true argument
      let state := if hasArgument then state.judge writer argument fault else state
      let seconds := if !hasArgument || value = -1 then state.now
        else if value = -2 then state.start
        else value
      let format := if format.isEmpty then "%X" else String.ofList format
      let text := Text.Calendar.format (.ofSeconds seconds 0) format
      state.write (padTo flags ((width.map Int.natAbs).getD 0) false text)
  | .directive flags width precision conversion text =>
      state.direct writer flags (width, precision) conversion text

/-- Uses a format as long as it takes arguments. The bound is on the number of times. -/
def useAll (writer : Writer) (parts : List FormatPart) : Nat → Formatting → Formatting
  | 0, state => state
  | bound + 1, state =>
      let state := parts.foldl (step writer) { state with takes := false }
      if state.isEnd || state.arguments.isEmpty then state
      else if state.takes then useAll writer parts bound state
      else if writer = .program then
        state.tell ("warning: ignoring excess arguments, starting with '" ++
          state.arguments.headD "" ++ "'")
      else state

end Formatting

/-- The order in which outcomes can be seen. Messages do not wait, but text does: in the plain
language until the end, and in the extended one until a line is full. The text that waits is given,
the last one first. -/
def inOrder (writer : Writer) : List String → List Outcome → List Outcome
  | held, [] => [.text (String.join held.reverse)]
  | held, .text text :: rest => inOrder writer (text :: held) rest
  | held, .message message :: rest =>
      let text := (String.join held.reverse).toList
      let line := match writer with
        | .plain => []
        | .extended => (text.reverse.dropWhile (· != '\n')).reverse
        | .program => text
      .text (String.ofList line) :: .message message ::
        inOrder writer [String.ofList (text.drop line.length)] rest

/-- What `printf` brings about, and its status. It is given the present time and that at which the
shell has started. -/
def formatted (writer : Writer) (now start : Int) (format : String) (arguments : List String) :
    List Outcome × Nat :=
  let parts := formatParts writer (format.length + 1) format.toList
  let state := Formatting.useAll writer parts (arguments.length + 1) { arguments, now, start }
  (inOrder writer [] state.outcomes.reverse, state.status)

/-- The text among outcomes. -/
def writtenText (outcomes : List Outcome) : String :=
  String.join (outcomes.map fun outcome => match outcome with
    | .text text => text
    | .message _ => "")

end StaticMulticast.Host.Utility
