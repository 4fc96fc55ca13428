import StaticMulticast.Host.Utility.Datum

/-!
# What scripts of statements hold

Values, and the octets that values are packed into.
-/

/-!
## Values of scripts of statements

A value is plain, a number or a text that can be used as either, or it leads to something. Whole
numbers are exact as long as they are not too great.
-/

namespace StaticMulticast.Host.Utility.Statement

/-- A value. -/
inductive Held where
  | plain (value : Datum)
  /-- The value leads to what stands at an address. -/
  | reference (address : Nat)
deriving Repr

namespace Held

/-- No value. -/
def nothing : Held := .plain .nothing

/-- A number. -/
def number (value : Rat) : Held := .plain (.number value)

/-- A text. -/
def text (text : String) : Held := .plain (.text text)

/-- A number that is not negative. -/
def count (number : Nat) : Held := .plain (.number number)

/-- The value of an answer. -/
def answer (isTrue : Bool) : Held :=
  if isTrue then .number 1 else .plain (.both "" 0)

/-- There is a value. -/
def isDefined : Held → Bool
  | .plain .nothing => false
  | _ => true

end Held

/-! ## Numbers -/

/-- Whole numbers between these bounds are exact. -/
def wholeLimits : Int × Int := (-9223372036854775808, 18446744073709551615)

/-- A whole number is exact. -/
def isExact (value : Rat) : Bool :=
  value.den = 1 && wholeLimits.1 ≤ value.num && value.num ≤ wholeLimits.2

/-- A number as precise as it can be. -/
def preciseNumber (value : Rat) : Rat :=
  if isExact value then value else Datum.limited value

/-- The text of a number. -/
def numberText (value : Rat) : String :=
  if isExact value then toString value.num
  else if Datum.unbounded ≤ value then "Inf"
  else if value ≤ -Datum.unbounded then "-Inf"
  else Datum.convertedNumber "%.15g" value

/-- The text of a plain value. -/
def datumText : Datum → String
  | .nothing => ""
  | .number value => numberText value
  | .text text | .both text _ => text

/-- The number at the front of a text. -/
def textNumber (text : String) : Rat :=
  let letters := text.toList.dropWhile Char.isWhitespace
  let (sign, digits) : Rat × List Char := match letters with
    | '-' :: rest => (-1, rest)
    | '+' :: rest => (1, rest)
    | _ => (1, letters)
  match Text.Fraction.readUnsigned? digits with
  | some (value, _) => preciseNumber (sign * value)
  | none =>
      if "inf".toList.isPrefixOf (digits.map Char.toLower) then sign * Datum.unbounded else 0

/-- The number that a plain value stands for. -/
def datumNumber : Datum → Rat
  | .nothing => 0
  | .number value | .both _ value => value
  | .text text => textNumber text

/-- The plain value counts as true. -/
def isTrueDatum (value : Datum) : Bool :=
  match value with
  | .number value => value != 0
  | _ =>
      let text := datumText value
      !text.isEmpty && text != "0"

/-- A text looks like a number. -/
def looksNumeric (text : String) : Bool :=
  let letters := text.toList.dropWhile Char.isWhitespace
  let digits := match letters with
    | '-' :: rest | '+' :: rest => rest
    | _ => letters
  match Text.Fraction.readUnsigned? digits with
  | some (_, rest) => rest.all Char.isWhitespace
  | none =>
      let word := String.ofList (digits.map Char.toLower)
      word = "inf" || word = "infinity" || word = "nan"

/-! ## Formats -/

/-- A directive of a format: which value it takes, if that is told, its flags, the numbers in it and
its letter. A number without a value is taken from the values. -/
structure Directive where
  place : Option Nat := none
  flags : List Char := []
  width : Option (Option Nat) := none
  precision : Option (Option Nat) := none
  isVersion : Bool := false
  letter : Char

/-- The directive at the front of a text behind its mark, and what follows. -/
def takeDirective? (text : List Char) : Option (Directive × List Char) := do
  let (digits, after) := text.span Char.isDigit
  let (place, text) : Option Nat × List Char := match after with
    | '$' :: rest => if digits.isEmpty then (none, text) else ((String.ofList digits).toNat?, rest)
    | _ => (none, text)
  let (flags, text) := text.span fun letter => "+- 0#".toList.contains letter
  let (isVersion, text) : Bool × List Char := match text with
    | 'v' :: rest => (true, rest)
    | _ => (false, text)
  let extent (text : List Char) : Option (Option Nat) × List Char :=
    match text with
    | '*' :: rest => (some none, rest)
    | _ =>
        let (digits, rest) := text.span Char.isDigit
        if digits.isEmpty then (none, text) else (some (String.ofList digits).toNat?, rest)
  let (width, text) := extent text
  let (precision, text) := match text with
    | '.' :: rest =>
        let (precision, rest) := extent rest
        (some (precision.getD (some 0)), rest)
    | _ => (none, text)
  let text := text.dropWhile fun letter => "hlqLV".toList.contains letter
  let letter ← text.head?
  if "csdiuoxXeEfFgGbB%".toList.contains letter then
    some ({ place, flags, width, precision, isVersion, letter }, text.tail)
  else none

/-- The digits of a number in base two. -/
def binaryDigits (value : Nat) : String :=
  String.ofList (Nat.toDigits 2 value)

/-- A text with something in front of it or behind it up to a width. -/
def widened (flags : List Char) (width : Nat) (canFill : Bool) (text : String) : String :=
  let missing := width - text.length
  if missing = 0 then text
  else if flags.contains '-' then text ++ String.ofList (List.replicate missing ' ')
  else if flags.contains '0' && canFill then
    let (sign, digits) := text.toList.span fun letter => letter = '-' || letter = '+'
    String.ofList (sign ++ List.replicate missing '0' ++ digits)
  else String.ofList (List.replicate missing ' ') ++ text

/-- The text of a value for a letter of a directive. -/
def directiveText (directive : Directive) (precision : Option Nat) (value : Datum) : String :=
  let number := datumNumber value
  let whole := Datum.truncated number
  let unsigned := (whole % 0x10000000000000000).toNat
  let atLeast (digits : String) : String :=
    String.ofList (List.replicate ((precision.getD 0) - digits.length) '0') ++ digits
  let hasMark := directive.flags.contains '#' && unsigned != 0
  match directive.letter with
  | 'c' => String.singleton (Char.ofNat ((whole % 0x110000).toNat))
  | 's' =>
      let text := datumText value
      match precision with
      | some length => String.ofList (text.toList.take length)
      | none => text
  | 'd' | 'i' =>
      if Datum.unbounded ≤ number || number ≤ -Datum.unbounded then
        if 0 < number then "-1" else "-9223372036854775808"
      else
        let sign := if whole < 0 then "-" else if directive.flags.contains '+' then "+"
          else if directive.flags.contains ' ' then " " else ""
        sign ++ atLeast (toString whole.natAbs)
  | 'u' => atLeast (toString unsigned)
  | 'o' => (if hasMark then "0" else "") ++ atLeast (String.ofList (Nat.toDigits 8 unsigned))
  | 'x' => (if hasMark then "0x" else "") ++ atLeast (String.ofList (Nat.toDigits 16 unsigned))
  | 'X' =>
      let digits := (Nat.toDigits 16 unsigned).map Char.toUpper
      (if hasMark then "0X" else "") ++ atLeast (String.ofList digits)
  | 'b' | 'B' => (if hasMark then "0b" else "") ++ atLeast (binaryDigits unsigned)
  | letter =>
      if Datum.unbounded ≤ number then "Inf"
      else if number ≤ -Datum.unbounded then "-Inf"
      else (Datum.numberFor directive.flags precision letter number).getD ""

/-- Values in a format. The bound is on the length of the format. -/
def filledFormat : Nat → List Char → List Datum → List Datum → List Char → List Char
  | 0, _, _, _, done => done.reverse
  | bound + 1, text, all, values, done =>
      match text with
      | [] => done.reverse
      | '%' :: rest =>
          match takeDirective? rest with
          | none => filledFormat bound rest all values ('%' :: done)
          | some (directive, rest) =>
              if directive.letter = '%' then filledFormat bound rest all values ('%' :: done)
              else
                let taken (extent : Option (Option Nat)) (values : List Datum) :
                    Option Int × List Datum :=
                  match extent with
                  | none => (none, values)
                  | some (some number) => (some number, values)
                  | some none =>
                      (some (Datum.truncated (datumNumber (values.headD .nothing))), values.tail)
                let (width, values) := taken directive.width values
                let (precision, values) := taken directive.precision values
                let (value, values) := match directive.place with
                  | some place => (all[place - 1]?.getD .nothing, values)
                  | none => (values.headD .nothing, values.tail)
                let precision := (precision.filter (0 ≤ ·)).map Int.toNat
                let flags := if width.any (· < 0) then '-' :: directive.flags else directive.flags
                let text := if directive.isVersion then
                    String.intercalate "." ((datumText value).toList.map fun letter =>
                      directiveText { directive with flags } precision (.number letter.toNat))
                  else directiveText { directive with flags } precision value
                let isWhole := "diuoxXbB".toList.contains directive.letter
                let canFill := !(isWhole && precision.isSome)
                let text := widened flags ((width.map Int.natAbs).getD 0) canFill text
                filledFormat bound rest all values (text.toList.reverse ++ done)
      | letter :: rest => filledFormat bound rest all values (letter :: done)

/-- Values in a format. -/
def formatted (format : String) (values : List Datum) : String :=
  String.ofList (filledFormat (format.length + 1) format.toList values values [])

/-! ## Operators -/

/-- The remainder of whole numbers, with the sign of the second. -/
def remainderOf (first second : Int) : Int :=
  let rest := first % second
  if second < 0 && rest != 0 then rest + second else rest

/-- The order of two plain values, as numbers or as texts. -/
def orderOf (isText : Bool) (first second : Datum) : Ordering :=
  if isText then compare (datumText first) (datumText second)
  else
    let first := datumNumber first
    let second := datumNumber second
    if first < second then .lt else if first = second then .eq else .gt

/-- What an operator that compares numbers says about an order. -/
def comparedNumbers? (operator : String) (order : Ordering) : Option Held :=
  match operator with
  | "==" => some (.answer (order = .eq))
  | "!=" => some (.answer (order != .eq))
  | "<" => some (.answer (order = .lt))
  | ">" => some (.answer (order = .gt))
  | "<=" => some (.answer (order != .gt))
  | ">=" => some (.answer (order != .lt))
  | "<=>" => some (.number (signOf order))
  | _ => none
where
  /-- The sign of an order. -/
  signOf : Ordering → Rat
    | .lt => -1
    | .eq => 0
    | .gt => 1

/-- The operator on numbers that an operator on texts is like. -/
def textComparison? (operator : String) : Option String :=
  [("eq", "=="), ("ne", "!="), ("lt", "<"), ("gt", ">"), ("le", "<="), ("ge", ">="),
    ("cmp", "<=>")].lookup operator

/-- The result of a comparison, if the operator is one. -/
def compared? (operator : String) (first second : Datum) : Option Held :=
  if ["==", "!=", "<", ">", "<=", ">=", "<=>"].contains operator then
    comparedNumbers? operator (orderOf false first second)
  else (textComparison? operator).bind fun operator =>
    comparedNumbers? operator (orderOf true first second)

/-- The greatest length of a text that is made by repeating another one. -/
def longestText : Nat := 10000000

/-- The whole number of sixty-four binary digits that a value is. -/
def bitsOf (value : Datum) : Nat :=
  (Datum.truncated (datumNumber value) % 0x10000000000000000).toNat

/-- The result of an operator on the characters of two texts. -/
def textBits (operation : Nat → Nat → Nat) (first second : String) : String :=
  let size := max first.length second.length
  let padded (text : String) : List Nat :=
    (text.toList.map Char.toNat) ++ List.replicate (size - text.length) 0
  String.ofList (List.zipWith (fun first second => Char.ofNat (operation first second))
    (padded first) (padded second))

/-- Both values are texts. -/
def areTexts : Datum → Datum → Bool
  | .text _, .text _ => true
  | _, _ => false

/-- A power. One that is not counted exactly is written with a power of ten. -/
def powerOf (base exponent : Rat) : Held :=
  let value := Datum.powerOf base exponent
  let isWhole := base.den = 1 && exponent.den = 1 && 0 ≤ exponent
  let size := base.num.natAbs
  let isPowerOfTwo := size != 0 && Nat.pow 2 (Nat.log2 size) = size
  let isSmall := (Nat.log2 size + 1) * exponent.num.natAbs ≤ 64
  let isGreat := (9007199254740992 : Nat) ≤ (if value < 0 then -value else value)
  if isWhole && isExact value && ((isSmall && !isPowerOfTwo) || !isGreat) then .number value
  else
    let value := Datum.limited value
    if isExact value && isGreat then
      .plain (.both (Datum.convertedNumber "%.15g" value) value)
    else .number value

/-- The result of an operator on numbers, or the message of a failure. -/
def calculated? (operator : String) (a b : Rat) : Option (Except String Held) :=
  match operator with
  | "+" => some (.ok (.number (preciseNumber (a + b))))
  | "-" => some (.ok (.number (preciseNumber (a - b))))
  | "*" => some (.ok (.number (preciseNumber (a * b))))
  | "/" =>
      some (if b = 0 then .error "Illegal division by zero"
        else .ok (.number (preciseNumber (a / b))))
  | "%" =>
      some (if Datum.truncated b = 0 then .error "Illegal modulus zero"
        else .ok (.number (remainderOf (Datum.truncated a) (Datum.truncated b))))
  | "**" => some (.ok (powerOf a b))
  | _ => none

/-- A number whose binary digits are moved to the left, or to the right. -/
def moved (bits : Nat) (shift : Int) : Held :=
  .count (if shift < 0 then (if shift ≤ -64 then 0 else bits >>> shift.natAbs)
    else if 64 ≤ shift then 0
    else (bits <<< shift.toNat) % 0x10000000000000000)

/-- The result of an operator with two operands, or the message of a failure. -/
def operated (operator : String) (first second : Datum) : Except String Held :=
  match operator with
  | "." => .ok (.text (datumText first ++ datumText second))
  | "x" =>
      let text := datumText first
      let count := Datum.truncated (datumNumber second)
      let count := min count.toNat (longestText / (text.length + 1))
      .ok (.text (String.join (List.replicate count text)))
  | "<<" => .ok (moved (bitsOf first) (Datum.truncated (datumNumber second)))
  | ">>" => .ok (moved (bitsOf first) (-(Datum.truncated (datumNumber second))))
  | "&" =>
      if areTexts first second then
        let size := min (datumText first).length (datumText second).length
        let cut (text : String) : String := String.ofList (text.toList.take size)
        .ok (.text (textBits (· &&& ·) (cut (datumText first)) (cut (datumText second))))
      else .ok (.count (bitsOf first &&& bitsOf second))
  | "|" =>
      if areTexts first second then
        .ok (.text (textBits (· ||| ·) (datumText first) (datumText second)))
      else .ok (.count (bitsOf first ||| bitsOf second))
  | "^" =>
      if areTexts first second then
        .ok (.text (textBits (· ^^^ ·) (datumText first) (datumText second)))
      else .ok (.count (bitsOf first ^^^ bitsOf second))
  | operator =>
      match compared? operator first second with
      | some result => .ok result
      | none =>
          (calculated? operator (datumNumber first) (datumNumber second)).getD
            (.error "no such operator")

/-! ## Counting up texts -/

/-- The letters after others, in reverse, with what is carried to the front. -/
def nextLetters : List Char → List Char
  | [] => []
  | letter :: rest =>
      if letter = 'z' then
        'a' :: (if rest.isEmpty then ['a'] else nextLetters rest)
      else if letter = 'Z' then
        'A' :: (if rest.isEmpty then ['A'] else nextLetters rest)
      else if letter = '9' then
        '0' :: (if rest.isEmpty then ['1'] else nextLetters rest)
      else Char.ofNat (letter.toNat + 1) :: rest

/-- A text is letters and then digits, which are counted up like a number. -/
def isCountable (text : String) : Bool :=
  let digits := text.toList.dropWhile Char.isAlpha
  !text.isEmpty && digits.all Char.isDigit && digits.length < text.length

/-- The text after another one. -/
def nextText (text : String) : String :=
  String.ofList (nextLetters text.toList.reverse).reverse

/-- The texts from one to another, or up to those that are longer. The bound is on their number. -/
def textRange (last : String) : Nat → String → List String
  | 0, _ => []
  | bound + 1, text =>
      if last.length < text.length then []
      else if text = last then [text]
      else text :: textRange last bound (nextText text)

/-! ## Parts of texts -/

/-- The place at which a text is found in another one, from a place on, or minus one. -/
def placeOf (wanted : List Char) : Nat → List Char → Int
  | place, [] => if wanted.isEmpty then place else -1
  | place, letter :: rest =>
      if wanted.isPrefixOf (letter :: rest) then place else placeOf wanted (place + 1) rest

/-- The last place at which a text is found in another one, at most so far, or minus one. -/
def lastPlaceOf (wanted text : List Char) : Nat → Int
  | 0 => if wanted.isPrefixOf text then 0 else -1
  | place + 1 =>
      if wanted.isPrefixOf (text.drop (place + 1)) then Int.ofNat (place + 1)
      else lastPlaceOf wanted text place

/-- Where a part of a text of some length begins and how long it is, if it begins in the text.
Negative numbers count from the end. -/
def partBounds? (size : Nat) (start : Int) (length : Option Int) : Option (Nat × Nat) :=
  let first := if start < 0 then Int.ofNat size + start else start
  let last := match length with
    | none => Int.ofNat size
    | some length => if length < 0 then Int.ofNat size + length else first + length
  if Int.ofNat size < first || (first < 0 && last < 0) then none
  else
    let first := (max 0 first).toNat
    let last := (min (Int.ofNat size) last).toNat
    some (first, last - first)

/-- The letters that a text with ranges names. -/
def namedLetters : List Char → List Char
  | '\\' :: 'n' :: rest => withRange '\n' rest
  | '\\' :: 't' :: rest => withRange '\t' rest
  | '\\' :: 'r' :: rest => withRange '\r' rest
  | '\\' :: '0' :: rest => withRange (Char.ofNat 0) rest
  | '\\' :: letter :: rest => withRange letter rest
  | letter :: rest => withRange letter rest
  | [] => []
where
  /-- The letters from one on, if a range follows, and those behind. -/
  withRange (first : Char) : List Char → List Char
    | '-' :: '\\' :: last :: rest => range first last ++ namedLetters rest
    | '-' :: last :: rest => range first last ++ namedLetters rest
    | rest => first :: namedLetters rest
  /-- The letters from one to another. -/
  range (first last : Char) : List Char :=
    (List.range (last.toNat + 1 - first.toNat)).map fun step => Char.ofNat (first.toNat + step)

/-- A text with letters in the place of others, and the number of those. -/
def translated (first second flags : String) (text : List Char) : List Char × Nat :=
  let wanted := namedLetters first.toList
  let others := namedLetters second.toList
  let deletes := flags.toList.contains 'd'
  let isOpposite := flags.toList.contains 'c'
  let squeezes := flags.toList.contains 's'
  let others := if others.isEmpty && !deletes then (if isOpposite then [] else wanted) else others
  let isMeant (letter : Char) : Bool := wanted.contains letter != isOpposite
  let replaced (letter : Char) : Option Char :=
    if isOpposite then
      if deletes then none else some (others.getLast?.getD letter)
    else match wanted.findIdx? (· == letter) with
      | none => some letter
      | some index =>
          match others[index]?, others.getLast? with
          | some other, _ => some other
          | none, some last => if deletes then none else some last
          | none, none => if deletes then none else some letter
  let (changed, _, count) := text.foldl (fun (state : List Char × Option Char × Nat) letter =>
    let (done, last, count) := state
    if isMeant letter then
      match replaced letter with
      | none => (done, last, count + 1)
      | some other =>
          if squeezes && last = some other then (done, last, count + 1)
          else (other :: done, some other, count + 1)
    else (letter :: done, none, count)) ([], none, 0)
  (changed.reverse, count)

end StaticMulticast.Host.Utility.Statement

/-!
## Packed values of scripts of statements

Values become characters and are read from them as a template says. A letter of it stands for a kind
of value, and a number or a star behind the letter for how many of them there are.
-/

namespace StaticMulticast.Host.Utility.Statement

/-- A part of a template: its letter, whether great octets come first, and how many values it stands
for. There are as many as possible if the number is missing, and a group has parts of its own. -/
structure TemplatePart where
  letter : Char
  isGreat : Bool := false
  count : Option Nat := some 1

/-- The parts of a template. The bound is on its length. -/
def templateParts : Nat → List Char → List TemplatePart
  | 0, _ => []
  | bound + 1, text =>
      match text with
      | [] => []
      | letter :: rest =>
          if letter.isWhitespace then templateParts bound rest
          else
            let (marks, rest) := rest.span fun mark => mark = '<' || mark = '>' || mark = '!'
            let isGreat := marks.contains '>'
            let rest := match rest with
              | '[' :: inside => inside.filter (· != ']')
              | _ => rest
            match rest with
            | '*' :: rest =>
                ⟨letter, isGreat, none⟩ :: templateParts bound rest
            | _ =>
                let (digits, rest) := rest.span Char.isDigit
                let count := (String.ofList digits).toNat?
                ⟨letter, isGreat, some (count.getD 1)⟩ :: templateParts bound rest

namespace TemplatePart

/-- The number of octets of a whole number, whether great octets come first, and whether it can be
negative, if the part stands for such numbers. -/
def size? (part : TemplatePart) : Option (Nat × Bool × Bool) :=
  match part.letter with
  | 'c' => some (1, false, true)
  | 'C' => some (1, false, false)
  | 's' => some (2, part.isGreat, true)
  | 'S' => some (2, part.isGreat, false)
  | 'l' | 'i' => some (4, part.isGreat, true)
  | 'L' | 'I' => some (4, part.isGreat, false)
  | 'q' | 'j' => some (8, part.isGreat, true)
  | 'Q' | 'J' => some (8, part.isGreat, false)
  | 'n' => some (2, true, false)
  | 'N' => some (4, true, false)
  | 'v' => some (2, false, false)
  | 'V' => some (4, false, false)
  | _ => none

end TemplatePart

/-- The octets of a number, the least one first. -/
def octetsOf : Nat → Nat → List Char
  | 0, _ => []
  | size + 1, value => Char.ofNat (value % 256) :: octetsOf size (value / 256)

/-- The number of octets, the least one first. -/
def ofOctets (octets : List Char) : Nat :=
  octets.foldr (fun octet sum => octet.toNat + 256 * sum) 0

/-- Characters up to a number of them, with others behind if there are too few. -/
def filledTo (filling : Char) (count : Option Nat) (letters : List Char) : List Char :=
  match count with
  | none => letters
  | some count => letters.take count ++ List.replicate (count - letters.length) filling

/-- Characters in groups of a size. The bound is on their number. -/
def groupsOf (size : Nat) : Nat → List Char → List (List Char)
  | 0, _ => []
  | bound + 1, letters =>
      if letters.isEmpty then []
      else letters.take size :: groupsOf size bound (letters.drop size)

/-- The character of digits in base two or sixteen. The first digit is the greatest one, or the
least. -/
def characterOfDigits (base size : Nat) (isGreat : Bool) (digits : List Char) : Char :=
  let worth (digit : Char) : Nat :=
    if digit.isDigit then digit.toNat - 48 else (digit.toLower.toNat - 87)
  let digits := digits ++ List.replicate (size - digits.length) '0'
  let ordered := if isGreat then digits else digits.reverse
  Char.ofNat (ordered.foldl (fun sum digit => sum * base + worth digit) 0 % 256)

/-- The digits of a character. -/
def digitsOfCharacter (base size : Nat) (isGreat : Bool) (letter : Char) : List Char :=
  let digits := Nat.toDigits base letter.toNat
  let digits := List.replicate (size - digits.length) '0' ++ digits
  if isGreat then digits else digits.reverse

/-- Values as characters. -/
def packed : List TemplatePart → List Datum → List Char
  | [], _ => []
  | part :: rest, values =>
      let text := (datumText (values.headD .nothing)).toList
      let digits (base size : Nat) (isGreat : Bool) : List Char :=
        let text := match part.count with
          | some count => text.take count
          | none => text
        (groupsOf size (text.length + 1) text).map (characterOfDigits base size isGreat)
      match part.letter with
      | 'A' => filledTo ' ' part.count text ++ packed rest values.tail
      | 'a' => filledTo (Char.ofNat 0) part.count text ++ packed rest values.tail
      | 'Z' =>
          let filled := match part.count with
            | none => text ++ [Char.ofNat 0]
            | some count => filledTo (Char.ofNat 0) (some count) (text.take (count - 1))
          filled ++ packed rest values.tail
      | 'H' => digits 16 2 true ++ packed rest values.tail
      | 'h' => digits 16 2 false ++ packed rest values.tail
      | 'B' => digits 2 8 true ++ packed rest values.tail
      | 'b' => digits 2 8 false ++ packed rest values.tail
      | 'x' => List.replicate (part.count.getD 0) (Char.ofNat 0) ++ packed rest values
      | _ =>
          let count := part.count.getD values.length
          let own := values.take count
          let one (value : Datum) : List Char :=
            let whole := Datum.truncated (datumNumber value)
            match part.size? with
            | some (size, isGreat, _) =>
                let octets := octetsOf size (whole % (Nat.pow 256 size : Nat)).toNat
                if isGreat then octets.reverse else octets
            | none => [Char.ofNat whole.toNat]
          own.flatMap one ++ packed rest (values.drop count)

/-- The whole number of octets. -/
def wholeOfOctets (isGreat isSigned : Bool) (octets : List Char) : Int :=
  let value := ofOctets (if isGreat then octets.reverse else octets)
  let bound := Nat.pow 256 octets.length
  if isSigned && bound ≤ 2 * value then Int.ofNat value - Int.ofNat bound else value

/-- The values that characters stand for. -/
def unpacked : List TemplatePart → List Char → List Held
  | [], _ => []
  | part :: rest, letters =>
      let count := part.count.getD letters.length
      let own := letters.take count
      let text (letters : List Char) : Held := .text (String.ofList letters)
      let digits (base size : Nat) (isGreat : Bool) : List Held :=
        let number := match part.count with
          | some count => (count + size - 1) / size
          | none => letters.length
        let all := (letters.take number).flatMap (digitsOfCharacter base size isGreat)
        let all := match part.count with
          | some count => all.take count
          | none => all
        text all :: unpacked rest (letters.drop number)
      let isBlank (letter : Char) : Bool := letter.isWhitespace || letter.toNat = 0
      match part.letter with
      | 'A' => text (own.reverse.dropWhile isBlank).reverse :: unpacked rest (letters.drop count)
      | 'a' => text own :: unpacked rest (letters.drop count)
      | 'Z' => text (own.takeWhile fun letter => letter.toNat != 0) ::
          unpacked rest (letters.drop count)
      | 'H' => digits 16 2 true
      | 'h' => digits 16 2 false
      | 'B' => digits 2 8 true
      | 'b' => digits 2 8 false
      | 'x' => unpacked rest (letters.drop count)
      | _ =>
          match part.size? with
          | some (size, isGreat, isSigned) =>
              let groups := groupsOf size (letters.length + 1) letters
              let whole := groups.filter fun group => group.length = size
              let taken := match part.count with
                | some count => whole.take count
                | none => whole
              (taken.map fun group => Held.number (wholeOfOctets isGreat isSigned group)) ++
                unpacked rest (letters.drop (size * taken.length))
          | none => (own.map fun letter => Held.count letter.toNat) ++
              unpacked rest (letters.drop count)

/-- The sum of the values that characters stand for, in so many binary digits, if a template asks
for one. -/
def unpackedBy (template : String) (letters : List Char) : List Held :=
  match template.toList with
  | '%' :: rest =>
      let (digits, rest) := rest.span Char.isDigit
      let bits := ((String.ofList digits).toNat?).getD 16
      let values := unpacked (templateParts (rest.length + 1) rest) letters
      let sum := values.foldl (fun sum value => match value with
        | .plain value => sum + datumNumber value
        | .reference _ => sum) 0
      [.number (Datum.truncated sum % Int.ofNat (Nat.pow 2 bits) : Int)]
  | template => unpacked (templateParts (template.length + 1) template) letters

end StaticMulticast.Host.Utility.Statement
