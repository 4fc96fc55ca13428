import StaticMulticast.Text.Decimal

/-!
# Fractions in decimal

Reading the number at the front of a text, and writing a number with a wanted precision: with digits
behind a point, with a power of ten, or in the shorter of the two ways. A number that lies in the
middle between two texts goes to the one with an even last digit.
-/

namespace StaticMulticast.Text.Fraction

/-! ## Reading -/

/-- The power of ten with an exponent of either sign. -/
def powerOfTen : Int → Rat
  | .ofNat exponent => (Nat.pow 10 exponent : Nat)
  | .negSucc exponent => 1 / (Nat.pow 10 (exponent + 1) : Nat)

/-- The power of two with an exponent of either sign. -/
def powerOfTwo : Int → Rat
  | .ofNat exponent => (Nat.pow 2 exponent : Nat)
  | .negSucc exponent => 1 / (Nat.pow 2 (exponent + 1) : Nat)

/-- The greatest exponent that is read. -/
def greatestExponent : Nat := 400

/-- The exponent in front of a text, and what follows it. -/
def readExponent (text : List Char) : Int × List Char :=
  let read (sign : Int) (digits : List Char) : Int × List Char :=
    let (digits, rest) := digits.span Char.isDigit
    match Decimal.digits? digits with
    | some exponent => (sign * Int.ofNat (min exponent greatestExponent), rest)
    | none => (0, text)
  match text with
  | mark :: '-' :: rest => if mark = 'e' || mark = 'E' then read (-1) rest else (0, text)
  | mark :: '+' :: rest => if mark = 'e' || mark = 'E' then read 1 rest else (0, text)
  | mark :: rest => if mark = 'e' || mark = 'E' then read 1 rest else (0, text)
  | [] => (0, [])

/-- The number in front of a text without a sign, and what follows it, if there is one. -/
def readUnsigned? (text : List Char) : Option (Rat × List Char) :=
  let (digits, rest) := text.span Char.isDigit
  let (fraction, rest) := match rest with
    | '.' :: after => after.span Char.isDigit
    | _ => ([], rest)
  match Decimal.digits? (digits ++ fraction) with
  | none => none
  | some value =>
      let (exponent, rest) := readExponent rest
      some (value * powerOfTen (exponent - Int.ofNat fraction.length), rest)

/-- The number in front of a text, with a sign and blanks before it, and what follows it. -/
def read? (text : List Char) : Option (Rat × List Char) :=
  match text.dropWhile fun letter => [' ', '\t', '\n'].contains letter with
  | '-' :: rest => (readUnsigned? rest).map fun (value, rest) => (-value, rest)
  | '+' :: rest => readUnsigned? rest
  | rest => readUnsigned? rest

/-- The value of a digit of base sixteen. -/
def sixteenthDigit? (letter : Char) : Option Nat :=
  if letter.isDigit then some (letter.toNat - 0x30)
  else if 'a' ≤ letter.toLower && letter.toLower ≤ 'f' then some (letter.toLower.toNat - 0x57)
  else none

/-- The number in base sixteen in front of a text, behind its mark, and what follows it. A power of
two can stand behind the digits. -/
def readSixteenths? (text : List Char) : Option (Rat × List Char) :=
  let isDigit (letter : Char) : Bool := (sixteenthDigit? letter).isSome
  let (digits, rest) := text.span isDigit
  let (fraction, rest) := match rest with
    | '.' :: after => after.span isDigit
    | _ => ([], rest)
  if digits.isEmpty && fraction.isEmpty then none
  else
    let value := (digits ++ fraction).foldl
      (fun value digit => 16 * value + (sixteenthDigit? digit).getD 0) 0
    let (exponent, rest) := match rest with
      | 'p' :: after => readExponent ('e' :: after)
      | 'P' :: after => readExponent ('e' :: after)
      | _ => (0, rest)
    let rest := match rest with
      | 'e' :: after => 'p' :: after
      | _ => rest
    some (value * powerOfTwo (exponent - 4 * Int.ofNat fraction.length), rest)

/-- The number in front of a text without a sign, in base ten, in base sixteen or without a bound,
and what follows it. -/
def readAnyUnsigned? (unbounded : Rat) (text : List Char) : Option (Rat × List Char) :=
  let isHere (word : String) : Bool :=
    word.toList.isPrefixOf ((text.take word.length).map Char.toLower)
  if isHere "infinity" then some (unbounded, text.drop 8)
  else if isHere "inf" then some (unbounded, text.drop 3)
  else if isHere "0x" then
    match readSixteenths? (text.drop 2) with
    | some result => some result
    | none => some (0, text.drop 1)
  else readUnsigned? text

/-- The number in front of a text, in base ten, in base sixteen or without a bound, with a sign and
blanks before it, and what follows it. -/
def readAny? (unbounded : Rat) (text : List Char) : Option (Rat × List Char) :=
  match text.dropWhile fun letter => [' ', '\t', '\n'].contains letter with
  | '-' :: rest => (readAnyUnsigned? unbounded rest).map fun (value, rest) => (-value, rest)
  | '+' :: rest => readAnyUnsigned? unbounded rest
  | rest => readAnyUnsigned? unbounded rest

/-! ## Writing -/

/-- The nearest whole number to one that is not negative. -/
def nearest (value : Rat) : Nat :=
  let floor := value.floor.toNat
  let rest := value - floor
  if rest < 1 / 2 then floor
  else if 1 / 2 < rest then floor + 1
  else if floor % 2 = 0 then floor
  else floor + 1

/-- The nearest number with at most so many binary digits to one that is not negative, as a whole
number and the power of two by which it is divided. The whole number has all the digits, unless it
is zero. -/
def binary (count : Nat) (value : Rat) : Nat × Int :=
  if value = 0 then (0, 0)
  else
    let last := count - 1
    let guess := Int.ofNat last + Int.ofNat value.den.log2 - Int.ofNat value.num.natAbs.log2
    let shift := if value * powerOfTwo guess < (Nat.pow 2 last : Nat) then guess + 1 else guess
    let digits := nearest (value * powerOfTwo shift)
    if digits < Nat.pow 2 count then (digits, shift) else (digits / 2, shift - 1)

/-- The nearest number with at most so many binary digits. -/
def roundedTo (count : Nat) (value : Rat) : Rat :=
  let (digits, shift) := binary count (if value < 0 then -value else value)
  let near := digits * powerOfTwo (-shift)
  if value < 0 then -near else near

/-- The nearest number with at most fifty-three binary digits. -/
def rounded (value : Rat) : Rat :=
  roundedTo 53 value

/-- Digits with a point in front of so many of the last ones. -/
def withPoint (precision : Nat) (digits : String) : String :=
  if precision = 0 then digits
  else
    let missing := precision + 1 - digits.length
    let digits := List.replicate missing '0' ++ digits.toList
    let whole := digits.length - precision
    String.ofList (digits.take whole) ++ "." ++ String.ofList (digits.drop whole)

/-- A number that is not negative, with so many digits behind the point. -/
def fixed (precision : Nat) (value : Rat) : String :=
  withPoint precision (toString (nearest (value * powerOfTen precision)))

/-- The exponent of a positive number: that of the greatest power of ten in it. -/
def exponentOf (value : Rat) : Int :=
  let length (number : Nat) : Int := Int.ofNat (Nat.toDigits 10 number).length
  let guess := length value.num.natAbs - length value.den
  if powerOfTen guess ≤ value then guess else guess - 1

/-- The digits of a number that is not negative, so many behind the first, and its exponent. -/
def digitsOf (precision : Nat) (value : Rat) : Nat × Int :=
  if value = 0 then (0, 0)
  else
    let exponent := exponentOf value
    let digits := nearest (value * powerOfTen (Int.ofNat precision - exponent))
    if digits < Nat.pow 10 (precision + 1) then (digits, exponent) else (digits / 10, exponent + 1)

/-- An exponent with at least two digits. -/
def exponentText (mark : Char) (exponent : Int) : String :=
  String.singleton mark ++ (if exponent < 0 then "-" else "+") ++ Decimal.padded exponent.natAbs

/-- A number that is not negative, with so many digits behind the point and a power of ten. -/
def scientific (mark : Char) (precision : Nat) (value : Rat) : String :=
  let (digits, exponent) := digitsOf precision value
  withPoint precision (toString digits) ++ exponentText mark exponent

/-- A text without zeros behind the point at its end. -/
def withoutZeros (text : String) : String :=
  if !text.toList.contains '.' then text
  else
    let kept := text.toList.reverse.dropWhile (· == '0')
    String.ofList (if kept.head? = some '.' then kept.tail else kept).reverse

/-- A number that is not negative, with so many digits in all, in the shorter way. -/
def general (mark : Char) (precision : Nat) (keepsZeros : Bool) (value : Rat) : String :=
  let precision := if precision = 0 then 1 else precision
  let (digits, exponent) := digitsOf (precision - 1) value
  let trim (text : String) : String := if keepsZeros then text else withoutZeros text
  if exponent < -4 || Int.ofNat precision ≤ exponent then
    trim (withPoint (precision - 1) (toString digits)) ++ exponentText mark exponent
  else trim (fixed (Int.ofNat precision - 1 - exponent).toNat value)

/-- A number that is not negative in base sixteen, with at most so many binary digits of which so many
stand in front of the point, and a power of two. -/
def sixteenths (count whole : Nat) (value : Rat) : String :=
  let (digits, shift) := binary count value
  let behind := count - whole
  let letters := Nat.toDigits 16 (digits % Nat.pow 2 behind)
  let padded := List.replicate (behind / 4 - letters.length) '0' ++ letters
  let kept := (padded.reverse.dropWhile (· == '0')).reverse
  let exponent := if digits = 0 then 0 else Int.ofNat behind - shift
  "0x" ++ String.ofList (Nat.toDigits 16 (digits / Nat.pow 2 behind)) ++
    (if kept.isEmpty then "" else "." ++ String.ofList kept) ++ "p" ++
    (if exponent < 0 then "-" else "+") ++ toString exponent.natAbs

end StaticMulticast.Text.Fraction
