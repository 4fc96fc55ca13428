import StaticMulticast.Host.Utility.Format
import StaticMulticast.Text.Fraction

/-!
# Numbers and data of scripts

What languages of scripts have in common: lots, elementary functions and data.
-/

/-!
## Drawing lots

Numbers that look as if they had been drawn by lot. Each is the sum of two that were drawn before,
and the first of them grow out of a seed.
-/

namespace StaticMulticast.Host.Utility.Lot

/-- The bound on sums. -/
def bound : Nat := 0x100000000

/-- The greatest number that is drawn. -/
def greatest : Nat := 0x7FFFFFFF

/-- The numbers that grow out of a seed, the last one first. The first argument is their number. -/
def grown : Nat → Nat → List Nat → List Nat
  | 0, _, done => done
  | count + 1, seed, done => grown count (16807 * seed % greatest) (seed :: done)

/-- The sum of the last number but two and the first of the last thirty-one, and all of them
without that. -/
def step (lots : List Nat) : Nat × List Nat :=
  let sum := (lots[2]?.getD 0 + lots[30]?.getD 0) % bound
  (sum, sum :: lots.take 30)

/-- The numbers after so many steps. -/
def after : Nat → List Nat → List Nat
  | 0, lots => lots
  | count + 1, lots => after count (step lots).2

/-- The first numbers for a seed. The sums that are too near to the seed are passed over. -/
def planted (seed : Nat) : List Nat :=
  let lots := grown 31 (if seed = 0 then 1 else seed) []
  let begun := lots.reverse.take 3
  after 310 ((begun.reverse ++ lots).take 31)

/-- Draws the next number. -/
def next (lots : List Nat) : Nat × List Nat :=
  let (sum, lots) := step lots
  (sum / 2, lots)

end StaticMulticast.Host.Utility.Lot

/-!
## Elementary functions

The exponential, the logarithm and the functions of angles. They are calculated with whole numbers
of a very small unit by adding up a series until its terms vanish, and are far more precise than
what is kept of the results.
-/

namespace StaticMulticast.Host.Utility.Elementary

/-! ## Small units -/

/-- The number of small units in one. -/
def unit : Int := Nat.pow 2 512

/-- A number in small units. -/
def ofRat (value : Rat) : Int := (value * unit).floor

/-- The number that small units stand for. -/
def toRat (units : Int) : Rat := (units : Rat) / unit

/-- The product of two numbers in small units. -/
def times (first second : Int) : Int := first * second / unit

/-- The sum of a series. Each term is made of the one before and its place. The bound is on the
number of terms. -/
def sum (next : Nat → Int → Int) : Nat → Nat → Int → Int → Int
  | 0, _, _, total => total
  | bound + 1, place, term, total =>
      if term.natAbs ≤ 1 then total
      else sum next bound (place + 1) (next (place + 1) term) (total + term)

/-- The number of terms that are added up at most. -/
def mostTerms : Nat := 1200

/-! ## Exponential and logarithm -/

/-- How often a number is halved before its exponential is taken. -/
def halvings : Nat := 16

/-- A number in small units that is multiplied with itself some times. -/
def squared : Nat → Int → Int
  | 0, value => value
  | count + 1, value => squared count (times value value)

/-- The exponential of a number that is not negative and not too great. -/
def exponential (value : Rat) : Rat :=
  let small := ofRat (value / (Nat.pow 2 halvings : Nat))
  toRat (squared halvings (sum (fun place term => times term small / place) mostTerms 0 unit 0))

/-- The logarithm of a number between a half and two. -/
def nearLogarithm (value : Rat) : Int :=
  let ratio := ofRat ((value - 1) / (value + 1))
  let square := times ratio ratio
  let term (place : Nat) (before : Int) : Int :=
    times before square * (2 * place - 1) / (2 * place + 1)
  2 * sum term mostTerms 0 ratio 0

/-- The logarithm of a positive number. -/
def logarithm (value : Rat) : Rat :=
  let exponent := Int.ofNat value.num.natAbs.log2 - Int.ofNat value.den.log2
  let rest := value * Text.Fraction.powerOfTwo (-exponent)
  toRat (exponent * nearLogarithm 2 + nearLogarithm rest)

/-! ## Angles -/

/-- The angle in small units whose tangent is a number between minus one and one. -/
def nearAngle (tangent : Rat) : Int :=
  let square := tangent * tangent
  let ratio := ofRat (square / (1 + square))
  let term (place : Nat) (before : Int) : Int :=
    times before ratio * (2 * place) / (2 * place + 1)
  sum term mostTerms 0 (ofRat (tangent / (1 + square))) 0

/-- Half of a turn in small units. -/
def halfTurn : Int := 4 * nearAngle 1

/-- Numbers from zero up to this one are their own sine. -/
def tiny : Rat := 1 / (Nat.pow 2 100 : Nat)

/-- The angle whose tangent is a number. -/
def angle (tangent : Rat) : Rat :=
  if -tiny < tangent && tangent < tiny then tangent
  else if tangent < -1 then toRat (-halfTurn / 2 - nearAngle (1 / tangent))
  else if 1 < tangent then toRat (halfTurn / 2 - nearAngle (1 / tangent))
  else toRat (nearAngle tangent)

/-- The angle of a point, from a place up and one to the right. -/
def angleOf (up right : Rat) : Rat :=
  if 0 < right then angle (up / right)
  else if right < 0 then
    if up < 0 then angle (up / right) - toRat halfTurn else angle (up / right) + toRat halfTurn
  else if 0 < up then toRat (halfTurn / 2)
  else if up < 0 then toRat (-halfTurn / 2)
  else 0

/-- What is left of an angle in small units without whole turns. -/
def withoutTurns (value : Rat) : Int :=
  let turn := 2 * halfTurn
  let rest := ofRat value % turn
  if halfTurn < rest then rest - turn else rest

/-- The sum of the terms of the exponential of an angle, every other one, with changing signs. -/
def alternating (start : Nat) (first angle : Int) : Int :=
  let square := times angle angle
  let term (place : Nat) (before : Int) : Int :=
    -(times before square) / ((2 * place + start) * (2 * place + start - 1))
  sum term mostTerms 0 first 0

/-- The sine of an angle. -/
def sine (value : Rat) : Rat :=
  if -tiny < value && value < tiny then value
  else
    let rest := withoutTurns value
    toRat (alternating 1 rest rest)

/-- The cosine of an angle. -/
def cosine (value : Rat) : Rat :=
  toRat (alternating 0 unit (withoutTurns value))

end StaticMulticast.Host.Utility.Elementary

/-!
## Data of scripts

A value in a script is a number or a text, and can be used as either. A text that comes from the
input and looks like a number is compared like one. Numbers are as precise as fifty-three binary
digits make them.
-/

namespace StaticMulticast.Host.Utility

/-- A value. -/
inductive Datum where
  | nothing
  | number (value : Rat)
  | text (text : String)
  /-- A text that looks like a number. -/
  | both (text : String) (value : Rat)
deriving Repr

namespace Datum

/-! ## Numbers -/

/-- What stands for a number without a bound. -/
def unbounded : Rat := (Nat.pow 2 1024 : Nat)

/-- From here on, numbers count as without a bound. -/
def greatest : Rat := (Nat.pow 2 1024 - Nat.pow 2 970 : Nat)

/-- Numbers that are nearer to zero than this one are less precise. -/
def leastExponent : Nat := 1022

/-- A number as precise as it can be. -/
def limited (value : Rat) : Rat :=
  let size : Rat := if value < 0 then -value else value
  if greatest ≤ value then unbounded
  else if value ≤ -greatest then -unbounded
  else if size * (Nat.pow 2 leastExponent : Nat) < 1 then
    let scale : Rat := (Nat.pow 2 (leastExponent + 52) : Nat)
    let near : Rat := Text.Fraction.nearest (size * scale) / scale
    if value < 0 then -near else near
  else Text.Fraction.rounded value

/-- A number without its fraction. -/
def truncated (value : Rat) : Int :=
  if value < 0 then -(-value).floor else value.floor

/-- The number at the front of a text. -/
def leadingValue (text : String) : Rat :=
  match Text.Fraction.readAny? unbounded text.toList with
  | some (value, _) => limited value
  | none => 0

/-- The value of a text from the input. -/
def ofInput (text : String) : Datum :=
  match Text.Fraction.readAny? unbounded text.toList with
  | some (value, rest) =>
      if rest.all [' ', '\t', '\n', '\r'].contains then .both text (limited value) else .text text
  | none => .text text

/-- The number that a value stands for. -/
def toNumber : Datum → Rat
  | .nothing => 0
  | .number value | .both _ value => value
  | .text held => leadingValue held

/-- The number that a value stands for, without its fraction. -/
def toWhole (value : Datum) : Int :=
  truncated value.toNumber

/-- The value counts as true. -/
def isTrue : Datum → Bool
  | .nothing => false
  | .number value | .both _ value => value != 0
  | .text held => !held.isEmpty

/-- The value of an answer. -/
def ofBool (answer : Bool) : Datum :=
  .number (if answer then 1 else 0)

/-- The value of a whole number. -/
def ofNat (number : Nat) : Datum :=
  .number number

/-- The root of a number, by halving. The bound is on the number of steps. -/
def rootBetween (value : Nat) : Nat → Nat → Nat → Nat
  | 0, low, _ => low
  | bound + 1, low, high =>
      let middle := (low + high) / 2
      if middle = low then low
      else if middle * middle ≤ value then rootBetween value bound middle high
      else rootBetween value bound low middle

/-- The square root of a number. -/
def squareRoot (value : Rat) : Rat :=
  let scale : Nat := Nat.pow 10 20
  let scaled := (value * scale * scale).floor.toNat
  limited (rootBetween scaled (scaled.log2 + 2) 0 (scaled + 1) / scale)

/-- The greatest exponent with which powers are taken. -/
def greatestExponent : Nat := 2000

/-- Numbers without a bound have a logarithm that is greater than this one. -/
def greatestLogarithm : Rat := 750

/-- The exponential of a number. -/
def exponential (value : Rat) : Rat :=
  if greatestLogarithm < value then unbounded
  else if value < -greatestLogarithm then 0
  else if value < 0 then 1 / Elementary.exponential (-value)
  else Elementary.exponential value

/-- The power of a number that is not negative or has a whole exponent. -/
def powerOf (base exponent : Rat) : Rat :=
  let whole := exponent.num.natAbs
  if exponent.den = 1 && whole ≤ greatestExponent then
    let size := base ^ whole
    if exponent < 0 then (if size = 0 then unbounded else 1 / size) else size
  else
    let size : Rat := if base < 0 then -base else base
    let power := if size = 0 then (if exponent < 0 then unbounded else 0)
      else exponential (Elementary.logarithm size * exponent)
    if base < 0 && whole % 2 = 1 then -power else power

/-! ## Texts of numbers -/

/-- Whole numbers up to this bound are written with all their digits. -/
def wholeBound : Rat := 0x8000000000000000

/-- What is left of the values while a format is used, and what has been written. -/
structure Filling where
  values : List Datum
  text : List String := []

/-- Takes the next value. -/
def Filling.next? (filling : Filling) : Option (Datum × Filling) :=
  match filling.values with
  | value :: rest => some (value, { filling with values := rest })
  | [] => none

/-- Takes a width or a precision. -/
def Filling.extent? (filling : Filling) :
    Option (Option Nat) → Option (Option Int × Filling)
  | none => some (none, filling)
  | some (some size) => some (some size, filling)
  | some none => do
      let (value, filling) ← filling.next?
      some (some value.toWhole, filling)

/-- The text of a number for a conversion. -/
def numberFor (flags : List Char) (precision : Option Nat) (conversion : Char) (value : Rat) :
    Option String :=
  if ['d', 'i', 'o', 'u', 'x', 'X'].contains conversion then
    some (numberText flags precision conversion (truncated value))
  else if ['f', 'F', 'e', 'E', 'g', 'G'].contains conversion then
    if unbounded ≤ value then some "inf"
    else if value ≤ -unbounded then some "-inf"
    else some (fractionText flags precision conversion value)
  else none

/-- The text of a number in the conversion that a format begins with. -/
def convertedNumber (format : String) (value : Rat) : String :=
  match formatParts .program (format.length + 1) format.toList with
  | .directive flags width precision conversion _ :: _ =>
      let text := numberFor flags (precision.bind id) conversion value
      padTo flags ((width.bind id).getD 0) true (text.getD "")
  | _ => format

/-- The text of a number, with a format for those that are not whole. -/
def textOfNumber (format : String) (value : Rat) : String :=
  if unbounded ≤ value then "inf"
  else if value ≤ -unbounded then "-inf"
  else if value.den = 1 && value ≤ wholeBound && -wholeBound ≤ value then toString value.num
  else convertedNumber format value

/-- The text that a value stands for, with a format for numbers that are not whole. -/
def toText (format : String) : Datum → String
  | .nothing => ""
  | .number value => textOfNumber format value
  | .text held | .both held _ => held

/-- The character that a value stands for where one is wanted. -/
def characterOf (value : Datum) : Char :=
  match value with
  | .number value | .both _ value => Char.ofNat (truncated value % 256).toNat
  | .nothing => Char.ofNat 0
  | .text held => held.toList.headD (Char.ofNat 0)

/-- Fills a part of a format with values, if there are enough of them. -/
def Filling.step (format : String) (filling : Filling) : FormatPart → Option Filling
  | .moment _ _ _ => some filling
  | .text text _ => some { filling with text := String.ofList text :: filling.text }
  | .directive flags width precision conversion _ => do
      let (width, filling) ← filling.extent? width
      let (precision, filling) ← filling.extent? precision
      let flags := if width.any (· < 0) then '-' :: flags else flags
      let width := (width.map Int.natAbs).getD 0
      let precision := (precision.filter (0 ≤ ·)).map Int.toNat
      let (value, filling) ← filling.next?
      let add (zeros : Bool) (text : String) : Filling :=
        { filling with text := padTo flags width zeros text :: filling.text }
      if conversion = 'c' then some (add false (String.singleton (characterOf value)))
      else if conversion = 's' then
        let text := value.toText format
        some (add false (match precision with
          | some length => String.ofList (text.toList.take length)
          | none => text))
      else
        let isWhole := !(['f', 'F', 'e', 'E', 'g', 'G'].contains conversion)
        let text ← numberFor flags precision conversion value.toNumber
        some (add (!isWhole || precision.isNone) text)

/-- Fills the parts of a format one by one, and tells whether there were values for all of them. -/
def Filling.steps (format : String) (filling : Filling) : List FormatPart → Filling × Bool
  | [] => (filling, true)
  | part :: rest =>
      match filling.step format part with
      | some filling => filling.steps format rest
      | none => (filling, false)

/-- Values in a format, and whether there are enough of them. Numbers that are texts in it have a
format of their own. -/
def filled (numberFormat format : String) (values : List Datum) : String × Bool :=
  let letters := format.toList.flatMap fun letter =>
    if letter = '\\' then ['\\', '\\'] else [letter]
  let parts := formatParts .program (letters.length + 1) letters
  let (filling, isFull) := Filling.steps numberFormat { values } parts
  (String.join filling.text.reverse, isFull)

/-! ## Comparisons -/

/-- The value is compared as a number, if the other one is. -/
def isNumeric : Datum → Bool
  | .text _ => false
  | _ => true

/-- Two values in their order. -/
def order (format : String) (first second : Datum) : Ordering :=
  if first.isNumeric && second.isNumeric then
    let first := first.toNumber
    let second := second.toNumber
    if first < second then .lt else if first = second then .eq else .gt
  else compare (first.toText format) (second.toText format)

end Datum

end StaticMulticast.Host.Utility
