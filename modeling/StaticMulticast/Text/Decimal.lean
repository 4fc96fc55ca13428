/-!
# Whole numbers in decimal

Reading a text as a whole number, and writing one with at least two digits. Digits are the ten
ASCII digits, any number of leading zeros is allowed, and a text that denotes a number outside the
admitted range is no number at all: nothing is wrapped or cut to fit.

Where there is a range, no number outside it arises on the way. The digits are taken one after the
other, and each of the two operations that a digit calls for fails if its result leaves the range.
-/

namespace StaticMulticast.Text.Decimal

/-- The value of a string of digits read after a string with value `prior`, or `none` where a
character is no digit. -/
def digitsFrom (prior : Nat) : List Char → Option Nat
  | [] => some prior
  | digit :: rest =>
      if digit.isDigit then digitsFrom (10 * prior + (digit.toNat - '0'.toNat)) rest else none

/-- The value of one or more digits. -/
def digits? : List Char → Option Nat
  | [] => none
  | digit :: rest => digitsFrom 0 (digit :: rest)

/-! ## Numbers of a range -/

/-- The whole numbers from a least to a greatest one, with zero among them. -/
structure Range where
  least : Int
  greatest : Int
  least_le : least ≤ 0 := by decide
  le_greatest : 0 ≤ greatest := by decide
deriving DecidableEq, Repr

/-- The number is one of the range. -/
def Range.Contains (range : Range) (number : Int) : Prop :=
  range.least ≤ number ∧ number ≤ range.greatest

/-- Two comparisons decide whether a number is one of a range. -/
instance (range : Range) (number : Int) : Decidable (range.Contains number) :=
  inferInstanceAs (Decidable (_ ∧ _))

/-- A number of a range. -/
@[ext]
structure Bounded (range : Range) where
  value : Int
  contained : range.Contains value
deriving DecidableEq, Repr

namespace Bounded

variable {range : Range}

/-- Zero, which is in every range. -/
def zero : Bounded range := ⟨0, range.least_le, range.le_greatest⟩

/-- The number, or `none` where it is outside the range. -/
def ofInt? (number : Int) : Option (Bounded range) :=
  if h : range.Contains number then some ⟨number, h⟩ else none

/-- A number with one more digit at its end: ten times the number, and then the digit on top, or
taken away from it behind a minus sign. -/
def push (negative : Bool) (prior : Bounded range) (digit : Char) : Option (Bounded range) := do
  let raised : Bounded range ← ofInt? (10 * prior.value)
  if digit.isDigit then
    let unit : Nat := digit.toNat - '0'.toNat
    ofInt? (if negative then raised.value - unit else raised.value + unit)
  else none

/-- The number of one or more digits, which stand behind a minus sign or not. -/
def ofDigits? (negative : Bool) (digits : List Char) : Option (Bounded range) :=
  if digits.isEmpty then none else digits.foldlM (push negative) zero

/-- A number of a range: one or more digits, with an optional sign in front. There is a minus sign
only where the range has numbers below zero. -/
def ofText? : List Char → Option (Bounded range)
  | '+' :: digits => ofDigits? false digits
  | '-' :: digits => if range.least < 0 then ofDigits? true digits else none
  | digits => ofDigits? false digits

end Bounded

/-- A number from 0 to `greatest`: one or more digits, with an optional plus sign in front. -/
def unsigned? (greatest : Nat) (text : List Char) : Option Nat :=
  let range : Range := ⟨0, greatest, Int.le_refl 0, Int.natCast_nonneg greatest⟩
  (Bounded.ofText? text).map fun number : Bounded range => number.value.toNat

/-- The signed 64-bit range. -/
def signed64 : Range where
  least := -0x8000000000000000
  greatest := 0x7FFFFFFFFFFFFFFF

/-- A number of the signed 64-bit range: one or more digits, with an optional sign in front. -/
def signed64? (text : List Char) : Option Int :=
  (Bounded.ofText? text).map fun number : Bounded signed64 => number.value

/-! ## Texts -/

/-- The digits of a number, with a zero in front of a single digit. -/
def padded (number : Nat) : String :=
  if number < 10 then "0" ++ toString number else toString number

/-- A text without the blanks around it: spaces, tabs, ends of lines and of pages. -/
def withoutBlanks (text : List Char) : List Char :=
  let isBlank (character : Char) : Bool :=
    character = ' ' || (0x9 ≤ character.toNat && character.toNat ≤ 0xD)
  ((text.dropWhile isBlank).reverse.dropWhile isBlank).reverse

end StaticMulticast.Text.Decimal
