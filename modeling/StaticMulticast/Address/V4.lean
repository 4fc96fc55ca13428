/-!
# IPv4 addresses

An address is four octets. It is written as four decimal numbers with points between them, and read
from that form alone: no octet has a leading zero, more than three digits or a value above 255.
-/

namespace StaticMulticast.Address

/-- An IPv4 address, most significant octet first. -/
structure V4 where
  first : UInt8
  second : UInt8
  third : UInt8
  fourth : UInt8
deriving DecidableEq, Repr

namespace V4

/-- The address that stands for any source. -/
def unspecified : V4 := ⟨0, 0, 0, 0⟩

/-- The address as a number below 2 ^ 32. -/
def toNat (address : V4) : Nat :=
  0x1000000 * address.first.toNat + 0x10000 * address.second.toNat +
    0x100 * address.third.toNat + address.fourth.toNat

/-- Addresses are ordered as numbers. -/
instance : Ord V4 where
  compare left right := compare left.toNat right.toNat

/-- An address of 224.0.0.0/4. -/
def isMulticast (address : V4) : Bool :=
  224 ≤ address.first && address.first ≤ 239

/-- The address in dotted decimal. -/
def text (address : V4) : String :=
  toString address.first.toNat ++ "." ++ toString address.second.toNat ++ "." ++
    toString address.third.toNat ++ "." ++ toString address.fourth.toNat

/-- The value of a string of decimal digits. -/
def decimalValue (digits : List Char) : Nat :=
  digits.foldl (fun value digit => 10 * value + (digit.toNat - '0'.toNat)) 0

/-- Reads one octet off the front of a text: all the digits there are, which must be one to three,
without a leading zero unless the octet is zero. -/
def readOctet (text : List Char) : Option (UInt8 × List Char) :=
  let digits := text.takeWhile Char.isDigit
  let value := decimalValue digits
  if digits.length = 0 || 3 < digits.length then none
  else if digits.head? = some '0' && 1 < digits.length then none
  else if 255 < value then none
  else some (UInt8.ofNat value, text.dropWhile Char.isDigit)

/-- Reads a point and then one octet off the front of a text. -/
def readPointOctet : List Char → Option (UInt8 × List Char)
  | '.' :: rest => readOctet rest
  | _ => none

/-- Reads an address off the front of a text, with what follows it. -/
def read (text : List Char) : Option (V4 × List Char) := do
  let (first, rest) ← readOctet text
  let (second, rest) ← readPointOctet rest
  let (third, rest) ← readPointOctet rest
  let (fourth, rest) ← readPointOctet rest
  pure (⟨first, second, third, fourth⟩, rest)

/-- The address that a text denotes as a whole. -/
def ofText? (text : String) : Option V4 :=
  match read text.toList with
  | some (address, []) => some address
  | _ => none

end V4

end StaticMulticast.Address
