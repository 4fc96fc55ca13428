/-!
# Digests

Numbers of a fixed size that are computed from octets, so that two files can be told apart by them:
sums, the remainder of a division of polynomials, and the digests of the usual families. Their
constants are the first binary digits of roots of prime numbers, or of sines.
-/

namespace StaticMulticast.Text.Digest

/-! ## Sums -/

/-- One octet more for the remainder of a division by the usual polynomial of degree 32. -/
def remainderStep (value : UInt32) (octet : UInt8) : UInt32 :=
  (List.range 8).foldl (fun value _ =>
    if value &&& 0x80000000 != 0 then (value <<< 1) ^^^ 0x04C11DB7 else value <<< 1)
    (value ^^^ (octet.toUInt32 <<< 24))

/-- The octets of a number, the least first, without zeros at the end. The bound is on their number.
-/
def lengthOctets : Nat → Nat → List UInt8
  | 0, _ => []
  | bound + 1, number =>
      if number = 0 then [] else UInt8.ofNat (number % 256) :: lengthOctets bound (number / 256)

/-- The remainder for octets and their number. -/
def remainder (octets : List UInt8) : Nat :=
  let value := (octets ++ lengthOctets 16 octets.length).foldl remainderStep 0
  (value ^^^ 0xFFFFFFFF).toNat

/-- The sum of octets in sixteen binary digits that go round at each step. -/
def rotatingSum (octets : List UInt8) : Nat :=
  octets.foldl (fun sum octet =>
    (sum / 2 + (sum % 2) * 0x8000 + octet.toNat) % 0x10000) 0

/-- The sum of octets, with what goes over sixteen binary digits added at their low end. -/
def foldedSum (octets : List UInt8) : Nat :=
  let sum := octets.foldl (fun sum octet => (sum + octet.toNat) % 0x100000000) 0
  let half := sum % 0x10000 + sum / 0x10000
  half % 0x10000 + half / 0x10000

/-! ## Blocks -/

/-- Octets in blocks of a size. The bound is on their number. -/
def blocks (size : Nat) : Nat → List UInt8 → List (List UInt8)
  | 0, _ => []
  | bound + 1, octets =>
      if octets.isEmpty then [] else octets.take size :: blocks size bound (octets.drop size)

/-- So many octets of a number, the greatest first. -/
def numberOctets (count number : Nat) : List UInt8 :=
  ((List.range count).map fun index => UInt8.ofNat (number / Nat.pow 256 index % 256)).reverse

/-- The number of octets, the greatest first. -/
def ofOctets (octets : List UInt8) : Nat :=
  octets.foldl (fun number octet => 256 * number + octet.toNat) 0

/-- Octets with a one and zeros behind them, and their number in binary digits at the end of the
last block. -/
def filled (size lengthSize : Nat) (isReversed : Bool) (octets : List UInt8) : List UInt8 :=
  let rest := (octets.length + 1 + lengthSize) % size
  let zeros := if rest = 0 then 0 else size - rest
  let length := numberOctets lengthSize (8 * octets.length)
  octets ++ [0x80] ++ List.replicate zeros 0 ++ if isReversed then length.reverse else length

/-- The words of a block, each of so many octets. -/
def words (size : Nat) (isReversed : Bool) (block : List UInt8) : List Nat :=
  (blocks size (block.length + 1) block).map fun word =>
    ofOctets (if isReversed then word.reverse else word)

/-- Digits of octets in base sixteen. -/
def hexadecimal (octets : List UInt8) : String :=
  let digit (number : Nat) : Char := (Nat.toDigits 16 number).headD '0'
  String.ofList (octets.flatMap fun octet => [digit (octet.toNat / 16), digit (octet.toNat % 16)])

/-! ## Roots -/

/-- A number has no divisor from a number up to its root. -/
def isPrime (number : Nat) : Bool :=
  2 ≤ number && (List.range number).all fun divisor => divisor < 2 || number % divisor != 0

/-- The first prime numbers. -/
def primes : List Nat := ((List.range 410).filter isPrime).take 80

/-- The greatest whole number of which a power does not exceed a number, found digit by digit. -/
def wholeRoot (exponent number : Nat) : Nat → Nat → Nat
  | 0, root => root
  | digit + 1, root =>
      let greater := root + Nat.pow 2 digit
      wholeRoot exponent number digit
        (if Nat.pow greater exponent ≤ number then greater else root)

/-- The first sixty-four binary digits behind the point of a root. -/
def rootDigits (exponent number : Nat) : Nat :=
  wholeRoot exponent (number * Nat.pow 2 (64 * exponent)) 70 0 % 0x10000000000000000

/-- The digits of square roots. -/
def squareRoots : List Nat := (primes.take 16).map (rootDigits 2)

/-- The digits of cube roots. -/
def cubeRoots : List Nat := primes.map (rootDigits 3)

/-! ## The second family -/

/-- The eight words of a state. -/
structure Words (Word : Type) where
  a : Word
  b : Word
  c : Word
  d : Word
  e : Word
  f : Word
  g : Word
  h : Word

/-- The words of a list. -/
def Words.ofList {Word : Type} (zero : Word) (words : List Word) : Words Word :=
  let wordAt (index : Nat) : Word := words.getD index zero
  ⟨wordAt 0, wordAt 1, wordAt 2, wordAt 3, wordAt 4, wordAt 5, wordAt 6, wordAt 7⟩

/-- The list of the words. -/
def Words.toList {Word : Type} (state : Words Word) : List Word :=
  [state.a, state.b, state.c, state.d, state.e, state.f, state.g, state.h]

/-- What the two sizes of the family differ in: the arithmetic of words, the four mixtures of
rotated words, and the constants of the rounds. -/
structure Family (Word : Type) where
  zero : Word
  add : Word → Word → Word
  both : Word → Word → Word
  differ : Word → Word → Word
  invert : Word → Word
  mixLow : Word → Word
  mixHigh : Word → Word
  mixEarly : Word → Word
  mixLate : Word → Word
  constants : List Word

namespace Family

/-- The words of all rounds: those of the block, and mixtures of earlier ones. -/
def schedule {Word : Type} (family : Family Word) (block : List Word) : Array Word :=
  (List.range (family.constants.length - 16)).foldl (fun words index =>
    let word (offset : Nat) : Word := words.getD (index + offset) family.zero
    words.push (family.add (family.add (family.mixLate (word 14)) (word 9))
      (family.add (family.mixEarly (word 1)) (word 0)))) block.toArray

/-- A round. -/
def round {Word : Type} (family : Family Word) (state : Words Word) (constant word : Word) :
    Words Word :=
  let choice := family.differ (family.both state.e state.f)
    (family.both (family.invert state.e) state.g)
  let most := family.differ (family.both state.a state.b)
    (family.differ (family.both state.a state.c) (family.both state.b state.c))
  let first := family.add (family.add state.h (family.mixHigh state.e))
    (family.add choice (family.add constant word))
  let second := family.add (family.mixLow state.a) most
  ⟨family.add first second, state.a, state.b, state.c, family.add state.d first, state.e, state.f,
    state.g⟩

/-- The state after a block. -/
def step {Word : Type} (family : Family Word) (state : Words Word) (block : List Word) :
    Words Word :=
  let words := family.schedule block
  let after := (family.constants.zip words.toList).foldl
    (fun state (constant, word) => family.round state constant word) state
  Words.ofList family.zero (state.toList.zipWith family.add after.toList)

end Family

/-- A word turned right. -/
def turned32 (word : UInt32) (count : UInt32) : UInt32 :=
  (word >>> count) ||| (word <<< (32 - count))

/-- A word turned right. -/
def turned64 (word : UInt64) (count : UInt64) : UInt64 :=
  (word >>> count) ||| (word <<< (64 - count))

/-- The family with words of thirty-two binary digits. -/
def family32 : Family UInt32 where
  zero := 0
  add := (· + ·)
  both := (· &&& ·)
  differ := (· ^^^ ·)
  invert word := word ^^^ 0xFFFFFFFF
  mixLow word := turned32 word 2 ^^^ turned32 word 13 ^^^ turned32 word 22
  mixHigh word := turned32 word 6 ^^^ turned32 word 11 ^^^ turned32 word 25
  mixEarly word := turned32 word 7 ^^^ turned32 word 18 ^^^ (word >>> 3)
  mixLate word := turned32 word 17 ^^^ turned32 word 19 ^^^ (word >>> 10)
  constants := (cubeRoots.take 64).map fun digits => UInt32.ofNat (digits / 0x100000000)

/-- The family with words of sixty-four binary digits. -/
def family64 : Family UInt64 where
  zero := 0
  add := (· + ·)
  both := (· &&& ·)
  differ := (· ^^^ ·)
  invert word := word ^^^ 0xFFFFFFFFFFFFFFFF
  mixLow word := turned64 word 28 ^^^ turned64 word 34 ^^^ turned64 word 39
  mixHigh word := turned64 word 14 ^^^ turned64 word 18 ^^^ turned64 word 41
  mixEarly word := turned64 word 1 ^^^ turned64 word 8 ^^^ (word >>> 7)
  mixLate word := turned64 word 19 ^^^ turned64 word 61 ^^^ (word >>> 6)
  constants := cubeRoots.map UInt64.ofNat

/-- The digest of so many octets with words of thirty-two binary digits, from a first state on. -/
def digest32 (start : List Nat) (size : Nat) (octets : List UInt8) : List UInt8 :=
  let all := filled 64 8 false octets
  let state := (blocks 64 (all.length + 1) all).foldl (fun state block =>
    family32.step state ((words 4 false block).map UInt32.ofNat))
    (Words.ofList 0 (start.map UInt32.ofNat))
  (state.toList.flatMap fun word => numberOctets 4 word.toNat).take size

/-- The digest of so many octets with words of sixty-four binary digits, from a first state on. -/
def digest64 (start : List Nat) (size : Nat) (octets : List UInt8) : List UInt8 :=
  let all := filled 128 16 false octets
  let state := (blocks 128 (all.length + 1) all).foldl (fun state block =>
    family64.step state ((words 8 false block).map UInt64.ofNat))
    (Words.ofList 0 (start.map UInt64.ofNat))
  (state.toList.flatMap fun word => numberOctets 8 word.toNat).take size

/-- The digest of 224 binary digits. -/
def sha224 : List UInt8 → List UInt8 :=
  digest32 ((squareRoots.drop 8).map (· % 0x100000000)) 28

/-- The digest of 256 binary digits. -/
def sha256 : List UInt8 → List UInt8 :=
  digest32 ((squareRoots.take 8).map (· / 0x100000000)) 32

/-- The digest of 384 binary digits. -/
def sha384 : List UInt8 → List UInt8 := digest64 (squareRoots.drop 8) 48

/-- The digest of 512 binary digits. -/
def sha512 : List UInt8 → List UInt8 := digest64 (squareRoots.take 8) 64

/-! ## Keyed rounds -/

/-- The orders in which the words of a block are taken in the rounds. -/
def blockOrders : List (List Nat) :=
  [[0, 1, 2, 3, 4, 5, 6, 7, 8, 9, 10, 11, 12, 13, 14, 15],
    [14, 10, 4, 8, 9, 15, 13, 6, 1, 12, 0, 2, 11, 7, 5, 3],
    [11, 8, 12, 0, 5, 2, 15, 13, 10, 14, 3, 6, 7, 1, 9, 4],
    [7, 9, 3, 1, 13, 12, 11, 14, 2, 6, 5, 10, 4, 0, 15, 8],
    [9, 0, 5, 7, 2, 4, 10, 15, 14, 1, 11, 12, 6, 8, 3, 13],
    [2, 12, 6, 10, 0, 11, 8, 3, 4, 13, 7, 5, 15, 14, 1, 9],
    [12, 5, 1, 15, 14, 13, 4, 10, 0, 7, 6, 3, 9, 2, 8, 11],
    [13, 11, 7, 14, 12, 1, 3, 9, 5, 0, 15, 4, 8, 6, 2, 10],
    [6, 15, 14, 9, 11, 3, 0, 8, 12, 2, 13, 7, 1, 4, 10, 5],
    [10, 2, 8, 4, 7, 6, 1, 5, 15, 11, 9, 14, 3, 12, 13, 0],
    [0, 1, 2, 3, 4, 5, 6, 7, 8, 9, 10, 11, 12, 13, 14, 15],
    [14, 10, 4, 8, 9, 15, 13, 6, 1, 12, 0, 2, 11, 7, 5, 3]]

/-- The places of the four words that are mixed together, one step after the other. -/
def mixedPlaces : List (Nat × Nat × Nat × Nat) :=
  [(0, 4, 8, 12), (1, 5, 9, 13), (2, 6, 10, 14), (3, 7, 11, 15), (0, 5, 10, 15), (1, 6, 11, 12),
    (2, 7, 8, 13), (3, 4, 9, 14)]

/-- Mixes four words of a state with two of a block. -/
def mixFour (state : Array UInt64) (places : Nat × Nat × Nat × Nat) (first second : UInt64) :
    Array UInt64 :=
  let (a, b, c, d) := places
  let word (state : Array UInt64) (index : Nat) : UInt64 := state.getD index 0
  let put (index : Nat) (value : UInt64) (state : Array UInt64) : Array UInt64 :=
    state.setIfInBounds index value
  let half (turnD turnB : UInt64) (added : UInt64) (state : Array UInt64) : Array UInt64 :=
    let state := put a (word state a + word state b + added) state
    let state := put d (turned64 (word state d ^^^ word state a) turnD) state
    let state := put c (word state c + word state d) state
    put b (turned64 (word state b ^^^ word state c) turnB) state
  half 16 63 second (half 32 24 first state)

/-- The state after a block, of which the last octet has a number. -/
def keyedStep (state : List UInt64) (block : Array UInt64) (count : Nat) (isLast : Bool) :
    List UInt64 :=
  let start := squareRoots.take 8 |>.map UInt64.ofNat
  let mask : UInt64 := if isLast then 0xFFFFFFFFFFFFFFFF else 0
  let late := start.mapIdx fun index word =>
    if index = 4 then word ^^^ UInt64.ofNat count
    else if index = 6 then word ^^^ mask else word
  let mixed := blockOrders.foldl (fun state order =>
    (mixedPlaces.zipIdx).foldl (fun state (places, index) =>
      let word (offset : Nat) : UInt64 := block.getD (order.getD (2 * index + offset) 0) 0
      mixFour state places (word 0) (word 1)) state) (state ++ late).toArray
  state.mapIdx fun index word => word ^^^ mixed.getD index 0 ^^^ mixed.getD (index + 8) 0

/-- The digest of so many octets with keyed rounds. -/
def blake2b (size : Nat) (octets : List UInt8) : List UInt8 :=
  let start := (squareRoots.take 8).map UInt64.ofNat
  let start := start.mapIdx fun index word =>
    if index = 0 then word ^^^ UInt64.ofNat (0x01010000 + size) else word
  let parts := if octets.isEmpty then [[]] else blocks 128 (octets.length + 1) octets
  let state := (parts.zipIdx).foldl (fun state (block, index) =>
    let full := block ++ List.replicate (128 - block.length) 0
    keyedStep state ((words 8 true full).map UInt64.ofNat).toArray
      (128 * index + block.length) (index + 1 = parts.length)) start
  (state.flatMap fun word => (numberOctets 8 word.toNat).reverse).take size

/-! ## The first family -/

/-- A word turned left. -/
def turnedLeft (word : UInt32) (count : UInt32) : UInt32 :=
  (word <<< count) ||| (word >>> (32 - count))

/-- The five words of a state. -/
abbrev FiveWords := UInt32 × UInt32 × UInt32 × UInt32 × UInt32

/-- The state after a block of words. -/
def fiveStep (state : FiveWords) (block : List UInt32) : FiveWords :=
  let words := (List.range 64).foldl (fun (words : Array UInt32) index =>
    let word (offset : Nat) : UInt32 := words.getD (index + offset) 0
    words.push (turnedLeft (word 13 ^^^ word 8 ^^^ word 2 ^^^ word 0) 1)) block.toArray
  let (a, b, c, d, e) := words.toList.zipIdx.foldl (fun (a, b, c, d, e) (word, index) =>
    let (mixed, constant) : UInt32 × UInt32 :=
      if index < 20 then ((b &&& c) ||| ((b ^^^ 0xFFFFFFFF) &&& d), 0x5A827999)
      else if index < 40 then (b ^^^ c ^^^ d, 0x6ED9EBA1)
      else if index < 60 then ((b &&& c) ||| (b &&& d) ||| (c &&& d), 0x8F1BBCDC)
      else (b ^^^ c ^^^ d, 0xCA62C1D6)
    (turnedLeft a 5 + mixed + e + constant + word, a, turnedLeft b 30, c, d)) state
  (state.1 + a, state.2.1 + b, state.2.2.1 + c, state.2.2.2.1 + d, state.2.2.2.2 + e)

/-- The digest of 160 binary digits. -/
def sha1 (octets : List UInt8) : List UInt8 :=
  let all := filled 64 8 false octets
  let (a, b, c, d, e) := (blocks 64 (all.length + 1) all).foldl
    (fun state block => fiveStep state ((words 4 false block).map UInt32.ofNat))
    ((0x67452301, 0xEFCDAB89, 0x98BADCFE, 0x10325476, 0xC3D2E1F0) : FiveWords)
  [a, b, c, d, e].flatMap fun word => numberOctets 4 word.toNat

/-! ## The digest of 128 binary digits -/

/-- The first thirty-two binary digits behind the point of the sines of the first whole numbers,
without their signs. -/
def sines : List UInt32 :=
  [0xD76AA478, 0xE8C7B756, 0x242070DB, 0xC1BDCEEE, 0xF57C0FAF, 0x4787C62A,
    0xA8304613, 0xFD469501, 0x698098D8, 0x8B44F7AF, 0xFFFF5BB1, 0x895CD7BE,
    0x6B901122, 0xFD987193, 0xA679438E, 0x49B40821, 0xF61E2562, 0xC040B340,
    0x265E5A51, 0xE9B6C7AA, 0xD62F105D, 0x02441453, 0xD8A1E681, 0xE7D3FBC8,
    0x21E1CDE6, 0xC33707D6, 0xF4D50D87, 0x455A14ED, 0xA9E3E905, 0xFCEFA3F8,
    0x676F02D9, 0x8D2A4C8A, 0xFFFA3942, 0x8771F681, 0x6D9D6122, 0xFDE5380C,
    0xA4BEEA44, 0x4BDECFA9, 0xF6BB4B60, 0xBEBFBC70, 0x289B7EC6, 0xEAA127FA,
    0xD4EF3085, 0x04881D05, 0xD9D4D039, 0xE6DB99E5, 0x1FA27CF8, 0xC4AC5665,
    0xF4292244, 0x432AFF97, 0xAB9423A7, 0xFC93A039, 0x655B59C3, 0x8F0CCC92,
    0xFFEFF47D, 0x85845DD1, 0x6FA87E4F, 0xFE2CE6E0, 0xA3014314, 0x4E0811A1,
    0xF7537E82, 0xBD3AF235, 0x2AD7D2BB, 0xEB86D391]

/-- How far words are turned in the rounds. -/
def turns : List UInt32 :=
  ([[7, 12, 17, 22], [5, 9, 14, 20], [4, 11, 16, 23], [6, 10, 15, 21]] : List (List UInt32)).flatMap
    fun row => (List.replicate 4 row).flatten

/-- The four words of a state. -/
abbrev FourWords := UInt32 × UInt32 × UInt32 × UInt32

/-- The state after a block of words. -/
def fourStep (state : FourWords) (block : Array UInt32) : FourWords :=
  let (a, b, c, d) := ((sines.zip turns).zipIdx).foldl (fun (a, b, c, d) ((sine, turn), index) =>
    let opposite (word : UInt32) : UInt32 := word ^^^ 0xFFFFFFFF
    let (mixed, place) : UInt32 × Nat :=
      if index < 16 then ((b &&& c) ||| (opposite b &&& d), index)
      else if index < 32 then ((d &&& b) ||| (opposite d &&& c), (5 * index + 1) % 16)
      else if index < 48 then (b ^^^ c ^^^ d, (3 * index + 5) % 16)
      else (c ^^^ (b ||| opposite d), (7 * index) % 16)
    (d, b + turnedLeft (mixed + a + sine + block.getD place 0) turn, b, c)) state
  (state.1 + a, state.2.1 + b, state.2.2.1 + c, state.2.2.2 + d)

/-- The digest of 128 binary digits. -/
def md5 (octets : List UInt8) : List UInt8 :=
  let all := filled 64 8 true octets
  let (a, b, c, d) := (blocks 64 (all.length + 1) all).foldl
    (fun state block => fourStep state ((words 4 true block).map UInt32.ofNat).toArray)
    ((0x67452301, 0xEFCDAB89, 0x98BADCFE, 0x10325476) : FourWords)
  [a, b, c, d].flatMap fun word => (numberOctets 4 word.toNat).reverse

end StaticMulticast.Text.Digest
