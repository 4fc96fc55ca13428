import StaticMulticast.Address.V4

/-!
# IPv6 addresses

An address is eight groups of sixteen bits. It is read from any of the forms of RFC 4291: eight
groups of one to four hexadecimal digits with colons between them, at most one double colon in the
place of one or more zero groups, and the last two groups as an IPv4 address if wanted. It is
written in the form of RFC 5952: lower case, no leading zeros, a double colon for the first of the
longest runs of two or more zero groups, and an IPv4 address at the end of an IPv4-mapped address.
-/

namespace StaticMulticast.Address

/-- An IPv6 address, most significant group first. -/
structure V6 where
  first : UInt16
  second : UInt16
  third : UInt16
  fourth : UInt16
  fifth : UInt16
  sixth : UInt16
  seventh : UInt16
  eighth : UInt16
deriving DecidableEq, Repr

namespace V6

/-- The groups of an address. -/
def groups (address : V6) : List UInt16 :=
  [address.first, address.second, address.third, address.fourth, address.fifth, address.sixth,
    address.seventh, address.eighth]

/-- The address with the given groups, if there are eight of them. -/
def ofGroups? : List UInt16 → Option V6
  | [a, b, c, d, e, f, g, h] => some ⟨a, b, c, d, e, f, g, h⟩
  | _ => none

/-- The groups of an address determine it. -/
theorem ofGroups?_groups (address : V6) : ofGroups? address.groups = some address := rfl

/-- The address as a number below 2 ^ 128. -/
def toNat (address : V6) : Nat :=
  address.groups.foldl (fun value group => 0x10000 * value + group.toNat) 0

/-- Addresses are ordered as numbers. -/
instance : Ord V6 where
  compare left right := compare left.toNat right.toNat

/-- An address of ff00::/8. -/
def isMulticast (address : V6) : Bool :=
  0xFF00 ≤ address.first

/-! ## Writing -/

/-- A group in lower-case hexadecimal without leading zeros. -/
def groupText (group : UInt16) : String :=
  String.ofList (Nat.toDigits 16 group.toNat)

/-- Groups with colons between them. -/
def groupsText (groups : List UInt16) : String :=
  String.intercalate ":" (groups.map groupText)

/-- A run of zero groups: where it starts and how long it is. -/
structure ZeroRun where
  start : Nat
  length : Nat
deriving DecidableEq, Repr

/-- The first of the longest zero runs of `groups`, which begin at position `index`. The run being
scanned ends just before `index`, and `longest` is the best run so far. -/
def longestZeroRunFrom (index : Nat) (current longest : ZeroRun) : List UInt16 → ZeroRun
  | [] => longest
  | group :: rest =>
      if group = 0 then
        let extended := ⟨if current.length = 0 then index else current.start, current.length + 1⟩
        longestZeroRunFrom (index + 1) extended
          (if longest.length < extended.length then extended else longest) rest
      else longestZeroRunFrom (index + 1) ⟨0, 0⟩ longest rest

/-- The first of the longest zero runs of `groups`, of length zero if there is none. -/
def longestZeroRun (groups : List UInt16) : ZeroRun :=
  longestZeroRunFrom 0 ⟨0, 0⟩ ⟨0, 0⟩ groups

/-- The two octets of a group, the higher first. -/
def octets (group : UInt16) : UInt8 × UInt8 :=
  ((group >>> 8).toUInt8, group.toUInt8)

/-- The IPv4 address inside an address of ::ffff:0:0/96. -/
def toV4Mapped? (address : V6) : Option V4 :=
  if address.groups.take 6 = [0, 0, 0, 0, 0, 0xFFFF] then
    some ⟨(octets address.seventh).1, (octets address.seventh).2, (octets address.eighth).1,
      (octets address.eighth).2⟩
  else none

/-- The address in its one recommended form. -/
def text (address : V6) : String :=
  match address.toV4Mapped? with
  | some mapped => "::ffff:" ++ mapped.text
  | none =>
      let run := longestZeroRun address.groups
      if 1 < run.length then
        groupsText (address.groups.take run.start) ++ "::" ++
          groupsText (address.groups.drop (run.start + run.length))
      else groupsText address.groups

/-! ## Reading -/

/-- The value of a hexadecimal digit of either case. -/
def hexDigit? (character : Char) : Option Nat :=
  if '0' ≤ character && character ≤ '9' then some (character.toNat - '0'.toNat)
  else if 'a' ≤ character && character ≤ 'f' then some (character.toNat - 'a'.toNat + 10)
  else if 'A' ≤ character && character ≤ 'F' then some (character.toNat - 'A'.toNat + 10)
  else none

/-- The character is a hexadecimal digit. -/
def isHexDigit (character : Char) : Bool :=
  (hexDigit? character).isSome

/-- The value of a string of hexadecimal digits. -/
def hexValue (digits : List Char) : Nat :=
  digits.foldl (fun value digit => 16 * value + (hexDigit? digit).getD 0) 0

/-- Reads one group off the front of a text: all the hexadecimal digits there are, which must be
one to four. -/
def readGroup (text : List Char) : Option (UInt16 × List Char) :=
  let digits := text.takeWhile isHexDigit
  if digits.length = 0 || 4 < digits.length then none
  else some (UInt16.ofNat (hexValue digits), text.dropWhile isHexDigit)

/-- The text after the colon that must stand before every group but the first of a row. -/
def afterSeparator (isFirst : Bool) (text : List Char) : Option (List Char) :=
  if isFirst then some text
  else match text with
    | ':' :: rest => some rest
    | _ => none

/-- The two groups that an IPv4 address stands for. -/
def embedded (address : V4) : List UInt16 :=
  [UInt16.ofNat (256 * address.first.toNat + address.second.toNat),
    UInt16.ofNat (256 * address.third.toNat + address.fourth.toNat)]

/-- A row of groups read off the front of a text: the groups, whether an IPv4 address ended the
row, and what follows. -/
structure Row where
  groups : List UInt16
  endsInV4 : Bool
  rest : List Char

/-- Reads a row of at most `room` groups. Where two groups or more would fit, an IPv4 address is
tried first, and ends the row. The row ends at the first place where no group can be read. -/
def readRow (room : Nat) (isFirst : Bool) (text : List Char) : Row :=
  match room with
  | 0 => ⟨[], false, text⟩
  | room + 1 =>
      let quad := if room = 0 then none else (afterSeparator isFirst text).bind V4.read
      match quad with
      | some (address, rest) => ⟨embedded address, true, rest⟩
      | none =>
          match (afterSeparator isFirst text).bind readGroup with
          | none => ⟨[], false, text⟩
          | some (group, rest) =>
              let row := readRow room false rest
              ⟨group :: row.groups, row.endsInV4, row.rest⟩

/-- Reads an address off the front of a text, with what follows it. A row of fewer than eight
groups is the part before a double colon, and the row after it must leave a zero group between. -/
def read (text : List Char) : Option (V6 × List Char) :=
  let head := readRow 8 true text
  if head.groups.length = 8 then (ofGroups? head.groups).map (·, head.rest)
  else if head.endsInV4 then none
  else match head.rest with
    | ':' :: ':' :: rest =>
        let tail := readRow (7 - head.groups.length) true rest
        let zeros := List.replicate (8 - head.groups.length - tail.groups.length) 0
        (ofGroups? (head.groups ++ zeros ++ tail.groups)).map (·, tail.rest)
    | _ => none

/-- The address that a text denotes as a whole. -/
def ofText? (text : String) : Option V6 :=
  match read text.toList with
  | some (address, []) => some address
  | _ => none

end V6

end StaticMulticast.Address
