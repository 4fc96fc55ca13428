/-!
# UTF-8

A machine that takes one octet at a time and says when a character is complete, and two readings
of an octet string by it. `decode?` refuses a string with any fault in it; `decodeLossy` puts the
replacement character in the place of each faulty run, where a run is as long as it could still
have become a character.
-/

namespace StaticMulticast.Text.Utf8

/-- A character whose first octets have been taken: the bits so far, how many octets are owed, and
the least and the greatest octet that may come next. -/
structure Pending where
  value : Nat
  owed : Nat
  low : Nat
  high : Nat
deriving DecidableEq, Repr

/-- What an octet does: it ends a character, leaves one pending, or cannot stand where it does. -/
inductive Progress where
  | complete (character : Char)
  | pending (state : Pending)
  | refused
deriving DecidableEq, Repr

/-- The first octet of a character. The bounds on the second octet rule out forms longer than
needed, the surrogates and everything above the last code point. -/
def first (octet : Nat) : Progress :=
  if octet ≤ 0x7F then .complete (Char.ofNat octet)
  else if 0xC2 ≤ octet && octet ≤ 0xDF then .pending ⟨octet - 0xC0, 1, 0x80, 0xBF⟩
  else if octet = 0xE0 then .pending ⟨0, 2, 0xA0, 0xBF⟩
  else if octet = 0xED then .pending ⟨0xD, 2, 0x80, 0x9F⟩
  else if 0xE1 ≤ octet && octet ≤ 0xEF then .pending ⟨octet - 0xE0, 2, 0x80, 0xBF⟩
  else if octet = 0xF0 then .pending ⟨0, 3, 0x90, 0xBF⟩
  else if 0xF1 ≤ octet && octet ≤ 0xF3 then .pending ⟨octet - 0xF0, 3, 0x80, 0xBF⟩
  else if octet = 0xF4 then .pending ⟨4, 3, 0x80, 0x8F⟩
  else .refused

/-- An octet after the first of a character. -/
def next (state : Pending) (octet : Nat) : Progress :=
  if state.low ≤ octet && octet ≤ state.high then
    let value := 64 * state.value + (octet - 0x80)
    if state.owed ≤ 1 then .complete (Char.ofNat value)
    else .pending ⟨value, state.owed - 1, 0x80, 0xBF⟩
  else .refused

/-- An octet, between characters or inside one. -/
def step : Option Pending → Nat → Progress
  | none, octet => first octet
  | some state, octet => next state octet

/-- The characters of an octet string that continues the given state. -/
def decodeFrom : Option Pending → List UInt8 → Option (List Char)
  | none, [] => some []
  | some _, [] => none
  | state, octet :: rest =>
      match step state octet.toNat with
      | .complete character => (decodeFrom none rest).map (character :: ·)
      | .pending later => decodeFrom (some later) rest
      | .refused => none

/-- The characters of an octet string, if it is well-formed. -/
def decode? (octets : List UInt8) : Option (List Char) :=
  decodeFrom none octets

/-- The character that stands for a faulty run of octets. -/
def replacement : Char := '\uFFFD'

/-- The characters of an octet string that continues the given state, faults replaced. An octet
refused inside a character ends the faulty run before it and is then taken as a first octet. -/
def decodeLossyFrom : Option Pending → List UInt8 → List Char
  | none, [] => []
  | some _, [] => [replacement]
  | none, octet :: rest =>
      match first octet.toNat with
      | .complete character => character :: decodeLossyFrom none rest
      | .pending later => decodeLossyFrom (some later) rest
      | .refused => replacement :: decodeLossyFrom none rest
  | some state, octet :: rest =>
      match next state octet.toNat with
      | .complete character => character :: decodeLossyFrom none rest
      | .pending later => decodeLossyFrom (some later) rest
      | .refused =>
          match first octet.toNat with
          | .complete character => replacement :: character :: decodeLossyFrom none rest
          | .pending later => replacement :: decodeLossyFrom (some later) rest
          | .refused => replacement :: replacement :: decodeLossyFrom none rest

/-- The characters of an octet string, each faulty run replaced by one replacement character. -/
def decodeLossy (octets : List UInt8) : List Char :=
  decodeLossyFrom none octets

end StaticMulticast.Text.Utf8
