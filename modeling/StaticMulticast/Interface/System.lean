import StaticMulticast.Host.Fault
import StaticMulticast.Text.Blank
import StaticMulticast.Text.Utf8

/-!
# The interfaces of the system

The operating system lists its interfaces as octet strings with an index each. The list ends at the
first entry that has no name or the index zero, a name ends at its first zero octet, and a name that
is no UTF-8 is taken with its faulty parts replaced.

The kernel also keeps a text with a line for each interface: the name, a colon, and counters. Two
lines of headings without a colon stand above them.
-/

namespace StaticMulticast.Interface

/-- One entry of the system's list. -/
structure SystemEntry where
  name : Option (List UInt8)
  index : Nat
deriving DecidableEq, Repr

/-- What the system answers when it is asked for its interfaces. -/
abbrev SystemAnswer := Except Host.Fault (List SystemEntry)

/-- The text of a name that the system gives. -/
def SystemEntry.decodeName (octets : List UInt8) : String :=
  String.ofList (Text.Utf8.decodeLossy (octets.takeWhile (· != 0)))

/-- The names and indexes of a list, up to the entry that ends it. -/
def SystemEntry.listed : List SystemEntry → List (String × Nat)
  | [] => []
  | ⟨none, _⟩ :: _ => []
  | ⟨some _, 0⟩ :: _ => []
  | ⟨some name, index + 1⟩ :: rest => (decodeName name, index + 1) :: listed rest

/-! ## The kernel's device table -/

/-- The name on a line of the table. -/
def deviceName? (line : List Char) : Option String :=
  match (line.dropWhile Text.isBlank).span (· != ':') with
  | ([], _) => none
  | (_, []) => none
  | (name, _ :: _) => some (String.ofList name)

/-- The names in the table, in its order. -/
def deviceNames (table : String) : List String :=
  (List.splitOnP (· == '\n') table.toList).filterMap deviceName?

end StaticMulticast.Interface
