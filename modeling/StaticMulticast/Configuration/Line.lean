import StaticMulticast.Configuration.Operation
import StaticMulticast.Text.Utf8

/-!
# Configuration lines as octets

A line as it comes from the file, with what makes it unfit to be read as text: too many octets, or
octets that are no UTF-8. What ends a line is no part of its text: a line feed, and one carriage
return before it or at the end of the file.
-/

namespace StaticMulticast.Configuration

/-- The octet that ends a line. -/
def lineEnd : UInt8 := 0x0A

/-- The octet that may stand before the end of a line. -/
def carriageReturn : UInt8 := 0x0D

/-- A line of the file with what ends it, or one that is too long to be held. -/
inductive Line where
  | whole (octets : List UInt8)
  | overlong
deriving DecidableEq, Repr

namespace Line

/-- The octets before the given octet at the end, if it stands there. -/
def before (last : UInt8) (octets : List UInt8) : List UInt8 :=
  if octets.getLast? = some last then octets.dropLast else octets

/-- The octets of a line without what ends it. -/
def content (octets : List UInt8) : List UInt8 :=
  before carriageReturn (before lineEnd octets)

/-- The text of a line. -/
def text : Line → Except Rejection String
  | .overlong => .error .tooLong
  | .whole octets =>
      if longestLine < (content octets).length then .error .tooLong
      else match Text.Utf8.decode? (content octets) with
        | none => .error .notUtf8
        | some characters => .ok (String.ofList characters)

/-- The operation that a line asks for. -/
def operation (settings : Settings) (lookup : Lookup) (line : Line) : Reading (Option Operation) :=
  match line.text with
  | .error reason => ⟨[], .error reason⟩
  | .ok text => Operation.ofLine settings lookup text

end Line

end StaticMulticast.Configuration
