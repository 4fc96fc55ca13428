import StaticMulticast.Text.Utf8

/-!
# The interpreter of a script

A file that begins with a number sign and an exclamation mark is run by another program: the rest
of its first line has the path of that program and perhaps one argument for it. Only the first
octets of the file are looked at, and a path that may go on beyond them is refused.
-/

namespace StaticMulticast.Host

/-- The program that runs a script, and the argument that comes before the path of the script. -/
structure Interpreter where
  path : String
  argument : Option String
deriving DecidableEq, Repr

namespace Interpreter

/-- The number of octets of a file that are looked at. -/
def window : Nat := 256

/-- The octet is a space or a tab. -/
def isBlank (octet : UInt8) : Bool :=
  octet = 0x20 || octet = 0x9

/-- The octet ends a path. -/
def endsPath (octet : UInt8) : Bool :=
  isBlank octet || octet = 0

/-- The octets after the two marks, up to the end of the line or almost to the end of the window. A
file that is shorter than the window goes on with a zero octet. There is no line where neither a
line end nor the end of a path is in the window. -/
def line? (octets : List UInt8) : Option (List UInt8) :=
  match octets.take window with
  | 0x23 :: 0x21 :: rest =>
      if rest.contains 0xA then some (rest.takeWhile (· != 0xA))
      else
        let padded := if octets.length < window then rest ++ [0] else rest
        if (padded.dropWhile isBlank).any endsPath then some (padded.take (window - 3)) else none
  | _ => none

/-- The text up to the first zero octet. -/
def text (octets : List UInt8) : String :=
  String.ofList (Text.Utf8.decodeLossy (octets.takeWhile (· != 0)))

/-- The interpreter that the first line of a file names. -/
def ofOctets? (octets : List UInt8) : Option Interpreter := do
  let line ← line? octets
  let line := ((line.reverse.dropWhile isBlank).reverse).dropWhile isBlank
  if line.isEmpty then none
  else
    let rest := line.dropWhile fun octet => !endsPath octet
    let argument := match rest with
      | 0 :: _ | [] => none
      | _ => some (text (rest.dropWhile isBlank))
    some ⟨text (line.takeWhile fun octet => !endsPath octet), argument⟩

end Interpreter

end StaticMulticast.Host
