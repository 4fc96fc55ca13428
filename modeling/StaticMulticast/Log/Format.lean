import StaticMulticast.Log.Record
import StaticMulticast.Text.Quoted

/-!
# Log formats

A record is written on one line, in words for people or as a JSON object for programs. Both lines
carry the name of the daemon, and neither has a time stamp: the clock is not part of a record.

In words, the values of a record come last first, then its origin, then the daemon. As an object,
the level is a number, and the constant `v` is the version of the layout.
-/

namespace StaticMulticast.Log

/-- The name of the daemon. -/
def daemonName : String := "mcrouted"

/-- How records are written. -/
inductive Format where
  | human
  | json
deriving DecidableEq, Repr

namespace Format

/-- The name of a format. -/
def name : Format → String
  | .human => "human"
  | .json => "json"

/-- The format of a name in lower case. -/
def ofName? (text : String) : Option Format :=
  if text = "human" then some .human
  else if text = "json" then some .json
  else none

/-- The format of a name in any case. -/
def ofText? (text : String) : Option Format :=
  ofName? (String.ofList (text.toList.map Char.toLower))

/-- A text names no format. -/
structure Unknown where
  text : String
deriving DecidableEq, Repr

/-- The text that names no format, with those that do. -/
def Unknown.message (unknown : Unknown) : String :=
  "invalid log format: " ++ unknown.text ++ " (expected 'human' or 'json')"

/-- Reads the name of a format. -/
def read (text : String) : Except Unknown Format :=
  match ofText? text with
  | some format => .ok format
  | none => .error ⟨text⟩

end Format

namespace Record

/-! ## Words -/

/-- The value of a field in words. -/
def valueText : Option Nat → String
  | none => "None"
  | some number => toString number

/-- The keys and values of a line in words, in their order. -/
def pairs (record : Record) : List (String × String) :=
  (record.fields.reverse.map fun field => (field.1, valueText field.2)) ++
    (record.origin.toList.map fun origin => ("unit", origin.name)) ++ [("name", daemonName)]

/-- A record as a line in words. -/
def humanLine (record : Record) : String :=
  record.level.name ++ " " ++ record.message ++
    String.join (record.pairs.map fun pair => ", " ++ pair.1 ++ ": " ++ pair.2)

/-! ## Objects -/

/-- Four hexadecimal digits of a small number. -/
def fourDigits (number : Nat) : List Char :=
  let digits := Nat.toDigits 16 number
  List.replicate (4 - digits.length) '0' ++ digits

/-- A character as it stands in a JSON string. -/
def jsonEscape (character : Char) : List Char :=
  if character = '"' then ['\\', '"']
  else if character = '\\' then ['\\', '\\']
  else if character = '\n' then ['\\', 'n']
  else if character = '\r' then ['\\', 'r']
  else if character = '\t' then ['\\', 't']
  else if character.toNat = 8 then ['\\', 'b']
  else if character.toNat = 12 then ['\\', 'f']
  else if character.toNat < 32 then '\\' :: 'u' :: fourDigits character.toNat
  else [character]

/-- A text as a JSON string. -/
def jsonString (text : String) : String :=
  String.ofList ('"' :: text.toList.flatMap jsonEscape ++ ['"'])

/-- The value of a field in an object. -/
def jsonNumber : Option Nat → String
  | none => "null"
  | some number => toString number

/-- The members of an object, with their values as they are written. -/
def members (record : Record) : List (String × String) :=
  [("msg", jsonString record.message), ("v", "0"), ("name", jsonString daemonName),
      ("level", toString record.level.rank)] ++
    (record.origin.toList.map fun origin => ("unit", jsonString origin.name)) ++
    record.fields.map fun field => (field.1, jsonNumber field.2)

/-- A record as an object on one line. -/
def jsonLine (record : Record) : String :=
  "\x7b" ++ String.intercalate ","
    (record.members.map fun member => jsonString member.1 ++ ":" ++ member.2) ++ "\x7d"

/-- A record as a line of the log. -/
def line (record : Record) : Format → String
  | .human => record.humanLine
  | .json => record.jsonLine

/-- The time in front of a line in words. Its width is always the same, and a run without a clock
leaves it blank. -/
def noTime : Format → String
  | .human => String.ofList (List.replicate 20 ' ')
  | .json => ""

/-- A record as it stands in the log. -/
def entry (record : Record) (format : Format) : String :=
  noTime format ++ record.line format ++ "\n"

end Record

end StaticMulticast.Log
