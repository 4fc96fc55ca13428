import StaticMulticast.Configuration.Settings
import StaticMulticast.Text.Decimal

/-!
# Clauses of a configuration line

After its command, a line is a sequence of clauses in any order. Some keywords take the next word as
their value, whatever it is, `to` takes all the words that are left, and any other word stands
alone. The clauses fill in a record of what the line says. Where a keyword repeats, its last clause
counts.
-/

namespace StaticMulticast.Configuration

/-- What a keyword with a value sets. -/
inductive Field where
  | inbound
  | source
  | group
  | threshold
deriving DecidableEq, Repr

/-- A word with a meaning of its own. -/
inductive Keyword where
  | valued (field : Field)
  | outbound
  | activation (enable : Bool)
deriving DecidableEq, Repr

/-- The keyword that is spelled as the given word. -/
def Keyword.ofWord? (word : String) : Option Keyword :=
  if word = "from" then some (.valued .inbound)
  else if word = "source" then some (.valued .source)
  else if word = "group" then some (.valued .group)
  else if word = "ttl-threshold" then some (.valued .threshold)
  else if word = "to" then some .outbound
  else if word = "enable" then some (.activation true)
  else if word = "disable" then some (.activation false)
  else none

/-- A part of a line. The value of a keyword is absent only at the end of the line. -/
inductive Clause where
  | valued (field : Field) (value : Option String)
  | outbound (names : List String)
  | activation (enable : Bool)
  | unknown (word : String)
deriving DecidableEq, Repr

/-- The clauses that a sequence of words makes up. -/
def Clause.read : List String → List Clause
  | [] => []
  | word :: rest =>
      match Keyword.ofWord? word with
      | none => .unknown word :: read rest
      | some (.activation enable) => .activation enable :: read rest
      | some .outbound => [.outbound rest]
      | some (.valued field) =>
          match rest with
          | [] => [.valued field none]
          | value :: rest => .valued field (some value) :: read rest

/-- What a line says. -/
structure Content where
  inbound : Option String
  source : Option String
  group : Option String
  outbound : List String
  enable : Bool
  threshold : UInt8
deriving DecidableEq, Repr

/-- What a threshold clause comes to. -/
inductive ThresholdReading where
  | set (threshold : UInt8)
  | outOfRange (number : Int)
  | unreadable
deriving DecidableEq, Repr

/-- Reads a threshold, which is a number from 1 to 255. -/
def ThresholdReading.ofText (text : String) : ThresholdReading :=
  match Text.Decimal.signed64? text.toList with
  | none => .unreadable
  | some number =>
      if 1 ≤ number && number ≤ 255 then .set (UInt8.ofNat number.toNat) else .outOfRange number

namespace Content

/-- What a line says before its first clause. -/
def initial (settings : Settings) (inbound : Option String) : Content :=
  ⟨inbound, none, none, [], settings.defaultEnable, settings.threshold⟩

/-- What a line says after one more clause. -/
def apply (content : Content) : Clause → Content
  | .valued .inbound value => { content with inbound := value }
  | .valued .source value => { content with source := value }
  | .valued .group value => { content with group := value }
  | .valued .threshold none => content
  | .valued .threshold (some text) =>
      match ThresholdReading.ofText text with
      | .set threshold => { content with threshold }
      | _ => content
  | .outbound names => { content with outbound := content.outbound ++ names }
  | .activation enable => { content with enable }
  | .unknown _ => content

/-- What a line says after all its clauses. -/
def applyAll (content : Content) (clauses : List Clause) : Content :=
  clauses.foldl apply content

end Content

end StaticMulticast.Configuration
