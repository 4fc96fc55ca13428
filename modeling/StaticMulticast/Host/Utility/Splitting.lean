import StaticMulticast.Host.Utility.Start
import StaticMulticast.Text.Regular

/-!
# Division a file into files

`split` cuts a text into parts of one size, and `csplit` at lines that are told by their numbers or
by expressions. The files that the parts go to are named by counting.
-/

namespace StaticMulticast.Host.Utility

open Action
open StaticMulticast.Text (Regular)

/-! ## Names of parts -/

/-- The digits of a number, at least so many of them. -/
def countedDigits (digits : List Char) (width number : Nat) : String :=
  let base := digits.length
  let rec go : Nat → Nat → List Char → List Char
    | 0, _, done => done
    | left + 1, number, done =>
        let digit := digits[number % base]?.getD '0'
        if number < base && width ≤ done.length + 1 then digit :: done
        else go left (number / base) (digit :: done)
  String.ofList (go (width + 64) number [])

/-- How parts are named: the digits, their number, the number of the first part, and what stands
around them. -/
structure PartNames where
  digits : List Char := "abcdefghijklmnopqrstuvwxyz".toList
  width : Nat := 2
  start : Nat := 0
  front : String := "x"
  behind : String := ""

/-- The name of a part. -/
def PartNames.name (names : PartNames) (number : Nat) : String :=
  names.front ++ countedDigits names.digits names.width (names.start + number) ++ names.behind

/-- The number of parts that can be named. -/
def PartNames.room (names : PartNames) : Nat :=
  Nat.pow names.digits.length names.width - names.start

/-! ## Parts of one size -/

/-- Pieces of so many members each. The bound is on their number. -/
def chunks {Member : Type} (size : Nat) : Nat → List Member → List (List Member)
  | 0, _ => []
  | _ + 1, [] => []
  | bound + 1, members => members.take size :: chunks size bound (members.drop size)

/-- Lines with their ends. -/
def closedLines (mark : Char) (text : String) : List String :=
  let (lines, isEnded) := cutLines mark text
  lines.mapIdx fun index line =>
    if index + 1 < lines.length || isEnded then line.push mark else line

/-- Lines put together up to a number of octets. A line that is longer is cut. The bound is on the
number of lines and pieces. -/
def packed (size : Nat) : Nat → String → List String → List String
  | 0, begun, _ => [begun]
  | _ + 1, begun, [] => if begun.isEmpty then [] else [begun]
  | bound + 1, begun, line :: rest =>
      if begun.length + line.length ≤ size then packed size bound (begun ++ line) rest
      else if !begun.isEmpty then begun :: packed size bound "" (line :: rest)
      else
        let letters := line.toList
        String.ofList (letters.take size) ::
          packed size bound "" (String.ofList (letters.drop size) :: rest)

/-- Where parts of nearly one size end, so many of them. The first ones are greater. -/
def shareEnds (count length : Nat) : List Nat :=
  (List.range count).map fun index =>
    length / count * (index + 1) + min (index + 1) (length % count)

/-- Parts of nearly one size. -/
def evenParts (count : Nat) (text : String) : List String :=
  let letters := text.toList
  let ends := shareEnds count letters.length
  (ends.zip (0 :: ends)).map fun (stop, start) =>
    String.ofList ((letters.drop start).take (stop - start))

/-- Parts of nearly one size that are whole lines: a line belongs to the part in which it begins. -/
def evenLines (count : Nat) (mark : Char) (text : String) : List String :=
  let ends := shareEnds count text.length
  let (parts, _) := (closedLines mark text).foldl
    (fun (parts, place) line =>
      let index := (ends.findIdx? fun stop => place < stop).getD (count - 1)
      (parts.modify index fun lines => line :: lines, place + line.length))
    ((List.replicate count []).toArray, 0)
  parts.toList.map fun lines => String.join lines.reverse

/-- Parts to which lines go in turn. -/
def turns (count : Nat) (mark : Char) (text : String) : List String :=
  let lines := (closedLines mark text).mapIdx fun index line => (index % count, line)
  (List.range count).map fun part =>
    String.join ((lines.filter fun row => row.1 = part).map fun row => row.2)

/-- How a text is cut. -/
inductive Division where
  | lines (count : Nat)
  | octets (count : Nat)
  | lineOctets (count : Nat)
  /-- So many parts, by octets, by whole lines or in turn, perhaps only one of which is wanted. -/
  | parts (manner : Char) (wanted : Option Nat) (count : Nat)

/-- The parts of a text. -/
def Division.parts? (division : Division) (mark : Char) (text : String) : List String :=
  match division with
  | .lines count =>
      let lines := closedLines mark text
      (chunks count (lines.length + 1) lines).map String.join
  | .octets count => (chunks count (text.length + 1) text.toList).map String.ofList
  | .lineOctets count =>
      let lines := closedLines mark text
      packed count (2 * text.length + 2) "" lines
  | .parts 'l' _ count => evenLines count mark text
  | .parts 'r' _ count => turns count mark text
  | .parts _ _ count => evenParts count text

/-- The way to cut into a number of parts that a text asks for. -/
def partsOf? (text : String) : Option Division := do
  let (manner, rest) := match text.splitOn "/" with
    | "l" :: rest => ('l', rest)
    | "r" :: rest => ('r', rest)
    | rest => ('b', rest)
  match rest with
  | [count] => do
      let count ← (← count.toNat?) |> fun count => if count = 0 then none else some count
      some (.parts manner none count)
  | [wanted, count] => do
      let wanted ← wanted.toNat?
      let count ← count.toNat?
      if 0 < wanted && wanted ≤ count then some (.parts manner (some wanted) count) else none
  | _ => none

/-- The options of `split`. Some have no letter. -/
def splitOptions : List Known :=
  [⟨'a', "suffix-length", .text⟩, ⟨'b', "bytes", .text⟩, ⟨'C', "line-bytes", .text⟩,
    ⟨'d', "", .nothing⟩, ⟨'x', "", .nothing⟩, ⟨'e', "elide-empty-files", .nothing⟩,
    ⟨'l', "lines", .text⟩, ⟨'n', "number", .text⟩, ⟨'t', "separator", .text⟩,
    ⟨'u', "unbuffered", .nothing⟩, ⟨Char.ofNat 1, "additional-suffix", .text⟩,
    ⟨Char.ofNat 2, "numeric-suffixes", .attached⟩, ⟨Char.ofNat 3, "hex-suffixes", .attached⟩,
    ⟨Char.ofNat 4, "filter", .text⟩, ⟨Char.ofNat 5, "verbose", .nothing⟩]

/-- How the options want a text to be cut, or what is wrong with them. -/
def divisionOf (given : Given) : Except String Division :=
  given.options.foldlM (fun division (letter, text) => do
    let sized (kind : String) (make : Nat → Division) : Except String Division :=
      match amount? text with
      | some (count + 1) => .ok (make (count + 1))
      | _ => .error ("invalid number of " ++ kind ++ ": '" ++ text ++ "'")
    match letter with
    | 'l' => sized "lines" .lines
    | 'b' => sized "bytes" .octets
    | 'C' => sized "bytes" .lineOctets
    | 'n' =>
        match partsOf? text with
        | some division => .ok division
        | none => .error ("invalid number of chunks: '" ++ text ++ "'")
    | _ => pure division) (.lines 1000)

/-- How the options want parts to be named. -/
def namesOf (given : Given) (front : String) : PartNames :=
  let numbered (letter : Char) : Option Nat := (given.text? letter).map fun text => text.toNat?.getD 0
  let isDecimal := given.has 'd' || given.has (Char.ofNat 2)
  let isSixteen := given.has 'x' || given.has (Char.ofNat 3)
  { digits := if isSixteen then "0123456789abcdef".toList
      else if isDecimal then "0123456789".toList
      else "abcdefghijklmnopqrstuvwxyz".toList
    width := ((given.text? 'a').bind String.toNat?).getD 2
    start := ((numbered (Char.ofNat 2)).or (numbered (Char.ofNat 3))).getD 0
    front
    behind := (given.text? (Char.ofNat 1)).getD "" }

/-- Writes a part, to a file or to a command that is given its name. -/
def writePart (again : Runner) (given : Given) (name text : String) : Action Nat := do
  match given.text? (Char.ofNat 4) with
  | some command => do
      let status ← inChild do
        let (reading, writing) ← makePipe
        setDescriptor 0 (some reading)
        writeOpen writing text
        setBinding "FILE" (some { value := .single name, isExported := true })
        setStatus (← becomeWords again ["/bin/sh", "-c", command])
      pure (statusOf status)
  | none => do
      if given.has (Char.ofNat 5) then
        let _ ← answer ("creating file '" ++ name ++ "'\n")
      match ← writePath name text with
      | none => pure 0
      | some fault => refuse 1 (shownPath name ++ ": " ++ fault.reason)

/-- Writes parts, each under its own name. -/
def writeParts (again : Runner) (given : Given) (names : PartNames) :
    Nat → List String → Action Nat
  | _, [] => pure 0
  | number, part :: rest => do
      if given.has 'e' && part.isEmpty then writeParts again given names number rest
      else if names.room ≤ number then refuse 1 "output file suffixes exhausted"
      else do
        let status ← writePart again given (names.name number) part
        if status != 0 then pure status else writeParts again given names (number + 1) rest

/-- Cuts a file into parts of one size. -/
def runSplit (again : Runner) (arguments : List String) : Action Nat :=
  withOptions 1 splitOptions arguments fun given => do
    match divisionOf given, given.operands with
    | .error message, _ => refuse 1 message
    | _, _ :: _ :: extra :: _ => refuseUse 1 ("extra operand '" ++ extra ++ "'")
    | .ok division, operands => do
        let path := operands.headD "-"
        match ← readOperand path with
        | .error fault =>
            refuse 1 ("cannot open '" ++ path ++ "' for reading: " ++ fault.reason)
        | .ok text =>
            let mark := match (given.text? 't').map String.toList with
              | some ['\\', '0'] => Char.ofNat 0
              | some (letter :: _) => letter
              | _ => '\n'
            let parts := division.parts? mark text
            match division with
            | .parts _ (some wanted) _ => answer ((parts[wanted - 1]?).getD "")
            | _ => writeParts again given (namesOf given (operands[1]?.getD "x")) 0 parts

/-! ## Division at lines -/

/-- Where a file is cut. -/
inductive CutPlace where
  | line (number : Nat)
  /-- A line that an expression describes, or one at a distance from it. What is in front of it can
  be left out. -/
  | match (isKept : Bool) (expression : Regular) (text : String) (distance : Int)

/-- How often a file is cut in a way, after the first time. -/
inductive CutCount where
  | times (count : Nat)
  | always

/-- The number behind an expression: its distance. -/
def distance? (text : List Char) : Option Int :=
  match text with
  | [] => some 0
  | '+' :: digits => (String.ofList digits).toNat?.map Int.ofNat
  | '-' :: digits => (String.ofList digits).toNat?.map fun number => -Int.ofNat number
  | digits => (String.ofList digits).toNat?.map Int.ofNat

/-- The letters up to a mark that no backslash stands before, and those behind it. -/
def upToMark (mark : Char) : List Char → Option (List Char × List Char)
  | [] => none
  | '\\' :: letter :: rest => (upToMark mark rest).map fun (inside, after) =>
      ('\\' :: letter :: inside, after)
  | letter :: rest =>
      if letter = mark then some ([], rest)
      else (upToMark mark rest).map fun (inside, after) => (letter :: inside, after)

/-- The place that an argument means. -/
def cutPlace? (text : String) : Option CutPlace :=
  match text.toList with
  | mark :: rest =>
      if mark = '/' || mark = '%' then do
        let (inside, after) ← upToMark mark rest
        let expression ← Regular.ofText? .basic (String.ofList inside)
        some (.match (mark = '/') expression text (← distance? after))
      else (text.toNat?.filter (0 < ·)).map .line
  | [] => none

/-- How often a place is meant, if the argument tells that. -/
def cutCount? (text : String) : Option CutCount :=
  match text.toList with
  | '\x7b' :: rest =>
      if rest = ['*', '\x7d'] then some .always
      else if rest.getLast? = some '\x7d' then
        ((String.ofList rest.dropLast).toNat?).map .times
      else none
  | _ => none

/-- The places that arguments mean, each with how often, or the argument that is wrong. A place that
has been read may still be followed by how often it is meant. -/
def cutPlaces (begun : Option CutPlace) : List String → Except String (List (CutPlace × CutCount))
  | [] => .ok (begun.toList.map fun place => (place, .times 0))
  | text :: rest =>
      match begun, cutCount? text with
      | some place, some count => do pure ((place, count) :: (← cutPlaces none rest))
      | _, _ =>
          match cutPlace? text with
          | none => .error text
          | some next => do
              let others ← cutPlaces (some next) rest
              pure (begun.toList.map (fun place => (place, .times 0)) ++ others)

/-- The state while a file is cut: the lines that are left with the number of the first, the number of
the line that was looked at last, and the parts that are done, the last one first. -/
structure CutState where
  lines : List String
  first : Nat := 1
  current : Nat := 0
  parts : List String := []

/-- Takes so many lines. -/
def CutState.take (state : CutState) (count : Nat) : String × CutState :=
  (String.join (state.lines.take count),
    { state with
      lines := state.lines.drop count
      first := state.first + min count state.lines.length
      current := max state.current (state.first + count - 1) })

/-- How cutting goes on: as it should, or up to the end of the file because nothing more is found, or
with a fault. -/
inductive CutResult where
  | goes (state : CutState)
  | ends (state : CutState)
  | fails (state : CutState) (message : String)

/-- Drops the line at which the file has been cut, if that is wanted. -/
def CutState.dropCut (state : CutState) (drops : Bool) : CutState :=
  if drops then (state.take 1).2 else state

/-- Cuts once. It is told how often it has been cut in this way before. -/
def CutState.cut (state : CutState) (drops : Bool) (time : Nat) (count : CutCount) :
    CutPlace → CutResult
  | .line number =>
      let wanted := number * (time + 1)
      let taken := wanted - state.first
      let message := "'" ++ toString number ++ "': line number out of range" ++
        (if time = 0 then "" else " on repetition " ++ toString time)
      let isShort := state.lines.length ≤ taken
      let (part, state) := state.take taken
      let state := { state with parts := part :: state.parts }
      if isShort then .fails state message else .goes (state.dropCut drops)
  | .match isKept expression text distance =>
      let start := max (state.current + 1) state.first
      let later := state.lines.drop (start - state.first)
      let holds (line : String) : Bool :=
        let line := line.toList
        let line := if line.getLast? = some '\n' then line.dropLast else line
        (Regular.search expression { text := line } 0).isSome
      let addRest (state : CutState) : CutState :=
        let (part, state) := state.take state.lines.length
        if isKept then { state with parts := part :: state.parts } else state
      match later.findIdx? holds with
      | none =>
          match count with
          | .always => .ends (addRest state)
          | .times _ =>
              let behind := if time = 0 then "" else " on repetition " ++ toString time
              .fails (addRest state) ("'" ++ text ++ "': match not found" ++ behind)
      | some index =>
          let found := Int.ofNat (start + index) + distance
          let stop := Int.ofNat (state.first + state.lines.length)
          if found < state.first || stop < found then
            let state := addRest state
            .fails state ("'" ++ text ++ "': line number out of range")
          else
            let (part, state) := state.take (found - state.first).toNat
            let state := { state with current := found.toNat }
            let state := if isKept then { state with parts := part :: state.parts } else state
            .goes (state.dropCut drops)

/-- Cuts as often as a place is meant. The bound is on that. -/
def CutState.cutOften (drops : Bool) (place : CutPlace) (count : CutCount) :
    Nat → Nat → CutState → CutResult
  | 0, _, state => .goes state
  | bound + 1, time, state =>
      let isOver : Bool := match count with
        | .times most => most < time
        | .always => false
      if isOver then .goes state
      else match state.cut drops time count place with
      | .goes state => cutOften drops place count bound (time + 1) state
      | result => result

/-- Cuts at all places. -/
def CutState.cutAll (drops : Bool) (state : CutState) :
    List (CutPlace × CutCount) → CutResult
  | [] => .ends { state with parts := String.join state.lines :: state.parts, lines := [] }
  | (place, count) :: rest =>
      match state.cutOften drops place count (state.lines.length + 4) 0 with
      | .goes state => state.cutAll drops rest
      | result => result

/-- The options of `csplit`. -/
def csplitOptions : List Known :=
  [⟨'f', "prefix", .text⟩, ⟨'b', "suffix-format", .text⟩, ⟨'n', "digits", .text⟩,
    ⟨'k', "keep-files", .nothing⟩, ⟨'s', "silent", .nothing⟩, ⟨'s', "quiet", .nothing⟩,
    ⟨'z', "elide-empty-files", .nothing⟩, ⟨Char.ofNat 1, "suppress-matched", .nothing⟩]

/-- Writes parts under their names. The number of octets of each is told, unless that is not wanted. -/
def writeCuts (given : Given) (parts : List String) : Action (List String) := do
  let parts := if given.has 'z' then parts.filter fun part => !part.isEmpty else parts
  let width := ((given.text? 'n').bind String.toNat?).getD 2
  let front := (given.text? 'f').getD "xx"
  let nameOf (number : Nat) : String := front ++ match given.text? 'b' with
    | some format => writtenText (formatted .program 0 0 format [toString number]).1
    | none => countedDigits "0123456789".toList width number
  let rows := parts.mapIdx fun index part => (nameOf index, part)
  rows.forM fun (name, part) => do
    match ← writePath name part with
    | some fault => report name fault
    | none => pure ()
    if !given.has 's' then
      let _ ← answer (toString part.length ++ "\n")
  pure (rows.map fun row => row.1)

/-- Cuts a file at lines. -/
def runCsplit (arguments : List String) : Action Nat :=
  withOptions 1 csplitOptions arguments fun given => do
    match given.operands with
    | [] => refuseUse 1 "missing operand"
    | [path] => refuseUse 1 ("missing operand after " ++ inQuotes path)
    | path :: places =>
        match cutPlaces none places with
        | .error text => refuse 1 (inQuotes text ++ ": invalid pattern")
        | .ok places => do
            match ← readOperand path with
            | .error fault =>
                refuse 1 ("cannot open '" ++ path ++ "' for reading: " ++ fault.reason)
            | .ok text => do
                let drops := given.has (Char.ofNat 1)
                let state : CutState := { lines := closedLines '\n' text }
                match state.cutAll drops places with
                | .goes state | .ends state => do
                    let _ ← writeCuts given state.parts.reverse
                    pure 0
                | .fails state message => do
                    let names ← writeCuts given state.parts.reverse
                    if !given.has 'k' then
                      let working := (← process).working
                      names.forM fun name => do
                        match (← files).locate false working (pathOf name) with
                        | .ok location => modifyFiles fun files => files.prune location
                        | .error _ => pure ()
                    refuse 1 message

end StaticMulticast.Host.Utility
