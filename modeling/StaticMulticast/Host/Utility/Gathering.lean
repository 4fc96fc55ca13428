import StaticMulticast.Host.Utility.Sorting

/-!
# Gathering lines

Programs about lines that are sorted: which of them stand more than once, which stand in only one of
two files, and which of two files belong together. `tsort` puts names in an order that keeps what is
known of pairs of them.
-/

namespace StaticMulticast.Host.Utility

open Action

/-! ## Repeated lines -/

/-- How lines are compared: so many fields and letters are passed over, so many letters are
compared, and small letters may count as great ones. -/
structure Sameness where
  fields : Nat := 0
  letters : Nat := 0
  width : Option Nat := none
  ignoresCase : Bool := false

/-- The part of a line that is compared. -/
def Sameness.key (sameness : Sameness) (line : String) : List Char :=
  let after := (afterFields sameness.fields line.toList).drop sameness.letters
  let taken := match sameness.width with
    | some width => after.take width
    | none => after
  if sameness.ignoresCase then taken.map Char.toUpper else taken

/-- Lines in groups of those that follow one another and count as the same. -/
def Sameness.groups (sameness : Sameness) : List String → List (List String)
  | [] => []
  | line :: rest =>
      match sameness.groups rest with
      | (next :: group) :: groups =>
          if sameness.key line = sameness.key next then (line :: next :: group) :: groups
          else [line] :: (next :: group) :: groups
      | groups => [line] :: groups

/-- The mark of the option to write groups of lines. -/
def groupMark : Char := Char.ofNat 1

/-- The options of `uniq`. -/
def uniqOptions : List Known :=
  [⟨'c', "count", .nothing⟩, ⟨'d', "repeated", .nothing⟩, ⟨'D', "", .nothing⟩,
    ⟨Char.ofNat 2, "all-repeated", .attached⟩, ⟨'f', "skip-fields", .text⟩,
    ⟨groupMark, "group", .attached⟩, ⟨'i', "ignore-case", .nothing⟩, ⟨'s', "skip-chars", .text⟩,
    ⟨'u', "unique", .nothing⟩, ⟨'z', "zero-terminated", .nothing⟩, ⟨'w', "check-chars", .text⟩]

/-- The lines of groups, with empty lines between groups or around them. -/
def spaced (before after : Bool) (groups : List (List String)) : List String :=
  let between := List.flatten (groups.intersperse [""])
  (if before && !groups.isEmpty then [""] else []) ++ between ++
    if after && !groups.isEmpty then [""] else []

/-- What is written of groups of lines. -/
def uniqLines (given : Given) (groups : List (List String)) : List String :=
  let all := (given.text? (Char.ofNat 2)).orElse fun _ => (given.text? 'D')
  let repeated := groups.filter fun group => 1 < group.length
  match given.text? groupMark, all with
  | some kind, _ =>
      spaced (["prepend", "both"].contains kind) (["append", "both"].contains kind) groups
  | none, some "prepend" => spaced true false repeated
  | none, some "separate" => spaced false false repeated
  | none, some _ => repeated.flatten
  | none, none =>
      let shown := groups.filter fun group =>
        (!given.has 'd' || 1 < group.length) && (!given.has 'u' || group.length = 1)
      shown.map fun group =>
        (if given.has 'c' then atWidth 7 group.length ++ " " else "") ++ group.headD ""

/-- The arguments, where numbers behind a minus or a plus sign are fields or letters to pass over.
-/
def withSkips (arguments : List String) : List String :=
  arguments.flatMap fun argument =>
    match argument.toList with
    | '-' :: digit :: rest =>
        if (digit :: rest).all Char.isDigit then ["-f", String.ofList (digit :: rest)]
        else [argument]
    | '+' :: digit :: rest =>
        if (digit :: rest).all Char.isDigit then ["-s", String.ofList (digit :: rest)]
        else [argument]
    | _ => [argument]

/-- Writes lines once that follow one another and are the same. -/
def runUniq (arguments : List String) : Action Nat :=
  withOptions 1 uniqOptions (withSkips arguments) fun given => do
    let number (letter : Char) : Option Nat := (given.text? letter).bind String.toNat?
    let bad := ['f', 's', 'w'].find? fun letter => given.has letter && (number letter).isNone
    let ending := if given.has 'z' then Char.ofNat 0 else '\n'
    let sameness : Sameness :=
      { fields := (number 'f').getD 0
        letters := (number 's').getD 0
        width := number 'w'
        ignoresCase := given.has 'i' }
    let showsAll := given.has 'D' || given.has (Char.ofNat 2)
    match bad with
    | some letter =>
        let deed := if letter = 'f' then "fields to skip"
          else if letter = 's' then "bytes to skip" else "bytes to compare"
        refuse 1 ((given.text? letter).getD "" ++ ": invalid number of " ++ deed)
    | none =>
        if given.has groupMark && (showsAll || ['c', 'd', 'u'].any given.has) then
          refuseUse 1 "--group is mutually exclusive with -c/-d/-D/-u"
        else if showsAll && given.has 'c' then
          refuseUse 1 "printing all duplicated lines and repeat counts is meaningless"
        else match given.operands with
        | _ :: _ :: extra :: _ => refuseUse 1 ("extra operand " ++ inQuotes extra)
        | operands => do
            let (texts, status) ← readEach 1 [operands.headD "-"]
            if status != 0 then pure status
            else do
              let fault ← match operands[1]? with
                | some "-" | none => pure none
                | some path => do
                    let fault ← redirectOutput path
                    fault.forM (report path)
                    pure fault
              if fault.isSome then pure 1
              else
                let lines := (cutLines ending (together texts)).1
                finish 0 (joinCut ending true (uniqLines given (sameness.groups lines)))

/-! ## Lines of two files -/

/-- Where a line of two sorted files stands: in the first, in the second, or in both. -/
inductive Side where
  | first
  | second
  | both
deriving DecidableEq, Repr

/-- The lines of two sorted files, each with where it stands. The bound is on their number. -/
def sides : Nat → List String → List String → List (Side × String)
  | 0, _, _ => []
  | _ + 1, first, [] => first.map (Side.first, ·)
  | _ + 1, [], second => second.map (Side.second, ·)
  | bound + 1, one :: first, other :: second =>
      match compareLetters one.toList other.toList with
      | .lt => (.first, one) :: sides bound first (other :: second)
      | .gt => (.second, other) :: sides bound (one :: first) second
      | .eq => (.both, one) :: sides bound first second

/-- The lines are in order. -/
def areSorted (lines : List String) : Bool :=
  (({ } : LineOrder).disorder? 1 lines).isNone

/-- Writes which lines stand in one of two sorted files only, and which in both. -/
def runComm (arguments : List String) : Action Nat := do
  let known : List Known := [⟨'1', "", .nothing⟩, ⟨'2', "", .nothing⟩, ⟨'3', "", .nothing⟩,
    ⟨'c', "check-order", .nothing⟩, ⟨'n', "nocheck-order", .nothing⟩,
    ⟨'o', "output-delimiter", .text⟩, ⟨'t', "total", .nothing⟩, ⟨'z', "zero-terminated", .nothing⟩]
  withOptions 1 known arguments fun given => do
    let ending := if given.has 'z' then Char.ofNat 0 else '\n'
    match given.operands with
    | [] => refuseUse 1 "missing operand"
    | [path] => refuseUse 1 ("missing operand after " ++ inQuotes path)
    | [one, other] => do
        let (firsts, failed) ← readEach 1 [one]
        let (seconds, alsoFailed) ← if failed = 0 then readEach 1 [other] else pure ([], 1)
        if max failed alsoFailed != 0 then pure 1
        else do
          let linesIn (texts : List (String × String)) : List String :=
            (cutLines ending (together texts)).1
          let first := linesIn firsts
          let second := linesIn seconds
          let found := sides (first.length + second.length + 1) first second
          let gap := (given.text? 'o').getD "\t"
          let gap := if gap.isEmpty then String.singleton (Char.ofNat 0) else gap
          let front (letters : List Char) : String :=
            String.join ((letters.filter fun letter => !given.has letter).map fun _ => gap)
          let shown := found.filterMap fun (side, line) =>
            match side with
            | .first => if given.has '1' then none else some line
            | .second => if given.has '2' then none else some (front ['1'] ++ line)
            | .both => if given.has '3' then none else some (front ['1', '2'] ++ line)
          let count (side : Side) : String := toString (found.countP fun row => row.1 = side)
          let total := if given.has 't' then
              [String.intercalate gap [count .first, count .second, count .both, "total"]]
            else []
          let unpaired := found.any fun row => row.1 != .both
          let checks := given.has 'c' || (!given.has 'n' && unpaired)
          let wrong := [(first, "1"), (second, "2")].filter fun (lines, _) =>
            checks && !areSorted lines
          wrong.forM fun (_, number) =>
            complain ("file " ++ number ++ " is not in sorted order")
          let status ← finish 0 (joinCut ending true (shown ++ total))
          if wrong.isEmpty then pure status
          else do
            if !given.has 'c' then complain "input is not in sorted order"
            pure 1
    | _ :: _ :: extra :: _ => refuseUse 1 ("extra operand " ++ inQuotes extra)

/-- What `join` has been asked for: the fields that must be the same, the mark between fields, the
text for what is missing, whether letters are compared as they are, which lines are written that
have no partner, whether those that have one are, and the form of a line. -/
structure Joining where
  fields : Nat × Nat := (0, 0)
  mark : Option Char := none
  missing : String := ""
  ignoresCase : Bool := false
  alone : Bool × Bool := (false, false)
  pairs : Bool := true
  /-- The places of lines that are written: the number of the file, or zero, and of the field. -/
  form : Option (List (Nat × Nat)) := none

namespace Joining

/-- The fields of a line. -/
def fieldsOf (joining : Joining) (line : String) : List String :=
  match joining.mark with
  | some mark => (List.splitOnP (· == mark) line.toList).map String.ofList
  | none =>
      let words := ((List.splitOnP isGap line.toList).filter fun piece => !piece.isEmpty)
      words.map String.ofList

/-- A field of a line, which is empty if it is missing. -/
def field (fields : List String) (index : Nat) : String :=
  (fields[index]?).getD ""

/-- Compares two fields. -/
def compare (joining : Joining) (first second : String) : Ordering :=
  let letters (text : String) : List Char :=
    if joining.ignoresCase then text.toList.map Char.toUpper else text.toList
  compareLetters (letters first) (letters second)

/-- A line of two that belong together, or of one that has no partner. -/
def row (joining : Joining) (key : String) (first second : Option (List String)) : String :=
  let filled (text : String) : String := if text.isEmpty then joining.missing else text
  let gap := String.singleton (joining.mark.getD ' ')
  let cells := match joining.form with
    | some places => places.map fun (file, index) =>
        if file = 0 then filled key
        else
          let fields := if file = 1 then first else second
          filled ((fields.bind fun fields => fields[index]?).getD "")
    | none =>
        let others (fields : Option (List String)) (index : Nat) : List String :=
          ((fields.getD []).eraseIdx index).map filled
        filled key :: others first joining.fields.1 ++ others second joining.fields.2
  String.intercalate gap cells

/-- The lines that two sorted lists of lines give. The bound is on their number. -/
def rows (joining : Joining) : Nat → List (List String) → List (List String) → List String
  | 0, _, _ => []
  | _ + 1, [], [] => []
  | bound + 1, first, second =>
      let keyOf (index : Nat) (fields : List String) : String := field fields index
      let firstAlone (fields : List String) : List String :=
        if joining.alone.1 then [joining.row (keyOf joining.fields.1 fields) (some fields) none]
        else []
      let secondAlone (fields : List String) : List String :=
        if joining.alone.2 then [joining.row (keyOf joining.fields.2 fields) none (some fields)]
        else []
      match first, second with
      | one :: ones, [] => firstAlone one ++ joining.rows bound ones []
      | [], other :: others => secondAlone other ++ joining.rows bound [] others
      | [], [] => []
      | one :: ones, other :: others =>
          let key := keyOf joining.fields.1 one
          match joining.compare key (keyOf joining.fields.2 other) with
          | .lt => firstAlone one ++ joining.rows bound ones (other :: others)
          | .gt => secondAlone other ++ joining.rows bound (one :: ones) others
          | .eq =>
              let isSame (index : Nat) (fields : List String) : Bool :=
                joining.compare key (keyOf index fields) = .eq
              let (left, first) := (one :: ones).span (isSame joining.fields.1)
              let (right, second) := (other :: others).span (isSame joining.fields.2)
              let pairs := left.flatMap fun one => right.map fun other =>
                joining.row key (some one) (some other)
              (if joining.pairs then pairs else []) ++ joining.rows bound first second

/-- The form of lines that a text gives. -/
def form? (text : String) : Option (List (Nat × Nat)) :=
  let words := (List.splitOnP (fun letter => letter = ',' || isGap letter) text.toList).filter
    fun piece => !piece.isEmpty
  words.mapM fun word =>
    match word with
    | ['0'] => some (0, 0)
    | '1' :: '.' :: digits => (Text.Decimal.digits? digits).map fun index => (1, index - 1)
    | '2' :: '.' :: digits => (Text.Decimal.digits? digits).map fun index => (2, index - 1)
    | _ => none

/-- The form that gives each line of two lists as many fields as their first ones have. -/
def formOf (joining : Joining) (first second : List (List String)) : List (Nat × Nat) :=
  let others (file index : Nat) (lines : List (List String)) : List (Nat × Nat) :=
    ((List.range ((lines.headD []).length)).filter (· != index)).map fun index => (file, index)
  (0, 0) :: others 1 joining.fields.1 first ++ others 2 joining.fields.2 second

end Joining

/-- The mark of the option for a line of names at the front. -/
def headerMark : Char := Char.ofNat 1

/-- Writes lines of two sorted files together that have the same field. -/
def runJoin (arguments : List String) : Action Nat := do
  let known := [⟨'i', "ignore-case", .nothing⟩, ⟨headerMark, "header", .nothing⟩,
    ⟨'z', "zero-terminated", .nothing⟩, ⟨Char.ofNat 2, "check-order", .nothing⟩,
    ⟨Char.ofNat 3, "nocheck-order", .nothing⟩] ++ knownLetters "" "12ajveot"
  withOptions 1 known arguments fun given => do
    let ending := if given.has 'z' then Char.ofNat 0 else '\n'
    let number (letter : Char) : Option Nat :=
      ((given.text? letter).orElse fun _ => given.text? 'j').bind String.toNat?
    let alone := given.texts 'a' ++ given.texts 'v'
    let isBad := (given.text? 't').any fun text => text != "\\0" && 1 < text.length
    match given.operands with
    | [] => refuseUse 1 "missing operand"
    | [path] => refuseUse 1 ("missing operand after " ++ inQuotes path)
    | [one, other] => do
        let (firsts, failed) ← readEach 1 [one]
        let (seconds, alsoFailed) ← if failed = 0 then readEach 1 [other] else pure ([], 1)
        if max failed alsoFailed != 0 then pure 1
        else if isBad then
          refuse 1 ("multi-character tab " ++ inQuotes ((given.text? 't').getD ""))
        else do
          let joining : Joining :=
            { fields := (((number '1').getD 1) - 1, ((number '2').getD 1) - 1)
              mark := (given.text? 't').map fun text =>
                if text = "\\0" then Char.ofNat 0 else text.toList.headD '\n'
              missing := (given.text? 'e').getD ""
              ignoresCase := given.has 'i'
              alone := (alone.contains "1", alone.contains "2")
              pairs := !given.has 'v' }
          let linesIn (texts : List (String × String)) : List String :=
            (cutLines ending (together texts)).1
          let first := (linesIn firsts).map joining.fieldsOf
          let second := (linesIn seconds).map joining.fieldsOf
          let joining : Joining := { joining with
            form := match given.text? 'o' with
              | none => none
              | some "auto" => some (joining.formOf first second)
              | some text => Joining.form? text }
          let hasHeader := given.has headerMark
          let header := if hasHeader then
              match first.head?, second.head? with
              | none, none => []
              | one, other =>
                  let key := ((one.map fun fields => Joining.field fields joining.fields.1).getD
                    ((other.map fun fields => Joining.field fields joining.fields.2).getD ""))
                  [joining.row key one other]
            else []
          let drop (lines : List (List String)) : List (List String) :=
            if hasHeader then lines.tail else lines
          let rows := joining.rows (first.length + second.length + 1) (drop first) (drop second)
          let disorder (index : Nat) (lines : List String) (fields : List (List String)) :
              Option (Nat × String) :=
            (List.range (lines.length - 1)).findSome? fun place => do
              let before ← fields[place]?
              let after ← fields[place + 1]?
              let isWrong := joining.compare (Joining.field before index)
                (Joining.field after index) = .gt
              if isWrong && (place != 0 || !hasHeader) then some (place + 2, (lines[place + 1]?).getD "")
              else none
          let isAlone (index otherIndex : Nat) (fields : List (List String))
              (others : List (List String)) : Bool :=
            fields.any fun line => others.all fun other =>
              joining.compare (Joining.field line index) (Joining.field other otherIndex) != .eq
          let unpaired := isAlone joining.fields.1 joining.fields.2 first second ||
            isAlone joining.fields.2 joining.fields.1 second first
          let checks := given.has (Char.ofNat 2) || (unpaired && !given.has (Char.ofNat 3))
          let wrong := [(one, disorder joining.fields.1 (linesIn firsts) first),
            (other, disorder joining.fields.2 (linesIn seconds) second)].filterMap
              fun (path, found) => if checks then found.map fun row => (path, row) else none
          wrong.forM fun (path, number, line) =>
            complain (path ++ ":" ++ toString number ++ ": is not sorted: " ++ line)
          let status ← finish 0 (joinCut ending true (header ++ rows))
          if wrong.isEmpty then pure status
          else do
            complain "input is not in sorted order"
            pure 1
    | _ :: _ :: extra :: _ => refuseUse 1 ("extra operand " ++ inQuotes extra)

/-! ## Orders of names -/

/-- What must stand before what. -/
abbrev Pairs := List (String × String)

/-- Words in pairs. There are none if a word is left alone. -/
def pairsOf? : List String → Option Pairs
  | [] => some []
  | first :: second :: rest => (pairsOf? rest).map ((first, second) :: ·)
  | [_] => none

/-- Takes names that nothing must stand before, one after the other, with what can be taken after
them. The bound is on the number of names. -/
def takeFree : Nat → List String → Pairs → List String × Pairs
  | 0, _, pairs => ([], pairs)
  | _ + 1, [], pairs => ([], pairs)
  | bound + 1, name :: waiting, pairs =>
      let after := (pairs.filter fun pair => pair.1 = name).map fun pair => pair.2
      let rest := pairs.filter fun pair => pair.1 != name
      let freed := after.eraseDups.reverse.filter fun other =>
        rest.all fun pair => pair.2 != other
      let (names, pairs) := takeFree bound (waiting ++ freed) rest
      (name :: names, pairs)

/-- The way back from a name to names that stand before it: the last name on the way, and for each
other one the name that it was reached from. -/
structure Trail where
  last : Option String := none
  origins : List (String × String) := []

/-- The names on a trail from one to another. The bound is on their number. -/
def Trail.names (trail : Trail) : Nat → String → String → List String
  | 0, name, _ => [name]
  | bound + 1, name, goal =>
      if name = goal then [name]
      else match trail.origins.lookup name with
        | some origin => name :: trail.names bound origin goal
        | none => [name]

/-- Goes on to a name, if it stands before the last one on the trail, or finds that it has been
there: the pair that closes the loop, and the names of the loop. -/
def Trail.visit (trail : Trail) (pairs : Pairs) (name : String) :
    Except ((String × String) × List String) Trail :=
  match trail.last with
  | none => .ok { trail with last := some name }
  | some last =>
      if !pairs.contains (name, last) then .ok trail
      else if (trail.origins.lookup name).isSome then
        .error ((name, last), trail.names trail.origins.length last name)
      else .ok ⟨some name, (name, last) :: trail.origins⟩

/-- A loop of names that all have others before them. The bound is on the rounds over the names. -/
def findLoop (names : List String) (pairs : Pairs) :
    Nat → Trail → Option ((String × String) × List String)
  | 0, _ => none
  | bound + 1, trail =>
      match names.foldlM (fun trail name => trail.visit pairs name) trail with
      | .error found => some found
      | .ok trail => findLoop names pairs bound trail

/-- Writes names in an order that keeps that of pairs. -/
def runTsort (arguments : List String) : Action Nat := do
  let operands := arguments.filter (· != "--")
  match operands with
  | _ :: extra :: _ => refuseUse 1 ("extra operand " ++ inQuotes extra)
  | _ => do
      let path := operands.headD "-"
      let (texts, status) ← readEach 1 [path]
      if status != 0 then pure status
      else do
        let text := (together texts).toList
        let words := (List.splitOnP isGap text).filter fun piece => !piece.isEmpty
        match pairsOf? (words.map String.ofList) with
        | none => refuse 1 (shownPath path ++ ": input contains an odd number of tokens")
        | some pairs => do
            let names := (pairs.flatMap fun (first, second) => [first, second]).eraseDups
            let names := names.mergeSort fun first second =>
              compareLetters first.toList second.toList != .gt
            let pairs := pairs.filter fun (first, second) => first != second
            untangle path (names.length + pairs.length + 1) names pairs 0
where
  /-- Writes the names, and drops a pair of each loop. -/
  untangle (path : String) : Nat → List String → Pairs → Nat → Action Nat
    | 0, _, _, status => pure status
    | bound + 1, names, pairs, status => do
        let free := names.filter fun name => pairs.all fun pair => pair.2 != name
        let (taken, left) := takeFree (names.length + 1) free pairs
        let written ← answer (joinLines taken)
        let names := names.filter fun name => !taken.contains name
        let bounded := names.filter fun name => left.any fun pair => pair.2 = name
        match findLoop bounded left (names.length + 1) { } with
        | none => pure (max status written)
        | some (pair, loop) => do
            complain (shownPath path ++ ": input contains a loop:")
            loop.forM complain
            untangle path bound names (left.erase pair) 1

/-- Writes lines, numbers or words in any order, which is the one that they have. -/
def runShuf (arguments : List String) : Action Nat := do
  let known : List Known := [⟨'e', "echo", .nothing⟩, ⟨'i', "input-range", .text⟩,
    ⟨'n', "head-count", .text⟩, ⟨'o', "output", .text⟩, ⟨'r', "repeat", .nothing⟩,
    ⟨'z', "zero-terminated", .nothing⟩, ⟨Char.ofNat 1, "random-source", .text⟩]
  withOptions 1 known arguments fun given => do
    let ending := if given.has 'z' then Char.ofNat 0 else '\n'
    let range : Option (Nat × Nat) := (given.text? 'i').bind fun text =>
      match List.splitOnP (· == '-') text.toList with
      | [first, last] => do some (← Text.Decimal.digits? first, ← Text.Decimal.digits? last)
      | _ => none
    if given.has 'i' && range.isNone then
      refuse 1 ("invalid input range: " ++ inQuotes ((given.text? 'i').getD ""))
    else do
      let hasOwn := given.has 'e' || given.has 'i'
      let (texts, status) ← readEach 1 (if hasOwn then [] else [given.operands.headD "-"])
      let lines := match range with
        | some (first, last) =>
            (List.range (min (last + 1 - first) 100000)).map fun index => toString (first + index)
        | none =>
            if given.has 'e' then given.operands
            else (cutLines ending (together texts)).1
      let count := ((given.text? 'n').bind String.toNat?).getD (if given.has 'r' then 1000
        else lines.length)
      let lines := if given.has 'r' then
          (List.range count).filterMap fun index => lines[index % lines.length]?
        else lines.take count
      let fault ← match given.text? 'o' with
        | some path => redirectOutput path
        | none => pure none
      if status != 0 || fault.isSome then pure 1
      else finish 0 (joinCut ending true lines)

end StaticMulticast.Host.Utility
