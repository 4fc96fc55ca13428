import StaticMulticast.Host.Shell.Field
import StaticMulticast.Host.Utility.Input
import StaticMulticast.Text.Calendar
import StaticMulticast.Text.Difference
import StaticMulticast.Text.Regular

/-!
# Comparing files

`cmp` tells the first octet in which two files differ. `diff` tells how the lines of a file come
from those of another one, in one of several forms, and compares directories file by file. The
status tells whether there is a difference.
-/

namespace StaticMulticast.Host.Utility

open Action
open StaticMulticast.Text (Regular)
open StaticMulticast.Text.Difference (Change)

/-! ## Octets -/

/-- A program that compares has been called in a wrong way. -/
def refuseComparison (message : String) : Action Nat := do
  complain message
  complain ("Try '" ++ (← process).name ++ " --help' for more information.")
  pure 2

/-- Octets to compare: those after some, up to a number of them. -/
def comparedPart (skipped : Nat) (most : Option Nat) (text : String) : List Char :=
  let rest := text.toList.drop skipped
  match most with
  | some most => rest.take most
  | none => rest

/-- A number in octal digits at a width. -/
def octalAt (width : Nat) (letter : Char) : String :=
  let digits := Nat.toDigits 8 letter.toNat
  String.ofList (List.replicate (width - digits.length) ' ' ++ digits)

/-- An octet as it can be seen. -/
def visibleOctet (letter : Char) : String :=
  let code := letter.toNat
  let low := code % 128
  (if 128 ≤ code then "M-" else "") ++
    if low < 32 then "^" ++ String.singleton (Char.ofNat (low + 64))
    else if low = 127 then "^?" else String.singleton (Char.ofNat low)

/-- What a file that is the shorter of two is reported with. -/
def endReport (path : String) (shorter : List Char) (listsAll : Bool) : String :=
  if shorter.isEmpty then "EOF on " ++ path ++ " which is empty"
  else
    let lines := shorter.countP (· == '\n')
    let place := if listsAll then ""
      else if shorter.getLast? = some '\n' then ", line " ++ toString lines
      else ", in line " ++ toString (lines + 1)
    "EOF on " ++ path ++ " after byte " ++ toString shorter.length ++ place

/-- Compares two texts octet by octet. -/
def compareOctets (given : Given) (firstPath secondPath : String) (first second : List Char) :
    Action Nat := do
  let isSilent := given.has 's'
  let pairs := (first.zip second).zipIdx
  let different := pairs.filter fun (pair, _) => pair.1 != pair.2
  let shorter := if first.length ≤ second.length then first else second
  let shorterPath := if first.length ≤ second.length then firstPath else secondPath
  let hasBytes := given.has 'b'
  if isSilent then pure (if first = second then 0 else 1)
  else if given.has 'l' then do
    let width := (toString (max first.length second.length)).length
    let row : (Char × Char) × Nat → String := fun ((one, other), index) =>
      atWidth width (index + 1) ++ " " ++ octalAt 3 one ++
        (if hasBytes then
          let shown := visibleOctet one
          " " ++ shown ++ String.ofList (List.replicate (4 - shown.length) ' ')
        else "") ++ " " ++ octalAt 3 other ++ if hasBytes then " " ++ visibleOctet other else ""
    let _ ← answer (joinLines (different.map row))
    if first.length = second.length then pure (if different.isEmpty then 0 else 1)
    else refuse 1 (endReport shorterPath shorter true)
  else match different with
  | ((one, other), index) :: _ => do
      let line := ((first.take index).countP (· == '\n')) + 1
      let _ ← answer (firstPath ++ " " ++ secondPath ++ " differ: " ++
        (if hasBytes then "byte " else "char ") ++ toString (index + 1) ++ ", line " ++
        toString line ++
        (if hasBytes then " is " ++ octalAt 3 one ++ " " ++ visibleOctet one ++ " " ++
          octalAt 3 other ++ " " ++ visibleOctet other else "") ++ "\n")
      pure 1
  | [] =>
      if first.length = second.length then pure 0
      else refuse 1 (endReport shorterPath shorter false)

/-- Compares two files octet by octet. -/
def runCmp (arguments : List String) : Action Nat := do
  let known : List Known := [⟨'s', "quiet", .nothing⟩, ⟨'s', "silent", .nothing⟩,
    ⟨'l', "verbose", .nothing⟩, ⟨'b', "print-bytes", .nothing⟩, ⟨'n', "bytes", .text⟩,
    ⟨'i', "ignore-initial", .text⟩]
  match readOptions known arguments with
  | none => refuseComparison (optionFault known arguments)
  | some given =>
      match given.operands with
      | [] => refuseComparison ("missing operand after " ++ inQuotes (← process).name)
      | first :: rest =>
          let second := rest.headD "-"
          let skips := ((given.text? 'i').map fun text => text.splitOn ":").getD []
          let skip (index : Nat) : Nat :=
            (((rest[index + 1]?).orElse fun _ => skips[min index (skips.length - 1)]?).bind
              amount?).getD 0
          match ← readOperand first with
          | .error fault => refuse 2 (first ++ ": " ++ fault.reason)
          | .ok one => do
              match ← if second = first then pure (.ok one) else readOperand second with
              | .error fault => refuse 2 (second ++ ": " ++ fault.reason)
              | .ok other => do
                  let most := (given.text? 'n').bind amount?
                  compareOctets given first second (comparedPart (skip 0) most one)
                    (comparedPart (skip 1) most other)

/-! ## Lines -/

/-- The forms in which differences are written. -/
inductive DifferenceForm where
  | normal
  | unified
  | context
  | edits
  | forwardEdits
  | counts
  | columns
deriving DecidableEq, Repr

/-- What `diff` has been asked for. -/
structure Comparing where
  given : Given
  form : DifferenceForm := .normal
  /-- The number of lines around changes that are written. -/
  around : Nat := 3
  patterns : List Regular := []
  labels : List String := []
  /-- The options as they were given. -/
  shown : String := ""

/-- The mark of an option of `diff` that has no letter. -/
def diffMark (number : Nat) : Char := Char.ofNat number

/-- The options of `diff`. -/
def diffOptions : List Known :=
  [⟨'q', "brief", .nothing⟩, ⟨'s', "report-identical-files", .nothing⟩,
    ⟨diffMark 1, "normal", .nothing⟩, ⟨'c', "", .nothing⟩, ⟨'C', "context", .attached⟩,
    ⟨'u', "", .nothing⟩, ⟨'U', "unified", .attached⟩, ⟨'e', "ed", .nothing⟩,
    ⟨'f', "forward-ed", .nothing⟩, ⟨'n', "rcs", .nothing⟩, ⟨'y', "side-by-side", .nothing⟩,
    ⟨'W', "width", .text⟩, ⟨diffMark 2, "left-column", .nothing⟩,
    ⟨diffMark 3, "suppress-common-lines", .nothing⟩, ⟨'p', "show-c-function", .nothing⟩,
    ⟨'F', "show-function-line", .text⟩, ⟨diffMark 4, "label", .text⟩, ⟨'L', "", .text⟩,
    ⟨'t', "expand-tabs", .nothing⟩, ⟨'T', "initial-tab", .nothing⟩,
    ⟨diffMark 5, "tabsize", .text⟩, ⟨diffMark 6, "suppress-blank-empty", .nothing⟩,
    ⟨'l', "paginate", .nothing⟩, ⟨'r', "recursive", .nothing⟩,
    ⟨diffMark 7, "no-dereference", .nothing⟩, ⟨'N', "new-file", .nothing⟩,
    ⟨'P', "unidirectional-new-file", .nothing⟩, ⟨diffMark 8, "ignore-file-name-case", .nothing⟩,
    ⟨'x', "exclude", .text⟩, ⟨'X', "exclude-from", .text⟩, ⟨'S', "starting-file", .text⟩,
    ⟨diffMark 11, "from-file", .text⟩, ⟨diffMark 12, "to-file", .text⟩,
    ⟨'i', "ignore-case", .nothing⟩, ⟨'E', "ignore-tab-expansion", .nothing⟩,
    ⟨'Z', "ignore-trailing-space", .nothing⟩, ⟨'b', "ignore-space-change", .nothing⟩,
    ⟨'w', "ignore-all-space", .nothing⟩, ⟨'B', "ignore-blank-lines", .nothing⟩,
    ⟨'I', "ignore-matching-lines", .text⟩, ⟨'a', "text", .nothing⟩,
    ⟨diffMark 14, "strip-trailing-cr", .nothing⟩, ⟨'D', "ifdef", .text⟩,
    ⟨'d', "minimal", .nothing⟩, ⟨diffMark 15, "horizon-lines", .text⟩,
    ⟨'H', "speed-large-files", .nothing⟩, ⟨diffMark 16, "color", .attached⟩]

/-- The options among arguments, where `-C` and `-U` take a number that may stand in the next one.
-/
def diffGiven (arguments : List String) : Option Given :=
  let known := diffOptions.map fun (option : Known) =>
    if option.letter = 'C' || option.letter = 'U' then { option with name := "", need := .text }
    else option
  let named : List Known := [⟨diffMark 21, "context", .attached⟩, ⟨diffMark 22, "unified", .attached⟩]
  let arguments := arguments.flatMap fun argument =>
    match argument.toList with
    | '-' :: digit :: rest =>
        if (digit :: rest).all Char.isDigit then
          ["--horizon-lines=" ++ String.ofList (digit :: rest)]
        else if digit.isDigit then
          let (digits, letters) := (digit :: rest).span Char.isDigit
          ["--horizon-lines=" ++ String.ofList digits, "-" ++ String.ofList letters]
        else
          let (letters, digits) := (digit :: rest).span fun letter => !letter.isDigit
          if (digit = 'u' || letters.getLast? = some 'u' || letters.getLast? = some 'c') &&
              digit != '-' && !digits.isEmpty && digits.all Char.isDigit &&
              letters.all fun letter => !"UCWFLxXSID".toList.contains letter then
            ["--horizon-lines=" ++ String.ofList digits, "-" ++ String.ofList letters]
          else [argument]
    | _ => [argument]
  readOptions (known ++ named) arguments

/-- What the options of `diff` ask for. -/
def Comparing.ofGiven (given : Given) (shown : String) : Except String Comparing := do
  let forms := given.options.filterMap fun (letter, text) =>
    match letter with
    | 'u' => some (DifferenceForm.unified, "")
    | 'c' => some (.context, "")
    | 'U' => some (.unified, text)
    | 'C' => some (.context, text)
    | 'e' => some (.edits, "")
    | 'f' => some (.forwardEdits, "")
    | 'n' => some (.counts, "")
    | 'y' => some (.columns, "")
    | 'p' => some (.context, "p")
    | _ =>
        if letter = diffMark 21 then some (.context, text)
        else if letter = diffMark 22 then some (.unified, text)
        else if letter = diffMark 1 then some (.normal, "") else none
  let kinds := (forms.filter fun form => form.2 != "p").map (·.1)
  let kinds := if kinds.isEmpty then forms.map (·.1) else kinds
  let form := kinds.headD .normal
  if kinds.any (· != form) then throw "conflicting output style options"
  else
    let numbers := (forms.map (·.2) ++ given.texts (diffMark 15)).filter fun text =>
      !text.isEmpty && text != "p"
    match numbers.find? fun text => text.toNat?.isNone with
    | some text => throw ("invalid context length " ++ inQuotes text)
    | none =>
        match (given.texts 'I').mapM (Regular.ofText? .basic) with
        | none => throw "Invalid regular expression"
        | some patterns =>
            let counts := numbers.filterMap String.toNat?
            pure
              { given
                form
                around := if counts.isEmpty then 3 else counts.foldl max 0
                patterns
                labels := given.texts (diffMark 4) ++ given.texts 'L'
                shown }

/-- A line of a file, and whether it has an end. -/
abbrev FileLine := String × Bool

/-- The lines of a text. -/
def fileLines (text : String) : List FileLine :=
  let (lines, ended) := linesOf text
  if text.isEmpty then []
  else lines.mapIdx fun index line => (line, ended || index + 1 < lines.length)

/-- A blank in the sense of texts. -/
def isSpace (letter : Char) : Bool := Text.inClass "space" letter

/-- Runs of blanks as single blanks, without those at the end. -/
def withSingleBlanks : List Char → List Char
  | [] => []
  | letter :: rest =>
      if isSpace letter then
        match withSingleBlanks rest with
        | [] => []
        | ' ' :: others => ' ' :: others
        | others => ' ' :: others
      else letter :: withSingleBlanks rest

/-- Blanks up to the next stop in the place of tabs. -/
def withoutTabs : Nat → List Char → List Char
  | _, [] => []
  | column, '\t' :: rest =>
      List.replicate (8 - column % 8) ' ' ++ withoutTabs (column + (8 - column % 8)) rest
  | column, letter :: rest => letter :: withoutTabs (column + 1) rest

/-- What is compared of a line. -/
def Comparing.key (comparing : Comparing) (line : FileLine) : List Char × Bool :=
  let has := comparing.given.has
  let text := line.1.toList
  let text := if has (diffMark 14) && text.getLast? = some '\r' then text.dropLast else text
  let text := if has 'i' then text.map Char.toLower else text
  let text := if has 'E' then withoutTabs 0 text else text
  let text := if has 'w' then text.filter fun letter => !isSpace letter
    else if has 'b' then withSingleBlanks text
    else if has 'Z' then (text.reverse.dropWhile isSpace).reverse else text
  (text, line.2 || has 'w' || has 'b' || has 'Z')

/-- The numbers of the classes of lines that count as the same, for two files. -/
def Comparing.classes (comparing : Comparing) (first second : List FileLine) :
    List Nat × List Nat :=
  let keys := (first ++ second).map comparing.key
  let known := keys.eraseDups
  let numbers := keys.map fun key => known.idxOf key
  (numbers.take first.length, numbers.drop first.length)

/-- A change of lines does not count, since they are all empty or match an expression. -/
def Comparing.isTrivial (comparing : Comparing) (lines : List FileLine) : Bool :=
  let has := comparing.given.has
  let isBlank (text : List Char) : Bool :=
    if has 'w' || has 'b' || has 'Z' then text.all isSpace else text.isEmpty
  lines.all fun line =>
    let text := line.1.toList
    (has 'B' && isBlank text) ||
      comparing.patterns.any fun pattern => (Regular.search pattern { text } 0).isSome

/-- Two files that are compared: their lines and changes, and which of these count. -/
structure Difference where
  comparing : Comparing
  first : List FileLine
  second : List FileLine
  changes : List (Change × Bool)

namespace Difference

/-- The lines that a change takes out. -/
def removed (difference : Difference) (change : Change) : List FileLine :=
  (difference.first.drop change.first).take change.removed

/-- The lines that a change puts in. -/
def added (difference : Difference) (change : Change) : List FileLine :=
  (difference.second.drop change.second).take change.added

/-- How two files differ. -/
def ofLines (comparing : Comparing) (first second : List FileLine) : Difference :=
  let (one, other) := comparing.classes first second
  let near := if comparing.form = .unified || comparing.form = .context then comparing.around else 0
  let changes := Text.Difference.changes near one other
  let difference : Difference := ⟨comparing, first, second, []⟩
  let canBeTrivial := comparing.given.has 'B' || !comparing.patterns.isEmpty
  { difference with
    changes := changes.map fun change =>
      (change, !canBeTrivial ||
        !comparing.isTrivial (difference.removed change ++ difference.added change)) }

/-- Some change counts. -/
def isReal (difference : Difference) : Bool :=
  difference.changes.any (·.2)

/-- A line behind a mark. -/
def markedLine (mark : String) (line : FileLine) : String :=
  mark ++ line.1 ++ "\n" ++ if line.2 then "" else "\\ No newline at end of file\n"

/-- Lines behind a mark. -/
def markedLines (difference : Difference) (mark : String) (lines : List FileLine) : String :=
  let tabbed := difference.comparing.given.has 'T'
  String.join (lines.map fun line =>
    if difference.comparing.given.has 't' then
      markedLine mark (String.ofList (withoutTabs 0 line.1.toList), line.2)
    else if tabbed then markedLine ((String.ofList (mark.toList.filter (· != ' '))) ++ "\t") line
    else markedLine mark line)

/-- The numbers of lines of a range, of which the first is given as from zero. -/
def range (separator : String) (start count : Nat) : String :=
  if count = 0 then toString start
  else if count = 1 then toString (start + 1)
  else toString (start + 1) ++ separator ++ toString (start + count)

/-- The letter for what a change does. -/
def letter (change : Change) : String :=
  if change.added = 0 then "d" else if change.removed = 0 then "a" else "c"

/-- The changes in the usual form. -/
def normal (difference : Difference) : String :=
  String.join ((difference.changes.filter (·.2)).map fun (change, _) =>
    range "," change.first change.removed ++ letter change ++
      range "," change.second change.added ++ "\n" ++
      difference.markedLines "< " (difference.removed change) ++
      (if change.removed != 0 && change.added != 0 then "---\n" else "") ++
      difference.markedLines "> " (difference.added change))

/-- Changes in groups of those that stand near to each other. -/
def groups (around : Nat) : List (Change × Bool) → List (List (Change × Bool))
  | [] => []
  | change :: rest =>
      match groups around rest with
      | (next :: group) :: others =>
          let most := if change.2 && next.2 then 2 * around + 1 else around
          let gap := next.1.first - (change.1.first + change.1.removed)
          if gap < most then (change :: next :: group) :: others
          else [change] :: (next :: group) :: others
      | others => [change] :: others

/-- The first lines and the numbers of lines of a group of changes, with those around it: in the
first file and in the second. -/
def extent (difference : Difference) (group : List (Change × Bool)) :
    (Nat × Nat) × Nat × Nat :=
  let around := difference.comparing.around
  match group.head?, group.getLast? with
  | some (first, _), some (last, _) =>
      let part (start stop size : Nat) : Nat × Nat :=
        let stop := min size (stop + around)
        (start - around, stop - (start - around))
      (part first.first (last.first + last.removed) difference.first.length,
        part first.second (last.second + last.added) difference.second.length)
  | _, _ => ((0, 0), (0, 0))

/-- A range in the form for groups. -/
def unifiedRange (start count : Nat) : String :=
  if count = 1 then toString (start + 1)
  else if count = 0 then toString start ++ ",0"
  else toString (start + 1) ++ "," ++ toString count

/-- The last line before a place that could begin a function, as it is told behind a group. -/
def heading (difference : Difference) (start : Nat) : String :=
  let has := difference.comparing.given.has
  let pattern : Option Regular :=
    if has 'p' then Regular.ofText? .basic "^[[:alpha:]$_]"
    else (difference.comparing.given.text? 'F').bind (Regular.ofText? .basic)
  match pattern with
  | none => ""
  | some pattern =>
      let lines := (difference.first.take start).reverse
      match lines.find? fun line => (Regular.search pattern { text := line.1.toList } 0).isSome with
      | some (line, _) => " " ++ String.ofList ((line.toList.dropWhile isSpace).take 40)
      | none => ""

/-- The lines of a group from places on. -/
def unifiedLines (difference : Difference) (stop : Nat) :
    Nat → List (Change × Bool) → String
  | place, [] =>
      difference.markedLines " " ((difference.first.drop place).take (stop - place))
  | place, (change, _) :: rest =>
      difference.markedLines " " ((difference.first.drop place).take (change.first - place)) ++
        difference.markedLines "-" (difference.removed change) ++
        difference.markedLines "+" (difference.added change) ++
        unifiedLines difference stop (change.first + change.removed) rest

/-- The changes in groups, each with the lines around it. -/
def unified (difference : Difference) : String :=
  let groups := (groups difference.comparing.around difference.changes).filter fun group =>
    group.any (·.2)
  String.join (groups.map fun group =>
    let ((start, count), (other, otherCount)) := difference.extent group
    "@@ -" ++ unifiedRange start count ++ " +" ++ unifiedRange other otherCount ++ " @@" ++
      difference.heading start ++ "\n" ++ difference.unifiedLines (start + count) start group)

/-- A range in the form with both sides apart. -/
def contextRange (start count : Nat) : String :=
  if count ≤ 1 then toString (start + count)
  else toString (start + 1) ++ "," ++ toString (start + count)

/-- One side of a group. It is given where changes begin, how many lines they have on this side and
the other one, and the mark of lines that stand on this side only. -/
def sideLines (difference : Difference) (lines : List FileLine) (mark : String)
    (place : Change → Nat × Nat × Nat) (stop : Nat) : Nat → List (Change × Bool) → String
  | start, [] => difference.markedLines "  " ((lines.drop start).take (stop - start))
  | start, (change, _) :: rest =>
      let (first, own, other) := place change
      difference.markedLines "  " ((lines.drop start).take (first - start)) ++
        difference.markedLines (if other = 0 then mark ++ " " else "! ")
          ((lines.drop first).take own) ++
        sideLines difference lines mark place stop (first + own) rest

/-- The changes in groups, each with both sides apart. -/
def context (difference : Difference) : String :=
  let groups := (groups difference.comparing.around difference.changes).filter fun group =>
    group.any (·.2)
  String.join (groups.map fun group =>
    let ((start, count), (other, otherCount)) := difference.extent group
    let removes := group.any fun (change, _) => change.removed != 0
    let adds := group.any fun (change, _) => change.added != 0
    "***************" ++ difference.heading start ++ "\n*** " ++ contextRange start count ++
      " ****\n" ++
      (if removes then difference.sideLines difference.first "-"
        (fun change => (change.first, change.removed, change.added)) (start + count) start group
      else "") ++
      "--- " ++ contextRange other otherCount ++ " ----\n" ++
      if adds then difference.sideLines difference.second "+"
        (fun change => (change.second, change.added, change.removed)) (other + otherCount) other
          group
      else "")

/-- The changes as commands of an editor. -/
def edits (difference : Difference) (isForward : Bool) : String :=
  let real := (difference.changes.filter (·.2)).map (·.1)
  String.join ((if isForward then real else real.reverse).map fun change =>
    let place := range (if isForward then " " else ",") change.first change.removed
    let command := if isForward then letter change ++ place else place ++ letter change
    command ++ "\n" ++
      if change.added = 0 then ""
      else String.join ((difference.added change).map fun line => line.1 ++ "\n") ++ ".\n")

/-- The changes as numbers of lines that are taken out and put in. -/
def counts (difference : Difference) : String :=
  String.join ((difference.changes.filter (·.2)).map fun (change, _) =>
    (if change.removed = 0 then ""
      else "d" ++ toString (change.first + 1) ++ " " ++ toString change.removed ++ "\n") ++
    if change.added = 0 then ""
    else "a" ++ toString (change.first + change.removed) ++ " " ++ toString change.added ++ "\n" ++
      String.join ((difference.added change).map fun line =>
        line.1 ++ if line.2 then "\n" else ""))

/-! ### Columns -/

/-- Tabs and blanks from a column to another one. The bound is on their number. -/
def gap (expands : Bool) : Nat → Nat → Nat → String
  | 0, _, _ => ""
  | bound + 1, start, stop =>
      let next := start + 8 - start % 8
      if !expands && next ≤ stop then "\t" ++ gap expands bound next stop
      else if start < stop then " " ++ gap expands bound (start + 1) stop
      else ""

/-- The letters of a line up to a width, and the column after them. -/
def halfLine (width : Nat) : Nat → List Char → List Char × Nat
  | column, [] => ([], column)
  | column, letter :: rest =>
      let next := if letter = '\t' then column + 8 - column % 8
        else if letter.toNat < 0x20 then column else column + 1
      if width < next then ([], column)
      else
        let (others, stop) := halfLine width next rest
        (letter :: others, stop)

/-- A row of lines of both files, with a mark between them. -/
def row (difference : Difference) (mark : Char) (left right : Option FileLine) : String :=
  let width := ((difference.comparing.given.text? 'W').bind String.toNat?).getD 130
  let expands := difference.comparing.given.has 't'
  let stop := if expands then 1 else 8
  let middle := (width + stop + 3) / (2 * stop) * stop
  let half := min (middle - 3) (width - middle)
  let second := if half = 0 then width else middle
  let (shown, column) := match left with
    | some line => halfLine half 0 line.1.toList
    | none => ([], 0)
  let mark := match mark, left, right with
    | '|', some (_, true), some (_, false) => '/'
    | '|', some (_, false), some (_, true) => '\\'
    | _, _, _ => mark
  let place := (half + second - 1) / 2
  let (marked, column) := if mark = ' ' then ("", column)
    else (gap expands (place + 1) column place ++ String.singleton mark, max column place + 1)
  let text := match right with
    | some line =>
        if line.1.isEmpty then ""
        else gap expands (second + 1) column second ++
          String.ofList (halfLine half 0 line.1.toList).1
    | none => ""
  let isEnded := left.any (·.2) || right.any (·.2)
  String.ofList shown ++ marked ++ text ++ if isEnded then "\n" else ""

/-- The rows of two lists of lines that have changed. -/
def changedRows (difference : Difference) : List FileLine → List FileLine → List String
  | left :: lefts, right :: rights =>
      difference.row '|' (some left) (some right) :: changedRows difference lefts rights
  | [], rights => rights.map fun line => difference.row '>' none (some line)
  | lefts, [] => lefts.map fun line => difference.row '<' (some line) none

/-- The rows of lines that are the same. -/
def sameRows (difference : Difference) (first second : List FileLine) : List String :=
  if difference.comparing.given.has (diffMark 3) then []
  else (first.zip second).map fun (left, right) =>
    if difference.comparing.given.has (diffMark 2) then difference.row '(' (some left) none
    else difference.row ' ' (some left) (some right)

/-- Both files side by side, from places on. -/
def columnsFrom (difference : Difference) : Nat → Nat → List Change → List String
  | first, second, [] =>
      difference.sameRows (difference.first.drop first) (difference.second.drop second)
  | first, second, change :: rest =>
      difference.sameRows ((difference.first.drop first).take (change.first - first))
          ((difference.second.drop second).take (change.second - second)) ++
        difference.changedRows (difference.removed change) (difference.added change) ++
        columnsFrom difference (change.first + change.removed) (change.second + change.added) rest

end Difference

/-! ## Files and directories -/

/-- A file to compare: its name in messages, its text, and the time of its last change. -/
structure Compared where
  path : String
  text : String
  time : Int

/-- The line about a file in front of its changes. -/
def headLine (form : DifferenceForm) (mark : String) (label : Option String) (file : Compared) :
    String :=
  let format := if form = .context then "%a %b %e %H:%M:%S %Y" else "%Y-%m-%d %H:%M:%S.%N +0000"
  let time := Text.Calendar.format (.ofMillionths file.time) format
  mark ++ " " ++ (label.getD (file.path ++ "\t" ++ time)) ++ "\n"

/-- The text is not one of lines. -/
def isBinary (text : String) : Bool :=
  text.toList.contains (Char.ofNat 0)

/-- What is written about two files, and whether they differ. -/
def comparison (comparing : Comparing) (command : String) (first second : Compared) :
    String × Bool :=
  let same := if comparing.given.has 's' then
      "Files " ++ first.path ++ " and " ++ second.path ++ " are identical\n"
    else ""
  if (isBinary first.text || isBinary second.text) && !comparing.given.has 'a' then
    if first.text = second.text then (same, false)
    else if comparing.given.has 'q' then
      ("Files " ++ first.path ++ " and " ++ second.path ++ " differ\n", true)
    else ("Binary files " ++ first.path ++ " and " ++ second.path ++ " differ\n", true)
  else
    let difference := Difference.ofLines comparing (fileLines first.text) (fileLines second.text)
    let isColumns := comparing.form = .columns && !comparing.given.has 'q'
    if !difference.isReal && !isColumns then (same, false)
    else if comparing.given.has 'q' then
      ("Files " ++ first.path ++ " and " ++ second.path ++ " differ\n", true)
    else
      let label (index : Nat) : Option String := comparing.labels[index]?
      let heads (one other : String) : String :=
        headLine comparing.form one (label 0) first ++ headLine comparing.form other (label 1) second
      let body := match comparing.form with
        | .normal => difference.normal
        | .unified => heads "---" "+++" ++ difference.unified
        | .context => heads "***" "---" ++ difference.context
        | .edits => difference.edits false
        | .forwardEdits => difference.edits true
        | .counts => difference.counts
        | .columns => String.join (difference.columnsFrom 0 0 ((difference.changes.filter (·.2)).map
            (·.1)))
      (command ++ body ++ if difference.isReal then "" else same, difference.isReal)

/-- Reads a file to compare. One that is absent may count as empty. -/
def readCompared (mayBeAbsent : Bool) (path : String) : Action (Except Fault Compared) := do
  if path = "-" then do
    let time ← now
    pure ((← readOperand "-").map fun text => ⟨path, text, time⟩)
  else match ← find? true path with
  | none =>
      if mayBeAbsent then pure (.ok ⟨path, "", 0⟩) else do
        match ← openPath path .reading with
        | .error fault => pure (.error fault)
        | .ok _ => pure (.error .missing)
  | some found => do
      pure ((← readOperand path).map fun text => ⟨path, text, found.time⟩)

/-- Compares two files that are no directories. -/
def compareFiles (comparing : Comparing) (command : String) (absentFirst absentSecond : Bool)
    (first second : String) : Action Nat := do
  let one ← readCompared absentFirst first
  let other ← if second = "-" && first = "-" then pure one else readCompared absentSecond second
  match one, other with
  | .ok one, .ok other => do
      let (text, differs) := comparison comparing command one other
      let written ← answer text
      pure (if written != 0 then 2 else if differs then 1 else 0)
  | _, _ => do
      let fault? (result : Except Fault Compared) : Option Fault :=
        match result with
        | .error fault => some fault
        | .ok _ => none
      (fault? one).forM fun fault => complain (first ++ ": " ++ fault.reason)
      (fault? other).forM fun fault => complain (second ++ ": " ++ fault.reason)
      pure 2

/-- What something at the end of a path is called. -/
def kindName (found : Found) : String :=
  if found.isDirectory then "directory"
  else if found.isLink then "symbolic link"
  else if found.isQueue then "fifo"
  else if found.isDevice then "character special file"
  else if found.size = 0 then "regular empty file" else "regular file"

/-- The names in a directory that are compared. -/
def comparedNames (comparing : Comparing) (path : String) : Action (List String) := do
  match ← find? true path with
  | none => pure []
  | some found => do
      let names := ((← files).names found.location).map Text.Octets.encode
      let isLeftOut (name : String) : Bool := (comparing.given.texts 'x').any fun pattern =>
        Text.Pattern.holds (Text.Pattern.ofText pattern) name.toList
      pure (names.filter fun name => !isLeftOut name)

/-- Compares what is in two directories. The bound is on the depth. -/
def compareDirectories (comparing : Comparing) : Nat → String → String → Action Nat
  | 0, _, _ => pure 2
  | bound + 1, first, second => do
      let ones ← comparedNames comparing first
      let others ← comparedNames comparing second
      let names := Shell.sortTexts (ones ++ others).eraseDups
      let statuses ← names.mapM fun name => do
        let one := joinPath first name
        let other := joinPath second name
        let alone (path directory : String) : Action Nat := do
          let _ ← answer ("Only in " ++ directory ++ ": " ++ name ++ "\n")
          let _ ← pure path
          pure 1
        let command := comparing.shown ++ " " ++ shownPath one ++ " " ++ shownPath other ++ "\n"
        let takesAbsent := comparing.given.has 'N'
        match ← find? true one, ← find? true other with
        | some left, some right =>
            if left.isDirectory && right.isDirectory then
              if comparing.given.has 'r' then compareDirectories comparing bound one other
              else do
                let _ ← answer ("Common subdirectories: " ++ one ++ " and " ++ other ++ "\n")
                pure 0
            else if left.isDirectory || right.isDirectory then do
              let _ ← answer ("File " ++ one ++ " is a " ++ kindName left ++ " while file " ++
                other ++ " is a " ++ kindName right ++ "\n")
              pure 1
            else compareFiles comparing command false false one other
        | some left, none =>
            if takesAbsent && (!left.isDirectory || comparing.given.has 'r') then
              if left.isDirectory then compareDirectories comparing bound one other
              else compareFiles comparing command false true one other
            else alone one first
        | none, some right =>
            if (takesAbsent || comparing.given.has 'P') &&
                (!right.isDirectory || comparing.given.has 'r') then
              if right.isDirectory then compareDirectories comparing bound one other
              else compareFiles comparing command true false one other
            else alone other second
        | none, none => pure 0
      pure (statuses.foldl max 0)

/-- Compares what is at the ends of two paths. -/
def comparePaths (comparing : Comparing) (first second : String) : Action Nat := do
  let isDirectory (path : String) : Action Bool := do
    pure (path != "-" && (← find? true path).any Found.isDirectory)
  let takesAbsent := comparing.given.has 'N'
  match ← isDirectory first, ← isDirectory second with
  | true, true => compareDirectories comparing 64 first second
  | true, false =>
      if second = "-" then refuse 2 "cannot compare '-' to a directory"
      else if (← find? true second).isNone && !takesAbsent then
        refuse 2 (second ++ ": " ++ Fault.missing.reason)
      else compareFiles comparing "" takesAbsent takesAbsent (joinPath first (lastName second)) second
  | false, true =>
      if first = "-" then refuse 2 "cannot compare '-' to a directory"
      else if (← find? true first).isNone && !takesAbsent then
        refuse 2 (first ++ ": " ++ Fault.missing.reason)
      else compareFiles comparing "" takesAbsent takesAbsent first (joinPath second (lastName first))
  | false, false => do
      let absentFirst := takesAbsent && (second = "-" || (← find? true second).isSome)
      let absentSecond := takesAbsent && (first = "-" || (← find? true first).isSome)
      compareFiles comparing "" absentFirst absentSecond first second

/-- Tells how files or directories differ. -/
def runDiff (arguments : List String) : Action Nat := do
  match diffGiven arguments with
  | none => refuseComparison (optionFault diffOptions arguments)
  | some given =>
      let isOption (argument : String) : Bool := !given.operands.contains argument
      let shown := String.intercalate " " ("diff" :: arguments.filter isOption)
      match Comparing.ofGiven given shown with
      | .error message => refuseComparison message
      | .ok comparing =>
          match given.text? (diffMark 11), given.text? (diffMark 12), given.operands with
          | some first, _, operands => forEach operands (comparePaths comparing first)
          | none, some second, operands =>
              forEach operands fun first => comparePaths comparing first second
          | none, none, [first, second] => comparePaths comparing first second
          | none, none, _ :: _ :: extra :: _ =>
              refuseComparison ("extra operand " ++ inQuotes extra)
          | none, none, operands =>
              refuseComparison ("missing operand after " ++
                inQuotes ((operands.getLast?).getD ((arguments.getLast?).getD "diff")))

end StaticMulticast.Host.Utility
