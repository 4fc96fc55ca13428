import StaticMulticast.Host.Account
import StaticMulticast.Host.Shell.Field
import StaticMulticast.Host.Utility.Format
import StaticMulticast.Host.Utility.File
import StaticMulticast.Text.Calendar
import StaticMulticast.Text.Version

/-!
# Listing files

`ls` lists files and what is in directories, in an order, with what is known about them if that is
wanted. `stat` writes what is known about files, in a format.
-/

namespace StaticMulticast.Host.Utility

open Action

/-! ## What is known -/

/-- The kind of a file in a letter. -/
def kindLetter (found : Found) : Char :=
  if found.isDirectory then 'd'
  else if found.isLink then 'l'
  else if found.isQueue then 'p'
  else if found.isPlain then '-'
  else 'c'

/-- The kind and the rights of a file in ten letters. -/
def rightsText (found : Found) : String :=
  String.singleton (kindLetter found) ++ modeLetters found.mode

/-- The kind of a file in binary digits above its rights. -/
def kindMode (found : Found) : Nat :=
  match kindLetter found with
  | 'd' => 0x4000
  | 'l' => 0xA000
  | 'p' => 0x1000
  | 'c' => 0x2000
  | _ => 0x8000

/-- The number of places at which a file stands. -/
def linkCount (found : Found) : Action Nat := do
  let files ← files
  match found.entry with
  | .file node => pure (files.placesOf node)
  | .directory _ =>
      let inside := (files.names found.location).countP fun name =>
        files.hasDirectory (found.location ++ [name])
      pure (inside + 2)
  | _ => pure 1

/-- The number of a file that tells it from all others. -/
def fileNumber (found : Found) : Action Nat := do
  match found.entry.node? with
  | some node => pure (0x10000 + node)
  | none => do
      pure (0x80000 + ((← files).entries.findIdx fun other => other.1 = found.location))

/-- The numbers of a device. -/
def deviceNumbers (found : Found) : Nat × Nat :=
  match found.entry with
  | .device .sink => (1, 3)
  | .device .zeros => (1, 5)
  | .device .lots => (1, 9)
  | .device .full => (1, 7)
  | .device .terminal => (5, 0)
  | .device (.descriptor _) => (136, 0)
  | _ => (0, 0)

/-- The number of blocks of 1024 octets that a file takes. -/
def blockCount (found : Found) : Nat :=
  match kindLetter found with
  | '-' => (found.size + 4095) / 4096 * 4
  | 'd' => 4
  | _ => 0

/-- The user that a file belongs to. -/
def ownerOf (found : Found) : Nat := (found.node.map Node.owner).getD 0

/-- The group that a file belongs to. -/
def groupOf (found : Found) : Nat := (found.node.map Node.group).getD 0

/-- A size with a letter for a unit, rounded up. -/
def unitSize (base size : Nat) : String :=
  let rec go : Nat → Nat → List Char → String
    | 0, _, _ => toString size
    | bound + 1, unit, letters =>
        let tenths := (10 * size + unit - 1) / unit
        if size < unit * base || letters.length ≤ 1 then
          let letter := String.singleton (letters.headD ' ')
          if tenths < 100 then toString (tenths / 10) ++ "." ++ toString (tenths % 10) ++ letter
          else
            let whole := (size + unit - 1) / unit
            if base ≤ whole && 1 < letters.length then go bound (unit * base) letters.tail
            else toString whole ++ letter
        else go bound (unit * base) letters.tail
  if size < base then toString size
  else go 8 base (if base = 1000 then "kMGTPE".toList else "KMGTPE".toList)

/-! ## Lists -/

/-- The marks of the options of `ls` that have no letters. -/
def listMark (number : Nat) : Char := Char.ofNat number

/-- The options of `ls`. -/
def listOptions : List Known :=
  [⟨'a', "all", .nothing⟩, ⟨'A', "almost-all", .nothing⟩, ⟨listMark 1, "author", .nothing⟩,
    ⟨'b', "escape", .nothing⟩, ⟨listMark 2, "block-size", .text⟩, ⟨'B', "ignore-backups", .nothing⟩,
    ⟨listMark 3, "color", .attached⟩, ⟨'d', "directory", .nothing⟩, ⟨'F', "classify", .attached⟩,
    ⟨listMark 4, "file-type", .nothing⟩, ⟨listMark 5, "format", .text⟩,
    ⟨listMark 6, "full-time", .nothing⟩, ⟨listMark 7, "group-directories-first", .nothing⟩,
    ⟨'G', "no-group", .nothing⟩, ⟨'h', "human-readable", .nothing⟩, ⟨listMark 8, "si", .nothing⟩,
    ⟨'H', "dereference-command-line", .nothing⟩, ⟨listMark 11, "hide", .text⟩,
    ⟨listMark 12, "hyperlink", .attached⟩, ⟨listMark 14, "indicator-style", .text⟩,
    ⟨'i', "inode", .nothing⟩, ⟨'I', "ignore", .text⟩, ⟨'k', "kibibytes", .nothing⟩,
    ⟨'L', "dereference", .nothing⟩, ⟨'n', "numeric-uid-gid", .nothing⟩, ⟨'N', "literal", .nothing⟩,
    ⟨'q', "hide-control-chars", .nothing⟩, ⟨listMark 15, "show-control-chars", .nothing⟩,
    ⟨'Q', "quote-name", .nothing⟩, ⟨listMark 16, "quoting-style", .text⟩,
    ⟨'r', "reverse", .nothing⟩, ⟨'R', "recursive", .nothing⟩, ⟨'s', "size", .nothing⟩,
    ⟨listMark 17, "sort", .text⟩, ⟨listMark 18, "time", .text⟩,
    ⟨listMark 19, "time-style", .text⟩, ⟨'T', "tabsize", .text⟩, ⟨'w', "width", .text⟩,
    ⟨'Z', "context", .nothing⟩, ⟨listMark 20, "zero", .nothing⟩, ⟨'p', "", .nothing⟩] ++
  knownLetters "1CcDfglmostSUuvxX" ""

/-- A file in a list: its name, and what is known about it. -/
structure Listed where
  name : String
  found : Found
  links : Nat
  number : Nat

/-- How lists are ordered and written. -/
structure ListStyle where
  given : Given
  /-- The form of lines: long, in columns, in rows, with commas, or the names alone. -/
  form : Char
  sorting : Char
  present : Int
  timeStyle : Option String

namespace ListStyle

/-- The ending of a name that comes behind its last point. -/
def endingOf (name : String) : String :=
  let reversed := name.toList.reverse
  if reversed.contains '.' then String.ofList (reversed.takeWhile (· != '.')).reverse else ""

/-- A file stands before another one. -/
def precedes (style : ListStyle) (first second : Listed) : Bool :=
  let byName := compare first.name second.name
  let order := match style.sorting with
    | 't' => (compare second.found.time first.found.time).then byName
    | 'S' => (compare second.found.size first.found.size).then byName
    | 'v' => Text.Version.order first.name second.name
    | 'X' => (compare (endingOf first.name) (endingOf second.name)).then byName
    | 'w' => (compare first.name.length second.name.length).then byName
    | _ => byName
  let order := if style.given.has 'r' then order.swap else order
  let rank (file : Listed) : Nat := if file.found.isDirectory then 0 else 1
  let order := if style.given.has (listMark 7) then
      (compare (rank first) (rank second)).then order
    else order
  order != .gt

/-- Files in order. -/
def sorted (style : ListStyle) (files : List Listed) : List Listed :=
  files.mergeSort style.precedes

/-- The mark behind a name that tells the kind. -/
def indicator (style : ListStyle) (found : Found) : String :=
  let word := (style.given.text? (listMark 14)).getD ""
  let classifies := (style.given.has 'F' && style.given.text? 'F' != some "never") ||
    word = "classify"
  let types := classifies || style.given.has (listMark 4) || word = "file-type"
  if found.isDirectory then if types || style.given.has 'p' || word = "slash" then "/" else ""
  else if !types then ""
  else if found.isLink then if style.form = 'l' then "" else "@"
  else if found.isQueue then "|"
  else if classifies && found.isPlain && found.isRunnable then "*" else ""

/-- A name as it is shown. -/
def shownName (style : ListStyle) (name : String) : String :=
  let word := (style.given.text? (listMark 16)).getD ""
  let escape (letter : Char) : List Char :=
    match letter with
    | '\\' => ['\\', '\\']
    | '\n' => ['\\', 'n']
    | '\t' => ['\\', 't']
    | _ => [letter]
  if style.given.has 'Q' || word = "c" then
    "\"" ++ String.ofList (name.toList.flatMap fun letter =>
      if letter = '"' then ['\\', '"'] else escape letter) ++ "\""
  else if style.given.has 'b' || word = "escape" then
    String.ofList (name.toList.flatMap fun letter =>
      if letter = ' ' then ['\\', ' '] else escape letter)
  else if style.given.has 'q' then
    String.ofList (name.toList.map fun letter =>
      if 0x20 ≤ letter.toNat && letter.toNat < 0x7F then letter else '?')
  else if word = "shell-always" || word = "shell-escape-always" then inQuotes name
  else if word = "shell" || word = "shell-escape" then shownPath name
  else name

/-- A size as it is shown. -/
def sizeText (style : ListStyle) (size : Nat) : String :=
  if style.given.has 'h' then unitSize 1024 size
  else if style.given.has (listMark 8) then unitSize 1000 size
  else toString size

/-- A number of blocks as it is shown. -/
def blockText (style : ListStyle) (blocks : Nat) : String :=
  if style.given.has 'h' then unitSize 1024 (1024 * blocks)
  else if style.given.has (listMark 8) then unitSize 1000 (1024 * blocks)
  else toString blocks

/-- Half a year, in millionths of a second. -/
def halfYear : Int := 15778476000000

/-- A time as it is shown. -/
def timeText (style : ListStyle) (time : Int) : String :=
  let isNear := style.present - halfYear < time && time ≤ style.present
  let format := match style.timeStyle.map String.toList with
    | some ('+' :: format) =>
        let formats := (String.ofList format).splitOn "\n"
        if isNear then (formats[1]?).getD (formats.headD "") else formats.headD ""
    | some ['l', 'o', 'n', 'g', '-', 'i', 's', 'o'] => "%Y-%m-%d %H:%M"
    | some ['i', 's', 'o'] => if isNear then "%m-%d %H:%M" else "%Y-%m-%d "
    | some ['f', 'u', 'l', 'l', '-', 'i', 's', 'o'] => "%Y-%m-%d %H:%M:%S.%N +0000"
    | _ => if isNear then "%b %e %H:%M" else "%b %e  %Y"
  Text.Calendar.format (.ofMillionths time) format

/-- The parts of a long line, each with whether it stands at the right of its column. -/
def longParts (style : ListStyle) (file : Listed) : List (Bool × String) :=
  let has := style.given.has
  let found := file.found
  let owner := if has 'n' then toString (ownerOf found) else Account.nameOf (ownerOf found)
  let group := if has 'n' then toString (groupOf found) else groupName (groupOf found)
  let (major, minor) := deviceNumbers found
  let size := if kindLetter found = 'c' then toString major ++ ", " ++ toString minor
    else style.sizeText found.size
  [(true, rightsText found), (true, toString file.links)] ++
    (if has 'g' then [] else [(false, owner)]) ++
    (if has 'o' || has 'G' then [] else [(false, group)]) ++
    (if has (listMark 1) then [(false, owner)] else []) ++
    [(true, size), (true, style.timeText found.time)]

/-- What stands in front of the name of a file: its number and its blocks. -/
def frontParts (style : ListStyle) (file : Listed) : List (Bool × String) :=
  (if style.given.has 'i' then [(true, toString file.number)] else []) ++
    (if style.given.has 's' then [(true, style.blockText (blockCount file.found))] else []) ++
    if style.form = 'l' then style.longParts file else []

/-- Rows of parts in columns that are as wide as their widest part. -/
def aligned (rows : List (List (Bool × String))) : List String :=
  let count := (rows.map List.length).foldl max 0
  let widths := (List.range count).map fun index =>
    (rows.map fun row => ((row[index]?).map fun part => part.2.length).getD 0).foldl max 0
  rows.map fun row => String.join ((row.zip widths).map fun ((isRight, text), width) =>
    let gap := String.ofList (List.replicate (width - text.length) ' ')
    (if isRight then gap ++ text else text ++ gap) ++ " ")

/-- The name of a file with what stands behind it. -/
def nameText (style : ListStyle) (targets : List (String × String)) (file : Listed) : String :=
  let name := style.shownName file.name ++ style.indicator file.found
  match file.found.entry with
  | .link target =>
      if style.form = 'l' then
        name ++ " -> " ++ Text.Octets.encode target ++ (targets.lookup file.name).getD ""
      else name
  | _ => name

/-- Blanks and tabs from a column to another one. The bound is on their number. -/
def columnGap : Nat → Nat → Nat → String
  | 0, _, _ => ""
  | bound + 1, start, stop =>
      if stop ≤ start then ""
      else if (start + 1) / 8 < stop / 8 then
        "\t" ++ columnGap bound (start + 8 - start % 8) stop
      else " " ++ columnGap bound (start + 1) stop

/-- Texts in a row at the given columns. -/
def columnRow : List (Nat × String) → Nat → String
  | [], _ => "\n"
  | (place, text) :: rest, column =>
      columnGap (place + 1) column place ++ text ++ columnRow rest (place + text.length)

/-- Texts in as many columns as a width has room for, which are filled downwards or across. -/
def inColumns (isDown : Bool) (width : Nat) (texts : List String) : String :=
  let count := texts.length
  let most := max 1 (min count (width / 3))
  let columnOf (columns index : Nat) : Nat :=
    if isDown then index / ((count + columns - 1) / columns) else index % columns
  let widths (columns : Nat) : List Nat :=
    (List.range columns).map fun column =>
      (texts.zipIdx.map fun (text, index) =>
        if columnOf columns index = column then
          text.length + if column + 1 = columns then 0 else 2
        else 3).foldl max 3
  let fits (columns : Nat) : Bool := columns ≤ 1 || (widths columns).foldl (· + ·) 0 < width
  let columns := ((List.range most).reverse.map (· + 1)).find? fits |>.getD 1
  let places := (widths columns).foldl (fun places width =>
    places ++ [(places.getLastD 0) + width]) [0]
  let height := (count + columns - 1) / columns
  String.join ((List.range height).map fun row =>
    let cells := (List.range columns).filterMap fun column =>
      let index := if isDown then column * height + row else row * columns + column
      (texts[index]?).map fun text => (places.getD column 0, text)
    columnRow cells 0)

/-- Texts with commas between them, in lines of a width. -/
def withCommas (width : Nat) : Nat → List String → String
  | _, [] => "\n"
  | column, text :: rest =>
      let last := rest.isEmpty
      let length := text.length + if last then 0 else 2
      if column = 0 then text ++ withComma rest ++ withCommas width length rest
      else if column + text.length + 2 < width || (last && column + text.length < width) then
        " " ++ text ++ withComma rest ++ withCommas width (column + length) rest
      else "\n" ++ text ++ withComma rest ++ withCommas width length rest
where
  /-- A comma, if something follows. -/
  withComma (rest : List String) : String := if rest.isEmpty then "" else ","

/-- The text of a list of files that are in order. -/
def text (style : ListStyle) (targets : List (String × String)) (files : List Listed) : String :=
  let fronts := aligned (files.map style.frontParts)
  let rows := (fronts.zip files).map fun (front, file) => front ++ style.nameText targets file
  let width := ((style.given.text? 'w').bind String.toNat?).getD 80
  if rows.isEmpty then ""
  else match style.form with
  | 'C' => inColumns true width rows
  | 'x' => inColumns false width rows
  | 'm' => withCommas width 0 rows
  | _ => joinCut (if style.given.has (listMark 20) then Char.ofNat 0 else '\n') true rows

end ListStyle

/-- What is known about a file that is listed under a name. -/
def listed? (through : Bool) (name path : String) : Action (Option Listed) := do
  let own ← find? false path
  let found ← if through then do pure ((← find? true path).orElse fun _ => own) else pure own
  match found with
  | none => pure none
  | some found => do pure (some ⟨name, found, ← linkCount found, ← fileNumber found⟩)

/-- The names in a directory that are listed. -/
def listedNames (given : Given) (location : Location) : Action (List String) := do
  let names := (((← files).names location).map Text.Octets.encode)
  let showsAll := given.has 'a' || given.has 'f'
  let names := if showsAll then "." :: ".." :: names else names
  let all := showsAll || given.has 'A'
  let holds (texts : List String) (name : String) : Bool := texts.any fun text =>
    Text.Pattern.holds (Text.Pattern.ofText text) name.toList
  pure (names.filter fun name =>
    (all || name.toList.head? != some '.') && !holds (given.texts 'I') name &&
      !(given.has 'B' && name.toList.getLast? = some '~') &&
      (all || !holds (given.texts (listMark 11)) name))

/-- The marks of what links in a list lead to. -/
def linkMarks (style : ListStyle) (paths : List (String × String)) : Action (List (String × String)) :=
  if style.form != 'l' then pure []
  else paths.filterMapM fun (name, path) => do
    pure ((← find? true path).map fun found => (name, style.indicator found))

/-- The text of the lists of directories, each with its name if that is wanted, and of those in them
if that is wanted. The bound is on the depth. -/
def listDirectories (style : ListStyle) (hasHead : Bool) : Nat → List String → Action (List String)
  | 0, _ => pure []
  | bound + 1, paths => do
      let blocks ← paths.mapM fun path => do
        match ← find? true path with
        | none => pure []
        | some found => do
            let names ← listedNames style.given found.location
            let rows ← names.filterMapM fun name =>
              listed? (style.given.has 'L') name (joinPath path name)
            let rows := if style.given.has 'f' || style.sorting = 'U' then rows
              else style.sorted rows
            let targets ← linkMarks style (names.map fun name => (name, joinPath path name))
            let blocks := (rows.map fun row => blockCount row.found).foldl (· + ·) 0
            let total := if style.form = 'l' || style.given.has 's' then
                "total " ++ style.blockText blocks ++ "\n"
              else ""
            let own := (if hasHead then path ++ ":\n" else "") ++ total ++ style.text targets rows
            if !style.given.has 'R' then pure [own]
            else do
              let inner := rows.filter fun row =>
                row.found.isDirectory && row.name != "." && row.name != ".."
              let below ← listDirectories style true bound
                (inner.map fun row => joinPath path row.name)
              pure (own :: below)
      pure blocks.flatten

/-- The way to sort that options ask for. -/
def listSorting (given : Given) : Except String Char :=
  given.options.foldlM (fun sorting (letter, text) =>
    if "tSvXU".toList.contains letter then pure letter
    else if letter = listMark 17 then
      match text with
      | "time" => pure 't'
      | "size" => pure 'S'
      | "version" => pure 'v'
      | "extension" => pure 'X'
      | "none" => pure 'U'
      | "width" => pure 'w'
      | "name" => pure 'n'
      | _ => throw ("invalid argument " ++ inQuotes text ++ " for '--sort'")
    else pure sorting) 'n'

/-- The form of lists that options ask for. -/
def listForm (usual : Char) (given : Given) : Except String Char :=
  given.options.foldlM (fun form (letter, text) =>
    if "lnogCxm".toList.contains letter then
      pure (if "nog".toList.contains letter then 'l' else letter)
    else if letter = '1' then pure (if form = 'l' then 'l' else '1')
    else if letter = listMark 6 then pure 'l'
    else if letter = listMark 5 then
      match text with
      | "long" | "verbose" => pure 'l'
      | "commas" => pure 'm'
      | "horizontal" | "across" => pure 'x'
      | "vertical" => pure 'C'
      | "single-column" => pure '1'
      | _ => throw ("invalid argument " ++ inQuotes text ++ " for '--format'")
    else pure form) usual

/-- Lists files and what is in directories. -/
def runLs (usual : Char) (arguments : List String) : Action Nat := do
  withOptions 2 listOptions arguments fun given => do
    match listSorting given, listForm usual given with
    | .error message, _ | _, .error message => refuseUse 2 message
    | .ok sorting, .ok form => do
        let style : ListStyle :=
          { given
            form
            sorting
            present := ← now
            timeStyle := if given.has (listMark 6) then some "full-iso"
              else given.text? (listMark 19) }
        let paths := if given.operands.isEmpty then ["."] else given.operands
        let isLong := form = 'l' || given.has 'd' || given.has 'F'
        let rows ← paths.mapM fun path => do
          let through := given.has 'L' || given.has 'H' || !isLong
          let row ← listed? through path path
          if row.isNone then
            match ← place true path with
            | .error fault => complain ("cannot access " ++ inQuotes path ++ ": " ++ fault.reason)
            | .ok _ =>
                complain ("cannot access " ++ inQuotes path ++ ": " ++ Fault.missing.reason)
          pure row
        let found := style.sorted (rows.filterMap id)
        let isListed (row : Listed) : Bool := row.found.isDirectory && !given.has 'd'
        let plain := found.filter fun row => !isListed row
        let directories := (found.filter isListed).map Listed.name
        let targets ← linkMarks style (plain.map fun row => (row.name, row.name))
        let heads := 1 < paths.length || given.has 'R'
        let blocks ← listDirectories style heads 64 directories
        let own := style.text targets plain
        let blocks := if plain.isEmpty then blocks else own :: blocks
        finish (if found.length = paths.length then 0 else 2) (String.intercalate "\n" blocks)

/-! ## Formats -/

/-- A time with the part of a second behind it. -/
def fullTime (time : Int) : String :=
  Text.Calendar.format (.ofMillionths time) "%Y-%m-%d %H:%M:%S.%N +0000"

/-- The seconds of a time, with some digits of the part of one behind it. -/
def secondsText (precision : Option Nat) (time : Int) : String :=
  let seconds := toString (Int.fdiv time 1000000)
  match precision with
  | none | some 0 => seconds
  | some precision =>
      let digits := toString (time % 1000000)
      let digits := List.replicate (6 - digits.length) '0' ++ digits.toList ++
        List.replicate 3 '0'
      seconds ++ "." ++ String.ofList ((digits ++ List.replicate precision '0').take precision)

/-- What is known about a file, by the letter of a directive. -/
def knownPart (path : String) (file : Listed) (precision : Option Nat) (letter : Char) : String :=
  let found := file.found
  let hexadecimal (number : Nat) : String := String.ofList (Nat.toDigits 16 number)
  match letter with
  | 'a' => String.ofList (Nat.toDigits 8 found.mode)
  | 'A' => rightsText found
  | 'b' => toString (2 * blockCount found)
  | 'B' => "512"
  | 'd' => "50"
  | 'D' => "32"
  | 'f' => hexadecimal (kindMode found + found.mode)
  | 'F' => if found.isDirectory then "directory"
      else if found.isLink then "symbolic link"
      else if found.isQueue then "fifo"
      else if !found.isPlain then "character special file"
      else if found.hasContent then "regular file" else "regular empty file"
  | 'g' => toString (groupOf found)
  | 'G' => groupName (groupOf found)
  | 'h' => toString file.links
  | 'i' => toString file.number
  | 'm' => "/"
  | 'n' => path
  | 'N' =>
      match found.entry with
      | .link target => inQuotes path ++ " -> " ++ inQuotes (Text.Octets.encode target)
      | _ => inQuotes path
  | 'o' => "4096"
  | 's' => toString found.size
  | 't' => hexadecimal (deviceNumbers found).1
  | 'T' => hexadecimal (deviceNumbers found).2
  | 'u' => toString (ownerOf found)
  | 'U' => Account.nameOf (ownerOf found)
  | 'w' | 'x' | 'y' | 'z' => fullTime found.time
  | 'W' | 'X' | 'Y' | 'Z' => secondsText precision found.time
  | 'C' => "?"
  | _ => "?"

/-- The text of a format about a file. The bound is on its length. -/
def expandKnown (path : String) (file : Listed) (escapes : Bool) : Nat → List Char → List Char
  | 0, _ => []
  | _ + 1, [] => []
  | bound + 1, '%' :: '%' :: rest => '%' :: expandKnown path file escapes bound rest
  | bound + 1, '%' :: rest =>
      let (flags, rest) := rest.span ['-', '+', '#', '0', ' ', '\''].contains
      let (width, rest) := rest.span Char.isDigit
      let (precision, rest) := match rest with
        | '.' :: rest =>
            let (digits, rest) := rest.span Char.isDigit
            (some ((Text.Decimal.digits? digits).getD 9), rest)
        | _ => (none, rest)
      match rest.dropWhile fun letter => letter = 'H' || letter = 'L' with
      | [] => ['%']
      | letter :: rest =>
          let text := knownPart path file precision letter
          let text := if letter = 'a' && flags.contains '#' then "0" ++ text else text
          let text := if letter = 's' || !"nNFAUGmwxyzC".toList.contains letter then text
            else match precision with
              | some precision => String.ofList (text.toList.take precision)
              | none => text
          let width := (Text.Decimal.digits? width).getD 0
          (padTo flags width (!"nNFAUGm".toList.contains letter) text).toList ++
            expandKnown path file escapes bound rest
  | bound + 1, '\\' :: rest =>
      if escapes then
        let (meant, rest) := replaceEscape .program .format rest
        meant ++ expandKnown path file escapes bound rest
      else '\\' :: expandKnown path file escapes bound rest
  | bound + 1, letter :: rest => letter :: expandKnown path file escapes bound rest

/-- The usual format. -/
def wholeFormat (found : Found) : String :=
  let name := if found.isLink then "%N" else "%n"
  let device := if kindLetter found = 'c' then "     Device type: %t,%T" else ""
  "  File: " ++ name ++ "\n  Size: %-10s\tBlocks: %-10b IO Block: %-6o %F\n" ++
    "Device: 0,%d\tInode: %-10i  Links: " ++ (if device.isEmpty then "%h" else "%-5h") ++ device ++
    "\nAccess: (%04a/%10A)  Uid: (%5u/%8U)   Gid: (%5g/%8G)\n" ++
    "Access: %x\nModify: %y\nChange: %z\n Birth: %w\n"

/-- Writes what is known about files, in a format. -/
def runStat (arguments : List String) : Action Nat := do
  let known : List Known := [⟨'c', "format", .text⟩, ⟨'p', "printf", .text⟩,
    ⟨'L', "dereference", .nothing⟩, ⟨'t', "terse", .nothing⟩, ⟨'f', "file-system", .nothing⟩,
    ⟨Char.ofNat 1, "cached", .text⟩]
  withOptions 1 (known.map fun option =>
      if option.letter = 'p' then { option with letter := Char.ofNat 2 } else option) arguments
    fun given => do
      if given.operands.isEmpty then refuseUse 1 "missing operand"
      else forEach given.operands fun path => do
        match ← listed? (given.has 'L') path path with
        | none => do
            match ← place true path with
            | .error fault => failWith "cannot statx" path fault
            | .ok _ => failWith "cannot statx" path .missing
        | some file =>
            let through := given.has 'L' && file.found.isLink
            if through then failWith "cannot statx" path .missing
            else
              let write (format : String) (escapes : Bool) : Action Nat :=
                answer (String.ofList (expandKnown path file escapes (2 * format.length + 1)
                  format.toList))
              match given.text? 'c', given.text? (Char.ofNat 2) with
              | some format, _ => write (format ++ "\n") false
              | none, some format => write format true
              | none, none =>
                  if given.has 't' then
                    write "%n %s %b %f %u %g %D %i %h %t %T %X %Y %Z %W %o\n" false
                  else write (wholeFormat file.found) false

end StaticMulticast.Host.Utility
