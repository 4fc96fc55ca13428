import StaticMulticast.Host.Shell.Word
import StaticMulticast.Host.Utility.Input

/-!
# Lines and blocks

The programs that write lines or blocks of what they read.
-/

/-!
## Programs about lines

They read texts, from files or from their input, and write all or some of their lines, with numbers
or with another width, or how many there are.
-/

namespace StaticMulticast.Host.Utility

open Action

/-! ## Whole texts -/

/-- Numbers lines, all of them or those that are not empty. -/
def numbered (all : Bool) : Nat → List String → List String
  | _, [] => []
  | number, line :: rest =>
      if line.isEmpty && !all then line :: numbered all number rest
      else (atWidth 6 number ++ "\t" ++ line) :: numbered all (number + 1) rest

/-- Leaves out empty lines behind empty lines. -/
def squeezed : List String → List String
  | first :: second :: rest =>
      if first.isEmpty && second.isEmpty then squeezed (second :: rest)
      else first :: squeezed (second :: rest)
  | lines => lines

/-- The output is the end of the file of a node that is read, so that it would not end. -/
def isOwnOutput (path : String) : Action Bool := do
  let output ← openFile? 1
  let input ← if path = "-" then openFile? 0 else pure none
  let node? (file : Option (Nat × OpenFile)) : Option Nat :=
    match file with
    | some (_, { stream := .opened (.file node), .. }) => some node
    | _ => none
  let source := match ← find? true path with
    | some { entry := .file node, .. } => some node
    | _ => none
  let source := if path = "-" then node? input else source
  match output, source with
  | some (_, file), some node => do
      let length := (← nodeOctets node).length
      let reached := if file.appends then length else file.offset
      let start := (input.map fun input => input.2.offset).getD 0
      pure (node? output = some node && start < reached)
  | _, _ => pure false

/-- A character as it can be seen, with marks for those that cannot. -/
def withMarks (letter : Char) : List Char :=
  let code := letter.toNat
  let low := code % 128
  let front := if 128 ≤ code then ['M', '-'] else []
  if letter = '\t' then ['\t']
  else if low < 32 then front ++ ['^', Char.ofNat (low + 64)]
  else if low = 127 then front ++ ['^', '?']
  else front ++ [Char.ofNat low]

/-- Writes files one after the other. -/
def runCat (arguments : List String) : Action Nat := do
  let known : List Known := [⟨'n', "number", .nothing⟩, ⟨'b', "number-nonblank", .nothing⟩,
    ⟨'s', "squeeze-blank", .nothing⟩, ⟨'E', "show-ends", .nothing⟩, ⟨'A', "show-all", .nothing⟩,
    ⟨'T', "show-tabs", .nothing⟩, ⟨'v', "show-nonprinting", .nothing⟩, ⟨'e', "", .nothing⟩,
    ⟨'t', "", .nothing⟩, ⟨'u', "", .nothing⟩]
  withOptions 1 known arguments fun given => do
    let paths := if given.operands.isEmpty then ["-"] else given.operands
    let own ← paths.filterM isOwnOutput
    own.forM fun path => complain (shownPath path ++ ": input file is output file")
    let (texts, status) ← readOperands 1 (paths.filter fun path => !own.contains path)
    let text := together texts
    let status := if own.isEmpty then status else 1
    if own.length = paths.length then pure 1
    else if given.options.all fun option => option.1 = 'u' then finish status text
    else do
      let has (letters : List Char) : Bool := letters.any given.has
      let (lines, ended) := linesOf text
      let lines := if given.has 's' then squeezed lines else lines
      let lines := if has ['v', 'A', 'e', 't'] then
          lines.map fun line => String.ofList (line.toList.flatMap withMarks)
        else lines
      let lines := if has ['T', 'A', 't'] then
        lines.map fun line => String.intercalate "^I" (line.splitOn "\t") else lines
      let isLast (index : Nat) : Bool := !ended && index + 1 = lines.length
      let marked := if has ['E', 'A', 'e'] then
          lines.mapIdx fun index line => if isLast index then line else line ++ "$"
        else lines
      let rows := (lines.zip marked).map fun (line, marked) => (line.isEmpty, marked)
      let rec count : Nat → List (Bool × String) → List String
        | _, [] => []
        | number, (isEmpty, line) :: rest =>
            if isEmpty && given.has 'b' then line :: count number rest
            else (atWidth 6 number ++ "\t" ++ line) :: count (number + 1) rest
      let lines := if has ['b', 'n'] then count 1 rows else marked
      finish status (joinEnded ended lines)

/-- Writes what is read to files as well as to the output. -/
def runTee (arguments : List String) : Action Nat := do
  let known : List Known := [⟨'a', "append", .nothing⟩, ⟨'i', "ignore-interrupts", .nothing⟩,
    ⟨'p', "", .nothing⟩, ⟨'q', "output-error", .attached⟩]
  withOptions 1 known arguments fun given => do
    let manner := if given.has 'a' then Manner.appending else .writing
    let opened ← given.operands.mapM fun path => do pure (path, ← openPath path manner)
    let (texts, status) ← readOperands 1 []
    let text := together texts
    let statuses ← opened.mapM fun (path, result) => do
      match result with
      | .error fault => do
          report path fault
          pure 1
      | .ok number => do
          let before := (← process).descriptors
          setDescriptor 3 (some number)
          let fault ← write 3 text
          modifyProcess fun process => { process with descriptors := before }
          pure (if fault.isSome then 1 else 0)
    finish (statuses.foldl max status) text

/-! ## Beginnings and ends -/

/-- The parts of a text that are counted: its lines with their ends, or its characters. -/
def partsOf (byLines : Bool) (mark : Char) (text : String) : List String :=
  if byLines then
    let (lines, ended) := cutLines mark text
    if ended then lines.map (·.push mark)
    else lines.dropLast.map (·.push mark) ++
      (lines.getLast?.filter fun line => !line.isEmpty).toList
  else text.toList.map String.singleton

/-- What is wanted of the parts of a text: those at the front or the back, so many of them, or all
but so many. -/
structure Extract where
  byLines : Bool := true
  front : Bool
  count : Nat := 10
  /-- All but so many at the other side. -/
  isRest : Bool := false

/-- Takes what is wanted of a text. -/
def Extract.take (extract : Extract) (mark : Char) (text : String) : String :=
  let parts := partsOf extract.byLines mark text
  let length := parts.length
  String.join (match extract.front, extract.isRest with
    | true, false => parts.take extract.count
    | true, true => parts.take (length - extract.count)
    | false, false => parts.drop (length - extract.count)
    | false, true => parts.drop extract.count)

/-- What a count asks for. Behind a mark the count is of those that are left out. -/
def Extract.ofText? (byLines front : Bool) (text : String) : Option Extract :=
  match front, text.toList with
  | true, '-' :: digits =>
      (amount? (String.ofList digits)).map fun count => ⟨byLines, true, count, true⟩
  | true, '+' :: digits =>
      (amount? (String.ofList digits)).map fun count => ⟨byLines, true, count, false⟩
  | false, '+' :: digits =>
      (amount? (String.ofList digits)).map fun count => ⟨byLines, false, count - 1, true⟩
  | false, '-' :: digits =>
      (amount? (String.ofList digits)).map fun count => ⟨byLines, false, count, false⟩
  | _, _ => (amount? text).map fun count => ⟨byLines, front, count, false⟩

/-- A count right behind a minus sign, in the place of an option. -/
def withCounts (front : Bool) (arguments : List String) : List String :=
  arguments.flatMap fun argument =>
    match argument.toList with
    | '-' :: digit :: rest =>
        let (digits, letters) := (digit :: rest).span Char.isDigit
        if digits.isEmpty then [argument]
        else
          let count := String.ofList digits
          match letters with
          | [] => ["-n", count]
          | ['c'] => ["-c", count]
          | _ =>
              if letters.all ['q', 'v', 'l'].contains then
                ["-n", count] ++ (letters.filter (· != 'l')).map fun letter =>
                  "-" ++ String.singleton letter
              else [argument]
    | '+' :: digit :: rest =>
        if !front && digit.isDigit && rest.all Char.isDigit then ["-n", argument] else [argument]
    | _ => [argument]

/-- Reports a file that cannot be opened. -/
def reportReading (path : String) (fault : Fault) : Action Unit :=
  if fault = .directory then
    complain ("error reading " ++ inQuotes path ++ ": " ++ fault.reason)
  else complain ("cannot open " ++ inQuotes path ++ " for reading: " ++ fault.reason)

/-- Writes the beginnings or the ends of files. -/
def runExtract (front : Bool) (arguments : List String) : Action Nat := do
  let known := [⟨'n', "lines", .text⟩, ⟨'c', "bytes", .text⟩, ⟨'q', "quiet", .nothing⟩,
    ⟨'v', "verbose", .nothing⟩, ⟨'z', "zero-terminated", .nothing⟩, ⟨'q', "silent", .nothing⟩] ++
      if front then [] else [⟨'f', "follow", .attached⟩, ⟨'F', "", .nothing⟩,
        ⟨'s', "sleep-interval", .text⟩, ⟨'p', "pid", .text⟩, ⟨'r', "retry", .nothing⟩]
  let arguments := match arguments with
    | first :: rest => withCounts front [first] ++ rest
    | [] => []
  withOptions 1 known arguments fun given => do
    let last := given.options.reverse.find? fun option => option.1 = 'n' || option.1 = 'c'
    let extract := match last with
      | some (letter, text) => Extract.ofText? (letter = 'n') front text
      | none => some { front }
    let kind := if (last.map (·.1)) = some 'c' then "bytes" else "lines"
    match extract with
    | none =>
        refuse 1 ("invalid number of " ++ kind ++ ": " ++ inQuotes ((last.map (·.2)).getD ""))
    | some extract => do
        let paths := if given.operands.isEmpty then ["-"] else given.operands
        let (texts, status) ← readEachWith reportReading 1 paths
        let heads := given.has 'v' || (1 < given.operands.length && !given.has 'q')
        let mark := if given.has 'z' then Char.ofNat 0 else '\n'
        let parts := texts.map fun (path, text) => (path, text, extract.take mark text)
        if front then
          match parts.find? fun part => part.1 = "-" with
          | some (_, text, part) =>
              giveBack (if extract.byLines then 0x2000 else 1) (text.length - part.length)
          | none => pure ()
        let shown := parts.map fun (path, _, part) =>
          if heads then
            let path := if path = "-" then "standard input" else path
            "==> " ++ path ++ " <==\n" ++ part
          else part
        finish status (String.intercalate (if heads then "\n" else "") shown)

/-! ## Counting -/

/-- The number of words in a text. -/
def wordCount (text : String) : Nat :=
  let isBlank (letter : Char) : Bool := letter.toNat = 32 || (9 ≤ letter.toNat && letter.toNat ≤ 13)
  ((List.splitOnP isBlank text.toList).filter fun word => !word.isEmpty).length

/-- The column that a line reaches, where tabs lead to multiples of eight. -/
def reachedColumn (line : List Char) : Nat :=
  let (column, widest) := line.foldl (fun (column, widest) letter =>
    let column := if letter = '\t' then column / 8 * 8 + 8
      else if letter = '\r' || letter.toNat = 0xC then 0
      else if 0x20 ≤ letter.toNat && letter.toNat < 0x7F then column + 1
      else column
    (column, max widest column)) (0, 0)
  max column widest

/-- Writes how many lines, words and octets there are. -/
def runWc (arguments : List String) : Action Nat := do
  let known : List Known := [⟨'l', "lines", .nothing⟩, ⟨'w', "words", .nothing⟩,
    ⟨'c', "bytes", .nothing⟩, ⟨'m', "chars", .nothing⟩, ⟨'L', "max-line-length", .nothing⟩,
    ⟨'t', "total", .text⟩]
  withOptions 1 known arguments fun given => do
    let (texts, status) ← readOperands 1 given.operands
    let chosen := ['l', 'w', 'm', 'c', 'L'].filter given.has
    let wanted := if chosen.isEmpty then ['l', 'w', 'c'] else chosen
    let count (text : String) (letter : Char) : Nat :=
      match letter with
      | 'l' => text.toList.countP (· == '\n')
      | 'w' => wordCount text
      | 'L' => ((List.splitOnP (· == '\n') text.toList).map reachedColumn).foldl max 0
      | _ => text.length
    let counts := texts.map fun (path, text) => (path, wanted.map (count text))
    let total := wanted.zipIdx.map fun (letter, index) =>
      let column := counts.map fun row => row.2[index]?.getD 0
      if letter = 'L' then column.foldl max 0 else column.foldl (· + ·) 0
    let totals : Bool := match given.text? 't' with
      | some "always" | some "only" => true
      | some "never" => false
      | _ => 1 < given.operands.length
    let isOnly := given.text? 't' = some "only"
    let rows := if isOnly then [("", total)]
      else if totals then counts ++ [("total", total)] else counts
    let isFile ← if given.operands.isEmpty then do
        pure (match ← openFile? 0 with
          | some (_, { stream := .opened (.file _), .. }) => true
          | _ => false)
      else pure true
    let octets := (texts.map fun text => text.2.length).foldl (· + ·) 0
    let width := if isOnly || (rows.length = 1 && wanted.length = 1) then 1
      else max (toString octets).length (if isFile then 1 else 7)
    let lines := rows.map fun (path, numbers) =>
      let text := String.intercalate " " (numbers.map (atWidth width))
      if given.operands.isEmpty || path.isEmpty then text else text ++ " " ++ path
    finish status (joinLines lines)

/-! ## Reversing -/

/-- A text cut behind each place where a separator stands, or in front of it. The bound is on the
length. -/
def cutAround (separator : List Char) (inFront : Bool) :
    Nat → List Char → List Char → List (List Char)
  | 0, _, _ => []
  | _ + 1, done, [] => if done.isEmpty then [] else [done.reverse]
  | bound + 1, done, letter :: rest =>
      if separator.isPrefixOf (letter :: rest) then
        let after := (letter :: rest).drop separator.length
        if inFront then
          (if done.isEmpty then [] else [done.reverse]) ++
            cutAround separator inFront bound separator.reverse after
        else
          (done.reverse ++ separator) :: cutAround separator inFront bound [] after
      else cutAround separator inFront bound (letter :: done) rest

/-- Writes lines from the last to the first. -/
def runTac (arguments : List String) : Action Nat := do
  let known : List Known := [⟨'b', "before", .nothing⟩, ⟨'s', "separator", .text⟩,
    ⟨'r', "regex", .nothing⟩]
  withOptions 1 known arguments fun given => do
    let paths := if given.operands.isEmpty then ["-"] else given.operands
    let reportOpen (path : String) (fault : Fault) : Action Unit :=
      complain ("failed to open " ++ inQuotes path ++ " for reading: " ++ fault.reason)
    let (texts, status) ← readEachWith reportOpen 1 paths
    let separator := ((given.text? 's').getD "\n").toList
    let reversed := texts.map fun (_, text) =>
      ((cutAround separator (given.has 'b') (text.length + 1) [] text.toList).reverse).flatten
    finish status (String.ofList reversed.flatten)

/-- Writes each line from its end. -/
def runRev (arguments : List String) : Action Nat := do
  let reportOpen (path : String) (fault : Fault) : Action Unit :=
    complain ("cannot open " ++ path ++ ": " ++ fault.reason)
  let (texts, status) ← readEachWith reportOpen 1 (if arguments.isEmpty then ["-"] else arguments)
  let (lines, ended) := linesOf (together texts)
  finish status (joinEnded ended (lines.map fun line => String.ofList line.toList.reverse))

/-! ## Numbers of lines -/

/-- How `nl` numbers lines: which lines of each part of a page, from which number on, in what steps,
at what width, and with what behind the number. -/
structure Numbering where
  body : String → Bool
  header : String → Bool
  footer : String → Bool
  mark : String
  first : Int
  step : Int
  width : Nat
  form : String
  separator : String
  /-- Numbers go on from page to page. -/
  goesOn : Bool
  /-- So many empty lines count as one. -/
  blanks : Nat

/-- A number in the form that is wanted. -/
def Numbering.number (numbering : Numbering) (number : Int) : String :=
  let digits := toString number.natAbs
  let sign := if number < 0 then "-" else ""
  let missing := numbering.width - digits.length - sign.length
  match numbering.form with
  | "ln" => sign ++ digits ++ String.ofList (List.replicate missing ' ')
  | "rz" => sign ++ String.ofList (List.replicate missing '0') ++ digits
  | _ => String.ofList (List.replicate missing ' ') ++ sign ++ digits

/-- Numbers the lines of a part of a page and of those after it. It is given which lines of the part
are numbered, the next number, and how many empty lines stand before. -/
def Numbering.lines (numbering : Numbering) :
    (String → Bool) → Int → Nat → List String → List String
  | _, _, _, [] => []
  | wants, number, blanks, line :: rest =>
      let section? : Option (String → Bool) :=
        if numbering.mark.isEmpty then none
        else if line = numbering.mark ++ numbering.mark ++ numbering.mark then some numbering.header
        else if line = numbering.mark ++ numbering.mark then some numbering.body
        else if line = numbering.mark then some numbering.footer
        else none
      match section? with
      | some wants =>
          let isPage := line = numbering.mark ++ numbering.mark ++ numbering.mark
          "" :: numbering.lines wants (if isPage && !numbering.goesOn then numbering.first
            else number) 0 rest
      | none =>
          let isBlank := line.isEmpty
          let count := if isBlank then blanks + 1 else 0
          let isGrouped := isBlank && 1 < numbering.blanks && count % numbering.blanks != 0
          if wants line && !isGrouped then
            (numbering.number number ++ numbering.separator ++ line) ::
              numbering.lines wants (number + numbering.step) count rest
          else
            let gap := numbering.width + numbering.separator.length
            (String.ofList (List.replicate gap ' ') ++ line) ::
              numbering.lines wants number count rest

/-- Writes lines with their numbers. The style `p` is understood by a function that is given. -/
def runNl (expression : String → String → Bool) (arguments : List String) : Action Nat := do
  let known : List Known := [⟨'b', "body-numbering", .text⟩, ⟨'h', "header-numbering", .text⟩,
    ⟨'f', "footer-numbering", .text⟩, ⟨'d', "section-delimiter", .text⟩,
    ⟨'i', "line-increment", .text⟩, ⟨'l', "join-blank-lines", .text⟩,
    ⟨'n', "number-format", .text⟩, ⟨'p', "no-renumber", .nothing⟩,
    ⟨'s', "number-separator", .text⟩, ⟨'v', "starting-line-number", .text⟩,
    ⟨'w', "number-width", .text⟩]
  withOptions 1 known arguments fun given => do
    let (texts, status) ← readOperands 1 given.operands
    let lines := (linesOf (together texts)).1
    let style (letter : Char) (usual : String) : String → Bool :=
      match ((given.text? letter).getD usual).toList with
      | ['a'] => fun _ => true
      | ['n'] => fun _ => false
      | 'p' :: text => expression (String.ofList text)
      | _ => fun line => !line.isEmpty
    let delimiter := (given.text? 'd').getD "\\:"
    let number (letter : Char) (usual : Int) : Int := ((given.text? letter).bind String.toInt?).getD usual
    let numbering : Numbering :=
      { body := style 'b' "t"
        header := style 'h' "n"
        footer := style 'f' "n"
        mark := if delimiter.length = 1 then delimiter ++ ":" else delimiter
        first := number 'v' 1
        step := number 'i' 1
        width := (number 'w' 6).toNat
        form := (given.text? 'n').getD "rn"
        separator := (given.text? 's').getD "\t"
        goesOn := given.has 'p'
        blanks := (number 'l' 1).toNat }
    let isBad (letter : Char) : Bool :=
      (given.text? letter).any fun text => text.toInt?.isNone
    if ['v', 'i', 'w', 'l'].any isBad then refuse 1 "invalid line number"
    else if !(["ln", "rn", "rz"].contains numbering.form) then
      refuseUse 1 ("invalid line numbering format: " ++ inQuotes numbering.form)
    else finish status (joinLines (numbering.lines numbering.body numbering.first 0 lines))

/-! ## Width -/

/-- The place of the last blank in reversed letters, as the number of letters behind it. -/
def lastBlank? (letters : List Char) : Option Nat :=
  letters.findIdx? isBlank

/-- The column after a character. -/
def columnAfter (byOctets : Bool) (column : Nat) (letter : Char) : Nat :=
  if byOctets then column + 1
  else if letter = '\t' then column / 8 * 8 + 8
  else if letter.toNat = 8 then column - 1
  else if letter = '\r' then 0
  else column + 1

/-- A line in pieces of a width. The letters of the piece so far are given in reverse. The bound is
on the number of steps. -/
def foldLine (byOctets atBlanks : Bool) (width : Nat) :
    Nat → List Char → Nat → List Char → List (List Char)
  | 0, _, _, _ => []
  | _ + 1, done, _, [] => [done.reverse]
  | bound + 1, done, column, letter :: rest =>
      let next := columnAfter byOctets column letter
      if next ≤ width || done.isEmpty then
        foldLine byOctets atBlanks width bound (letter :: done) next rest
      else
        match if atBlanks then lastBlank? done else none with
        | some behind =>
            let kept := (done.drop behind).reverse
            let moved := (done.take behind).reverse
            let column := moved.foldl (columnAfter byOctets) 0
            kept :: foldLine byOctets atBlanks width bound moved.reverse column (letter :: rest)
        | none =>
            done.reverse :: foldLine byOctets atBlanks width bound [] 0 (letter :: rest)

/-- Cuts lines at a width. -/
def runFold (arguments : List String) : Action Nat := do
  let known : List Known := [⟨'w', "width", .text⟩, ⟨'s', "spaces", .nothing⟩,
    ⟨'b', "bytes", .nothing⟩]
  let arguments := arguments.flatMap fun argument =>
    match argument.toList with
    | '-' :: digit :: rest =>
        if digit.isDigit then ["-w", String.ofList (digit :: rest)] else [argument]
    | _ => [argument]
  withOptions 1 known arguments fun given => do
    match ((given.text? 'w').getD "80").toNat? with
    | none | some 0 => refuse 1 ("invalid number of columns: " ++ inQuotes ((given.text? 'w').getD ""))
    | some width => do
        let (texts, status) ← readOperands 1 given.operands
        let (lines, ended) := linesOf (together texts)
        let folded := lines.flatMap fun line =>
          foldLine (given.has 'b') (given.has 's') width (2 * line.length * (line.length + 1) + 2)
            [] 0 line.toList
        finish status (joinEnded ended (folded.map String.ofList))

/-- The column of the next stop of tabs after a column. -/
def nextStop (stops : List Nat) (column : Nat) : Option Nat :=
  match stops with
  | [] => some (column / 8 * 8 + 8)
  | [width] => some (if width = 0 then column + 1 else column / width * width + width)
  | _ => stops.find? (column < ·)

/-- The stops of tabs that an option gives. -/
def stopsOf? (text : String) : Option (List Nat) :=
  ((List.splitOnP (fun letter => letter = ',' || letter = ' ') text.toList).map String.ofList).mapM
    String.toNat?

/-- The arguments, where a number behind a minus sign stands for stops. -/
def withStops (arguments : List String) : List String :=
  arguments.flatMap fun argument =>
    match argument.toList with
    | '-' :: digit :: rest =>
        if digit.isDigit then ["-t", String.ofList (digit :: rest)] else [argument]
    | _ => [argument]

/-- Writes blanks in the place of tabs. -/
def runExpand (arguments : List String) : Action Nat := do
  withOptions 1 [⟨'t', "tabs", .text⟩, ⟨'i', "initial", .nothing⟩] (withStops arguments)
    fun given => do
      match stopsOf? ((given.text? 't').getD "8") with
      | none => refuse 1 "tab size contains invalid character(s)"
      | some stops => do
          let (texts, status) ← readOperands 1 given.operands
          let text := (together texts).toList
          let (done, _, _) := text.foldl (fun (done, column, isFront) letter =>
            if letter = '\n' then (['\n'] :: done, 0, true)
            else if letter = '\t' && (isFront || !given.has 'i') then
              let stop := (nextStop stops column).getD (column + 1)
              (List.replicate (stop - column) ' ' :: done, stop, isFront)
            else if letter.toNat = 8 then ([letter] :: done, column - 1, isFront)
            else ([letter] :: done, column + 1, isFront && letter = ' '))
            (([] : List (List Char)), 0, true)
          finish status (String.ofList done.reverse.flatten)

/-- A line with tabs in the place of blanks. The blanks before the place are given in reverse, with
their first column and the present one. -/
def unexpandLine (stops : List Nat) (all : Bool) :
    List Char → Nat → Bool → List Char → List Char
  | pending, _, _, [] => pending.reverse
  | pending, column, isOn, letter :: rest =>
      if !isOn then letter :: unexpandLine stops all pending column isOn rest
      else if letter = ' ' then
        let column := column + 1
        if nextStop stops (column - 1) = some column && (2 ≤ pending.length + 1 || pending != []) then
          '\t' :: unexpandLine stops all [] column isOn rest
        else if nextStop stops (column - 1) = some column then
          match rest with
          | ' ' :: _ | '\t' :: _ => '\t' :: unexpandLine stops all [] column isOn rest
          | _ => ' ' :: unexpandLine stops all [] column isOn rest
        else unexpandLine stops all (' ' :: pending) column isOn rest
      else if letter = '\t' then
        '\t' :: unexpandLine stops all [] ((nextStop stops column).getD (column + 1)) isOn rest
      else pending.reverse ++ letter :: unexpandLine stops all [] (column + 1) (isOn && all) rest

/-- Writes tabs in the place of blanks. -/
def runUnexpand (arguments : List String) : Action Nat := do
  withOptions 1 [⟨'t', "tabs", .text⟩, ⟨'a', "all", .nothing⟩, ⟨'f', "first-only", .nothing⟩]
    (withStops arguments) fun given => do
      match stopsOf? ((given.text? 't').getD "8") with
      | none => refuse 1 "tab size contains invalid character(s)"
      | some stops => do
          let (texts, status) ← readOperands 1 given.operands
          let (lines, ended) := linesOf (together texts)
          let all := (given.has 'a' || given.has 't') && !given.has 'f'
          finish status (joinEnded ended (lines.map fun line =>
            String.ofList (unexpandLine stops all [] 0 true line.toList)))

end StaticMulticast.Host.Utility

/-!
## Copying blocks

`dd` copies blocks of a size from its input to its output, and leaves out some of the first ones on
either side. Its arguments are assignments to names.
-/

namespace StaticMulticast.Host.Utility

open Action

/-- What is copied, and how. -/
structure BlockCopy where
  input : Option String := none
  output : Option String := none
  inputSize : Nat := 512
  outputSize : Nat := 512
  count : Option Nat := none
  skipped : Nat := 0
  seeked : Nat := 0
  conversions : List String := []

namespace BlockCopy

/-- The conversions that are known. -/
def conversionNames : List String :=
  ["notrunc", "nocreat", "excl", "sync", "noerror", "fsync", "fdatasync", "ucase", "lcase", "swab",
    "sparse"]

/-- A number of octets. An `x` multiplies. -/
def size? (text : String) : Option Nat := do
  let factors ← (text.splitOn "x").mapM fun factor =>
    match factor.toList.getLast? with
    | some 'c' => (String.ofList factor.toList.dropLast).toNat?
    | some 'w' => (String.ofList factor.toList.dropLast).toNat?.map (2 * ·)
    | _ => amount? factor
  some (factors.foldl (· * ·) 1)

/-- A size that is not zero. -/
def filledSize? (text : String) : Option Nat :=
  (size? text).filter (0 < ·)

/-- Takes an argument into account. -/
def add? (copy : BlockCopy) (argument : String) : Option BlockCopy := do
  let (name, value) := argument.toList.span (· != '=')
  let _ ← value.head?
  let value := String.ofList value.tail
  match String.ofList name with
  | "if" => some { copy with input := some value }
  | "of" => some { copy with output := some value }
  | "bs" => do
      let size ← filledSize? value
      some { copy with inputSize := size, outputSize := size }
  | "ibs" => do some { copy with inputSize := ← filledSize? value }
  | "obs" => do some { copy with outputSize := ← filledSize? value }
  | "count" => do some { copy with count := some (← size? value) }
  | "skip" | "iseek" => do some { copy with skipped := ← size? value }
  | "seek" | "oseek" => do some { copy with seeked := ← size? value }
  | "conv" => do
      let names := value.splitOn ","
      if names.all conversionNames.contains then some { copy with conversions := names } else none
  | "status" => if ["none", "noxfer", "progress"].contains value then some copy else none
  | "iflag" | "oflag" => some copy
  | _ => none

/-- The octets after the conversions of letters. -/
def converted (copy : BlockCopy) (octets : List UInt8) : List UInt8 :=
  let change (change : Char → Char) (octet : UInt8) : UInt8 :=
    UInt8.ofNat (change (Char.ofNat octet.toNat)).toNat
  if copy.conversions.contains "ucase" then octets.map (change Char.toUpper)
  else if copy.conversions.contains "lcase" then octets.map (change Char.toLower)
  else octets

/-- Copies blocks through descriptors. The bound is on their number. -/
def copyBlocks (copy : BlockCopy) (reading writing : Nat) : Nat → Action Nat
  | 0 => pure 0
  | bound + 1 => do
      match ← readSome reading fun _ => copy.inputSize with
      | .error fault => do
          complain fault.reason
          pure 1
      | .ok [] => pure 0
      | .ok octets => do
          match ← writeOctets writing (copy.converted octets) with
          | some fault => do
              complain fault.reason
              pure 1
          | none => copyBlocks copy reading writing bound

/-- Opens the input, and leaves out its first blocks. -/
def openInput (copy : BlockCopy) (descriptor : Nat) : Action (Option Fault) := do
  let fault ← match copy.input with
    | none => do
        let own := (← process).descriptors.lookup 0
        setDescriptor descriptor own
        pure none
    | some path =>
        match ← openPath path .reading with
        | .ok number => do
            setDescriptor descriptor (some number)
            pure none
        | .error fault => pure (some fault)
  let left := copy.skipped * copy.inputSize
  if fault.isNone && 0 < left then
    let _ ← readSome descriptor fun _ => left
  pure fault

/-- Opens the output, and leaves out its first blocks. What is behind them in a file is dropped,
unless a conversion keeps it. -/
def openOutput (copy : BlockCopy) (descriptor : Nat) : Action (Option Fault) := do
  match copy.output with
  | none => do
      let own := (← process).descriptors.lookup 1
      setDescriptor descriptor own
      pure none
  | some path =>
      let isThere := (← find? true path).isSome
      if copy.conversions.contains "nocreat" && !isThere then pure (some .missing)
      else match ← openPath path .both with
      | .error fault => pure (some fault)
      | .ok number => do
          setDescriptor descriptor (some number)
          let start := copy.seeked * copy.outputSize
          setOffset number start
          match (← world).openFiles[number]?.map OpenFile.stream with
          | some (.opened (.file node)) =>
              if !copy.conversions.contains "notrunc" then
                modifyFiles fun files => files.modifyNode node fun held =>
                  { held with octets := held.octets.take start ++
                      List.replicate (start - held.octets.length) 0 }
          | _ => pure ()
          pure none

end BlockCopy

/-- A bound on the number of blocks. -/
def mostBlocks : Nat := 0x10000

/-- Copies blocks. -/
def runDd (arguments : List String) : Action Nat := do
  let arguments := if arguments.head? = some "--" then arguments.tail else arguments
  match arguments.foldlM BlockCopy.add? { } with
  | none => refuse 1 "unrecognized operand"
  | some copy => do
      let before := (← process).descriptors
      let fault ← match ← copy.openInput 3 with
        | some fault => pure (some fault)
        | none => copy.openOutput 4
      let status ← match fault with
        | some fault => refuse 1 fault.reason
        | none => copy.copyBlocks 3 4 (min (copy.count.getD mostBlocks) mostBlocks)
      modifyProcess fun process => { process with descriptors := before }
      pure status

end StaticMulticast.Host.Utility
