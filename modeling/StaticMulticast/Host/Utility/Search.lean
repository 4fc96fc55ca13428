import StaticMulticast.Host.Shell.Field
import StaticMulticast.Host.Utility.Input
import StaticMulticast.Text.Regular
import StaticMulticast.Text.Regular.Rich

/-!
# Searching lines

`grep` writes the lines of files in which an expression stands for something. Its status tells
whether there are any: zero if there are, one if there are none, and two if something could not be
read.
-/

namespace StaticMulticast.Host.Utility

open Action
open StaticMulticast.Text (Regular)

/-! ## What is searched for -/

/-- The kinds of expressions. -/
inductive SearchKind where
  | basic
  | extended
  | fixed
  | rich
deriving DecidableEq, Repr

/-- The expressions of a text, one in each line. -/
def expressions? (kind : SearchKind) (text : String) : Option (List Regular) :=
  (text.splitOn "\n").mapM fun line =>
    match kind with
    | .fixed => some (Regular.ofLetters line.toList)
    | .basic => Regular.ofText? .basic line
    | .extended => Regular.ofText? { Regular.Manner.extended with isLenient := true } line
    | .rich => (Regular.Rich.ofText? line "").map fun rich => rich.expression

/-- What lines are searched for: expressions, how letters are compared, and whether whole words or
whole lines are meant. -/
structure Wanted where
  expressions : List Regular
  kind : SearchKind := .basic
  ignoresCase : Bool := false
  isWord : Bool := false
  isLine : Bool := false
  isNegated : Bool := false

/-- The places are those of a word in a text. -/
def isWordAt (text : List Char) (start stop : Nat) : Bool :=
  let isEdge (character : Option Char) : Bool := !character.any Regular.isWord
  isEdge ((text.take start).getLast?) && isEdge ((text.drop stop).head?)

/-- How a line is searched. -/
def Wanted.setting (wanted : Wanted) (line : List Char) : Regular.Setting :=
  let base := if wanted.kind = .rich then Regular.Rich.setting line else { text := line }
  { base with
    ignoresCase := wanted.ignoresCase
    accepts := fun start stop =>
      (!wanted.isLine || (start = 0 && stop = line.length)) &&
        (!wanted.isWord || isWordAt line start stop) }

/-- The better of two matches: the one that begins first or, of two that begin together, that is
longer. -/
def betterMatch (first : Option Regular.Match) (second : Regular.Match) : Option Regular.Match :=
  match first with
  | none => some second
  | some first =>
      if second.start < first.start || (second.start = first.start && first.stop < second.stop)
      then some second else some first

/-- The first place from a position on where one of the expressions stands for something. -/
def Wanted.search (wanted : Wanted) (line : List Char) (position : Nat) : Option Regular.Match :=
  (wanted.expressions.filterMap fun expression =>
    Regular.search expression (wanted.setting line) position).foldl betterMatch none

/-- The line is one of those that are wanted. -/
def Wanted.holds (wanted : Wanted) (line : String) : Bool :=
  (wanted.search line.toList 0).isSome != wanted.isNegated

/-- All parts of a line that are found, one after the other, with their places. The bound is on
their number. -/
def Wanted.parts (wanted : Wanted) (line : List Char) : Nat → Nat → List (Nat × String)
  | 0, _ => []
  | bound + 1, position =>
      match wanted.search line position with
      | none => []
      | some found =>
          let part := String.ofList ((line.drop found.start).take (found.stop - found.start))
          let rest := wanted.parts line bound (max found.stop (found.start + 1))
          if part.isEmpty then rest else (found.start, part) :: rest

/-! ## What is written -/

/-- The marks of options that have no letters. -/
def searchMark (number : Nat) : Char := Char.ofNat number

/-- The options of `grep`. -/
def grepOptions : List Known :=
  [⟨'E', "extended-regexp", .nothing⟩, ⟨'F', "fixed-strings", .nothing⟩,
    ⟨'G', "basic-regexp", .nothing⟩, ⟨'P', "perl-regexp", .nothing⟩, ⟨'e', "regexp", .text⟩,
    ⟨'f', "file", .text⟩, ⟨'i', "ignore-case", .nothing⟩, ⟨'y', "", .nothing⟩,
    ⟨searchMark 1, "no-ignore-case", .nothing⟩, ⟨'v', "invert-match", .nothing⟩,
    ⟨'w', "word-regexp", .nothing⟩, ⟨'x', "line-regexp", .nothing⟩, ⟨'c', "count", .nothing⟩,
    ⟨searchMark 2, "color", .attached⟩, ⟨searchMark 2, "colour", .attached⟩,
    ⟨'L', "files-without-match", .nothing⟩, ⟨'l', "files-with-matches", .nothing⟩,
    ⟨'m', "max-count", .text⟩, ⟨'o', "only-matching", .nothing⟩, ⟨'q', "quiet", .nothing⟩,
    ⟨'q', "silent", .nothing⟩, ⟨'s', "no-messages", .nothing⟩, ⟨'b', "byte-offset", .nothing⟩,
    ⟨'H', "with-filename", .nothing⟩, ⟨'h', "no-filename", .nothing⟩,
    ⟨searchMark 3, "label", .text⟩, ⟨'n', "line-number", .nothing⟩,
    ⟨'T', "initial-tab", .nothing⟩, ⟨'Z', "null", .nothing⟩, ⟨'A', "after-context", .text⟩,
    ⟨'B', "before-context", .text⟩, ⟨'C', "context", .text⟩,
    ⟨searchMark 4, "group-separator", .text⟩, ⟨searchMark 5, "no-group-separator", .nothing⟩,
    ⟨'a', "text", .nothing⟩, ⟨searchMark 6, "binary-files", .text⟩, ⟨'D', "devices", .text⟩,
    ⟨'d', "directories", .text⟩, ⟨searchMark 7, "exclude", .text⟩,
    ⟨searchMark 8, "exclude-from", .text⟩, ⟨searchMark 11, "exclude-dir", .text⟩, ⟨'I', "", .nothing⟩,
    ⟨searchMark 12, "include", .text⟩, ⟨'r', "recursive", .nothing⟩,
    ⟨'R', "dereference-recursive", .nothing⟩, ⟨'u', "unix-byte-offsets", .nothing⟩,
    ⟨'U', "binary", .nothing⟩, ⟨'z', "null-data", .nothing⟩,
    ⟨searchMark 14, "line-buffered", .nothing⟩, ⟨'V', "version", .nothing⟩]

/-- What is told about a file: its lines, each with its place, the numbers of those that are wanted,
and whether it is not a text. -/
structure Search where
  path : String
  lines : Array (Nat × String)
  hits : Array Nat
  isBinary : Bool := false

/-- The line of a number is one of those that are wanted. -/
def Search.isHit (search : Search) (index : Nat) : Bool :=
  search.hits.contains index

/-- The numbers of the lines around those that are wanted. -/
def Search.shown (search : Search) (before after : Nat) : List Nat :=
  if before + after = 0 then search.hits.toList
  else (search.hits.foldl (fun (shown : List Nat) hit =>
    let next := (shown.head?.map (· + 1)).getD 0
    let start := max next (hit - before)
    let stop := min search.lines.size (hit + after + 1)
    (List.range (stop - start)).foldl (fun shown offset => (start + offset) :: shown) shown)
      []).reverse

/-- The text in front of what is written of a line. A line that is not wanted itself is marked. -/
def Search.front (search : Search) (given : Given) (named : Bool) (index place : Nat) : String :=
  let mark := if search.isHit index then ":" else "-"
  let path := if given.has 'Z' then search.path ++ String.singleton (Char.ofNat 0)
    else search.path ++ mark
  let front := (if named then path else "") ++
    (if given.has 'n' then toString (index + 1) ++ mark else "") ++
    if given.has 'b' then toString place ++ mark else ""
  if given.has 'T' && !front.isEmpty then
    let length := front.length
    front ++ if length % 8 = 0 then "" else "\t"
  else front

/-- The lines of a file that are written, with a mark between those that do not stand together. -/
def Search.rows (search : Search) (given : Given) (named : Bool) (wanted : Wanted)
    (hasContext : Bool) : Option Nat → List Nat → List String
  | _, [] => []
  | last, index :: rest =>
      let (place, line) := (search.lines[index]?).getD (0, "")
      let isApart := hasContext && last.any fun last => last + 1 < index
      let own := if !given.has 'o' then [search.front given named index place ++ line]
        else if given.has 'v' || !search.isHit index then []
        else (wanted.parts line.toList (line.length + 1) 0).map fun (start, part) =>
          search.front given named index (place + start) ++ part
      let separator := if given.has (searchMark 5) then []
        else [(given.text? (searchMark 4)).getD "--"]
      (if isApart then separator else []) ++ own ++
        search.rows given named wanted hasContext (some index) rest

/-- The number of lines around those that are wanted. -/
def contextSizes (given : Given) : Nat × Nat :=
  let both := (given.text? 'C').bind String.toNat?
  let own (letter : Char) : Nat :=
    (((given.text? letter).bind String.toNat?).orElse fun _ => both).getD 0
  (own 'B', own 'A')

/-- What is written about a file. -/
def Search.text (search : Search) (given : Given) (named : Bool) (wanted : Wanted) : String :=
  let ending := if given.has 'Z' then String.singleton (Char.ofNat 0) else "\n"
  let lineEnd := if given.has 'z' then Char.ofNat 0 else '\n'
  if given.has 'q' then ""
  else if given.has 'l' || given.has 'L' then
    let lists := (given.options.reverse.find? fun option => option.1 = 'l' || option.1 = 'L').any
      fun option => option.1 = 'l'
    if search.hits.isEmpty != lists then search.path ++ ending else ""
  else if given.has 'c' then
    (if named then search.path ++ (if given.has 'Z' then ending else ":") else "") ++
      toString search.hits.size ++ "\n"
  else if search.isBinary then ""
  else
    let (before, after) := contextSizes given
    let shown := search.shown before after
    joinCut lineEnd true (search.rows given named wanted (before + after != 0) none shown)

/-! ## The program -/

/-- The paths of the files in and below a directory, apart from those in directories that are left
out. The bound is on the depth. -/
def filesBelow (isLeftOut : String → Bool) (follows : Bool) : Nat → Bool → String →
    Action (List String)
  | 0, _, _ => pure []
  | bound + 1, isFirst, path => do
      match ← find? (follows || isFirst) path with
      | some found =>
          if found.isDirectory then
            if !isFirst && isLeftOut (lastName path) then pure []
            else do
              let names := ((← files).names found.location).map Text.Octets.encode
              let paths ← (Shell.sortTexts names).mapM fun name =>
                filesBelow isLeftOut follows bound false (joinPath path name)
              pure paths.flatten
          else pure (if isFirst || found.isPlain then [path] else [])
      | none => pure (if isFirst then [path] else [])

/-- The text of all expressions that the options and the operands give, and the other operands. -/
def searchTexts (given : Given) : Action (Except (Option String) (List String × List String)) := do
  let fromFiles ← (given.texts 'f').mapM fun path => do pure (path, ← readOperand path)
  let fault := fromFiles.findSome? fun (path, result) =>
    match result with
    | .error fault => some (path ++ ": " ++ fault.reason)
    | .ok _ => none
  match fault with
  | some message => pure (.error (some message))
  | none =>
      let lines := fromFiles.flatMap fun (_, result) =>
        match result with
        | .ok text => (linesOf text).1
        | .error _ => []
      pure (if given.has 'e' || given.has 'f' then .ok (given.texts 'e' ++ lines, given.operands)
        else match given.operands with
        | text :: paths => .ok ([text], paths)
        | [] => .error none)

/-- The kind of the expressions that the options ask for. -/
def searchKind (usual : SearchKind) (given : Given) : SearchKind :=
  given.options.foldl (fun kind (letter, _) =>
    match letter with
    | 'F' => .fixed
    | 'E' => .extended
    | 'G' => .basic
    | 'P' => .rich
    | _ => kind) usual

/-- A pattern of a name of a file describes a path. -/
def globHolds (text path : String) : Bool :=
  let pattern := Text.Pattern.ofText text
  Text.Pattern.holds pattern (lastName path).toList || Text.Pattern.holds pattern path.toList

/-- The file is one of those that are to be searched. -/
def isIncluded (given : Given) (path : String) : Bool :=
  let includes := given.texts (searchMark 12)
  (includes.isEmpty || includes.any fun text => globHolds text path) &&
    !(given.texts (searchMark 7)).any fun text => globHolds text path

/-- Lines with their places in a text. -/
def placedLines (start : Nat) : List String → List (Nat × String)
  | [] => []
  | line :: rest => (start, line) :: placedLines (start + line.length + 1) rest

/-- The first numbers of the lines that are wanted, up to a number of them. -/
def Wanted.hits (wanted : Wanted) (most : Option Nat) (lines : List (Nat × String)) : Array Nat :=
  (lines.zipIdx.foldl (fun (hits : Array Nat) ((_, line), index) =>
    if most.all (hits.size < ·) && wanted.holds line then hits.push index else hits) #[])

/-- The file is the one that the output goes to. -/
def isSearchOutput (path : String) : Action Bool := do
  let node? (file : Option (Nat × OpenFile)) : Option Nat :=
    match file with
    | some (_, { stream := .opened (.file node), .. }) => some node
    | _ => none
  let output := node? (← openFile? 1)
  let source ← if path = "-" then do pure (node? (← openFile? 0)) else do
    pure ((← find? true path).bind fun found =>
      match found.entry with
      | .file node => some node
      | _ => none)
  pure (output.isSome && output = source)

/-- Searches a file. There is no result if it cannot be read. -/
def searchFile (given : Given) (wanted : Wanted) (path : String) : Action (Option Search) := do
  let isQuiet := ['q', 'l', 'L'].any given.has
  let most := (given.text? 'm').bind String.toInt?
  let most := (most.filter (0 ≤ ·)).map Int.toNat
  if !isQuiet && most.all (1 < ·) && (← isSearchOutput path) then do
    if !given.has 's' then complain (shownPath path ++ ": input file is also the output")
    pure none
  else match ← readOperand path with
  | .error fault => do
      if !given.has 's' then complain (path ++ ": " ++ fault.reason)
      pure none
  | .ok text => do
      let mark := if given.has 'z' then Char.ofNat 0 else '\n'
      let lines := if text.isEmpty then [] else placedLines 0 (cutLines mark text).1
      let kind := (given.text? (searchMark 6)).getD "binary"
      let skipsBinary := given.has 'I' || kind = "without-match"
      let isBinary := !given.has 'a' && kind != "text" && !given.has 'z' &&
        text.toList.contains (Char.ofNat 0)
      let hits := if isBinary && skipsBinary then #[] else wanted.hits most lines
      let ends := most.any fun most => hits.size = most
      if path = "-" && (ends || (given.has 'q' && !hits.isEmpty)) then
        let last := match hits.back? with
          | some last => (lines[last]?).map fun (row : Nat × String) => row.1 + row.2.length + 1
          | none => some 0
        let left := text.length - last.getD text.length
        if given.has 'q' then giveBackBlocks 0x18000 left else giveBack 0x18000 left
      let shown := if path = "-" then (given.text? (searchMark 3)).getD "(standard input)" else path
      pure (some ⟨shown, lines.toArray, hits, isBinary⟩)

/-- Searches files, and writes what is wanted of them. -/
def searchFiles (given : Given) (wanted : Wanted) (paths : List String) : Action Nat := do
  let isDeep := given.has 'r' || given.has 'R' || given.text? 'd' = some "recurse"
  let namesAll := given.options.reverse.find? fun option => option.1 = 'h' || option.1 = 'H'
  let paths := if paths.isEmpty && !isDeep then ["-"] else paths
  let named := match namesAll with
    | some (letter, _) => letter = 'H'
    | none => isDeep || 1 < paths.length
  let isLeftOut (name : String) : Bool := (given.texts (searchMark 11)).any fun text =>
    globHolds text name
  let below (path : String) : Action (List String) :=
    if path = "-" then pure ["-"] else filesBelow isLeftOut (given.has 'R') 64 true path
  let paths ← if !isDeep then pure paths
    else if paths.isEmpty then do
      pure ((← below ".").map fun path => String.ofList (path.toList.drop 2))
    else List.flatten <$> paths.mapM below
  let skips (path : String) : Action Bool := do
    pure (given.text? 'd' = some "skip" && (← find? true path).any Found.isDirectory)
  let paths ← (paths.filter (isIncluded given)).filterM fun path => do pure !(← skips path)
  let (failed, found) ← searchEach given named paths
  pure (if found && (given.has 'q' || !failed) then 0 else if failed then 2
    else if found then 0 else 1)
where
  /-- Searches files one after the other, and tells whether one could not be read, and whether
  something was found. -/
  searchEach (given : Given) (named : Bool) : List String → Action (Bool × Bool)
    | [] => pure (false, false)
    | path :: rest => do
        let result ← searchFile given wanted path
        let (failed, found) ← match result with
          | none => pure (true, false)
          | some search => do
              let written ← answer (search.text given named wanted)
              let tells := !(['q', 'l', 'L', 'c'].any given.has)
              if search.isBinary && tells && !search.hits.isEmpty then
                complain (search.path ++ ": binary file matches")
              pure (written != 0, !search.hits.isEmpty)
        if found && given.has 'q' then pure (failed, true)
        else do
          let (otherFailed, otherFound) ← searchEach given named rest
          pure (failed || otherFailed, found || otherFound)

/-- The arguments, where a number behind a minus sign is that of the lines around those that are
wanted. -/
def withContextNumbers (arguments : List String) : List String :=
  let (own, rest) := arguments.span (· != "--")
  own.flatMap (fun argument =>
    match argument.toList with
    | '-' :: digit :: more =>
        let (digits, letters) := (digit :: more).span Char.isDigit
        if digits.isEmpty then [argument]
        else ("-C" ++ String.ofList digits) ::
          if letters.isEmpty then [] else [String.ofList ('-' :: letters)]
    | _ => [argument]) ++ rest

/-- Tells how the program is called. -/
def refuseSearch (message : Option String) : Action Nat := do
  message.forM complain
  let name := (← process).name
  let _ ← write 2 ("Usage: " ++ name ++ " [OPTION]... PATTERNS [FILE]...\nTry '" ++ name ++
    " --help' for more information.\n")
  pure 2

/-- Writes the lines of files in which an expression stands for something. -/
def runGrep (usual : SearchKind) (arguments : List String) : Action Nat := do
  let arguments := withContextNumbers arguments
  match readOptions grepOptions arguments with
  | none => refuseSearch (some (optionFault grepOptions arguments))
  | some given =>
      match ← searchTexts given with
      | .error none => refuseSearch none
      | .error (some message) => refuse 2 message
      | .ok (texts, paths) =>
          let kind := searchKind usual given
          let isBadNumber (letter : Char) : Bool :=
            (given.text? letter).any fun text => text.toInt?.isNone
          let badContext := ['A', 'B', 'C'].find? fun letter =>
            (given.text? letter).any fun text => text.toNat?.isNone
          match badContext, texts.mapM (expressions? kind) with
          | some letter, _ => refuse 2 ((given.text? letter).getD "" ++
              ": invalid context length argument")
          | none, none => refuse 2 (if (texts.any fun text => text.toList.contains '[') then
              "Unmatched [, [^, [:, [., or [=" else "Invalid regular expression")
          | none, some expressions =>
              if isBadNumber 'm' then refuse 2 "invalid max count"
              else if kind = .rich && 1 < expressions.flatten.length then
                refuse 2 "the -P option only supports a single pattern"
              else do
                let caseOption := given.options.reverse.find? fun option =>
                  ['i', 'y', searchMark 1].contains option.1
                let wanted : Wanted :=
                  { expressions := expressions.flatten
                    kind
                    ignoresCase := caseOption.any fun option => option.1 != searchMark 1
                    isWord := given.has 'w'
                    isLine := given.has 'x'
                    isNegated := given.has 'v' }
                if given.text? 'm' = some "0" then pure 1
                else searchFiles given wanted paths

end StaticMulticast.Host.Utility
