import StaticMulticast.Host.Utility.Input
import StaticMulticast.Text.Member
import StaticMulticast.Text.Decimal

/-!
# Columns and characters

Programs that take lines apart and put them together: `cut` writes fields or characters of each
line, `paste` writes lines side by side, and `tr` writes other characters in the place of some.
-/

namespace StaticMulticast.Host.Utility

open Action
open StaticMulticast.Text (PatternLetter)

/-! ## Parts of lines -/

/-- Numbers from a first one on, up to a last one if there is one. -/
structure Span where
  first : Nat
  last : Option Nat
deriving DecidableEq, Repr

/-- A number belongs to the span. -/
def Span.has (span : Span) (number : Nat) : Bool :=
  span.first ≤ number && span.last.all (number ≤ ·)

/-- What `cut` takes of lines. -/
inductive CutKind where
  | letters
  | fields
deriving DecidableEq, Repr

/-- How a number of the kind is named in messages that it is wrong. -/
def CutKind.wrongNumber : CutKind → String
  | .letters => "invalid byte/character position "
  | .fields => "invalid field value "

/-- Reads one span of a list. -/
def spanOf (kind : CutKind) (text : List Char) : Except String Span := do
  let number (digits : List Char) : Except String Nat :=
    match Text.Decimal.digits? digits with
    | some 0 =>
        throw (if kind = .fields then "fields are numbered from 1"
          else "byte/character positions are numbered from 1")
    | some number => pure number
    | none => throw (kind.wrongNumber ++ inQuotes (String.ofList digits))
  match text.span (· != '-') with
  | ([], []) =>
      throw (if kind = .fields then "fields are numbered from 1"
        else "byte/character positions are numbered from 1")
  | (digits, []) => do
      let only ← number digits
      pure ⟨only, some only⟩
  | ([], ['-']) => throw "invalid range with no endpoint: -"
  | (first, ['-']) => do pure ⟨← number first, none⟩
  | ([], _ :: last) => do pure ⟨1, some (← number last)⟩
  | (first, _ :: last) => do
      let first ← number first
      let last ← number last
      if last < first then throw "invalid decreasing range" else pure ⟨first, some last⟩

/-- Reads the spans of a list. -/
def spansOf (kind : CutKind) (text : String) : Except String (List Span) :=
  (List.splitOnP (fun letter => letter = ',' || isBlank letter) text.toList).mapM (spanOf kind)

/-- What `cut` has been asked for: which parts of lines, the mark between fields, and what is
written between parts. -/
structure Cutting where
  kind : CutKind
  spans : List Span
  isOther : Bool := false
  mark : Char := '\t'
  between : Option String := none
  /-- Lines without a mark are left out. -/
  onlyMarked : Bool := false

namespace Cutting

/-- A part with this number is taken. -/
def takes (cutting : Cutting) (number : Nat) : Bool :=
  cutting.spans.any (Span.has · number) != cutting.isOther

/-- A run of letters begins at this place that is to be told apart from the one before it. -/
def begins (cutting : Cutting) (number : Nat) : Bool :=
  !cutting.takes (number - 1) ||
    (!cutting.isOther && (cutting.spans.any fun span => span.first = number) &&
      cutting.spans.all fun span => !(span.has (number - 1) && span.has number))

/-- What is taken of a line, if something is written of it. -/
def line? (cutting : Cutting) (line : String) : Option String :=
  match cutting.kind with
  | .letters =>
      let taken := line.toList.zipIdx.filter fun (_, index) => cutting.takes (index + 1)
      match cutting.between with
      | none => some (String.ofList (taken.map (·.1)))
      | some between =>
          let texts := taken.zipIdx.map fun ((letter, index), place) =>
            (if place != 0 && cutting.begins (index + 1) then between else "") ++
              String.singleton letter
          some (String.join texts)
  | .fields =>
      let fields := (List.splitOnP (· == cutting.mark) line.toList).map String.ofList
      if fields.length ≤ 1 then if cutting.onlyMarked then none else some line
      else
        let taken := (fields.zipIdx.filter fun (_, index) => cutting.takes (index + 1)).map (·.1)
        some (String.intercalate (cutting.between.getD (String.singleton cutting.mark)) taken)

end Cutting

/-- The mark of the option to take all other parts. -/
def complementMark : Char := Char.ofNat 1

/-- The mark of the option for what is written between parts. -/
def betweenMark : Char := Char.ofNat 2

/-- The options of `cut`. -/
def cutOptions : List Known :=
  [⟨'b', "bytes", .text⟩, ⟨'c', "characters", .text⟩, ⟨'d', "delimiter", .text⟩,
    ⟨'f', "fields", .text⟩, ⟨'n', "", .nothing⟩, ⟨'s', "only-delimited", .nothing⟩,
    ⟨complementMark, "complement", .nothing⟩, ⟨betweenMark, "output-delimiter", .text⟩,
    ⟨'z', "zero-terminated", .nothing⟩]

/-- What the options of `cut` ask for. -/
def cuttingOf (given : Given) : Except String Cutting := do
  let lists := given.options.filter fun option => ['b', 'c', 'f'].contains option.1
  match lists with
  | [] => throw "you must specify a list of bytes, characters, or fields"
  | _ :: _ :: _ => throw "only one list may be specified"
  | [(letter, text)] => do
      let kind := if letter = 'f' then CutKind.fields else .letters
      if (given.text? 'd').any fun text => 1 < text.length then
        throw "the delimiter must be a single character"
      else if kind = .letters && given.has 'd' then
        throw "an input delimiter may be specified only when operating on fields"
      else if kind = .letters && given.has 's' then
        throw "suppressing non-delimited lines makes sense\n\tonly when operating on fields"
      else do
        let spans ← spansOf kind text
        pure
          { kind
            spans
            isOther := given.has complementMark
            mark := ((given.text? 'd').map fun text => text.toList.headD (Char.ofNat 0)).getD '\t'
            between := (given.text? betweenMark).map fun text =>
              if text.isEmpty then String.singleton (Char.ofNat 0) else text
            onlyMarked := given.has 's' }

/-- Writes fields or characters of lines. -/
def runCut (arguments : List String) : Action Nat :=
  withOptions 1 cutOptions arguments fun given => do
    let ending := if given.has 'z' then Char.ofNat 0 else '\n'
    match cuttingOf given with
    | .error message => refuseUse 1 message
    | .ok cutting => do
        let (texts, status) ← readOperands 1 given.operands
        let written (text : String) : String :=
          if cutting.kind = .fields && cutting.mark = ending then
            joinCut ending true (cutting.line? (joinCut ending false (cutLines ending text).1)).toList
          else joinCut ending true ((cutLines ending text).1.filterMap cutting.line?)
        finish status (String.join (texts.map fun text => written text.2))

/-! ## Lines side by side -/

/-- The marks between lines that a text gives. A mark can be empty. -/
def pasteMarks? : List Char → Option (List String)
  | [] => some []
  | ['\\'] => none
  | '\\' :: letter :: rest => do
      let mark := match letter with
        | '0' => ""
        | 'b' => String.singleton (Char.ofNat 8)
        | 'f' => String.singleton (Char.ofNat 12)
        | 'n' => "\n"
        | 'r' => "\r"
        | 't' => "\t"
        | 'v' => String.singleton (Char.ofNat 11)
        | _ => String.singleton letter
      some (mark :: (← pasteMarks? rest))
  | letter :: rest => do some (String.singleton letter :: (← pasteMarks? rest))

/-- Texts with marks between them, which are used again and again. -/
def withPasteMarks (marks : List String) : Nat → List String → String
  | _, [] => ""
  | _, [text] => text
  | index, text :: rest =>
      text ++ (marks[index % marks.length]?).getD "" ++ withPasteMarks marks (index + 1) rest

/-- The lines of files side by side. The input, which can stand in several places, gives each of
them a line in turn. -/
def pasteRows (marks : List String) (files : List (Option (List String))) (input : List String) :
    List String :=
  let shares := files.countP Option.isNone
  let rows := files.foldl
    (fun (columns, place) file =>
      match file with
      | some lines => (lines :: columns, place)
      | none =>
          let own := (input.zipIdx.filter fun (_, index) => index % shares = place).map (·.1)
          (own :: columns, place + 1)) (([] : List (List String)), 0)
  let columns := rows.1.reverse
  let height := (columns.map List.length).foldl max 0
  (List.range height).map fun index =>
    withPasteMarks marks 0 (columns.map fun column => (column[index]?).getD "")

/-- Writes lines of files side by side, or the lines of each file in one. -/
def runPaste (arguments : List String) : Action Nat := do
  let known : List Known := [⟨'d', "delimiters", .text⟩, ⟨'s', "serial", .nothing⟩,
    ⟨'z', "zero-terminated", .nothing⟩]
  withOptions 1 known arguments fun given => do
    let ending := if given.has 'z' then Char.ofNat 0 else '\n'
    let markText := (given.text? 'd').getD "\t"
    match pasteMarks? markText.toList with
    | none =>
        refuse 1 ("delimiter list ends with an unescaped backslash: " ++ markText)
    | some marks => do
        let marks := if marks.isEmpty then [""] else marks
        let paths := if given.operands.isEmpty then ["-"] else given.operands
        if given.has 's' then do
          let (texts, status) ← readEach 1 paths
          let rows := texts.map fun text => withPasteMarks marks 0 (cutLines ending text.2).1
          finish status (joinCut ending true rows)
        else do
          let (texts, status) ← readEach 1 (paths.filter (· != "-"))
          if status != 0 then pure status
          else do
            let (inputs, status) ← readEach 1 (if paths.contains "-" then ["-"] else [])
            let lines (text : String) : List String := (cutLines ending text).1
            let files := paths.map fun path =>
              if path = "-" then none
              else (texts.lookup path).map lines
            finish status (joinCut ending true (pasteRows marks files (lines (together inputs))))

/-! ## Other characters -/

/-- A part of a set of characters: a run of them, a class that has a name, or one again and again,
as often as there is room if there is no number. -/
inductive SetPart where
  | letters (letters : List Char)
  | named (name : String)
  | filled (letter : Char) (count : Option Nat)
deriving DecidableEq, Repr

/-- The characters of a text, each with whether it is quoted by a backslash. -/
def setLetters : List Char → List PatternLetter
  | [] => []
  | '\\' :: rest =>
      let digits := (rest.take 3).takeWhile fun digit => '0' ≤ digit && digit ≤ '7'
      let value (digits : List Char) : Nat :=
        digits.foldl (fun value digit => 8 * value + (digit.toNat - '0'.toNat)) 0
      let digits := if 255 < value digits then digits.take 2 else digits
      match digits.length, rest with
      | 0, [] => [('\\', false)]
      | 0, letter :: rest =>
          let meant := match letter with
            | 'a' => Char.ofNat 7
            | 'b' => Char.ofNat 8
            | 'f' => Char.ofNat 12
            | 'n' => '\n'
            | 'r' => '\r'
            | 't' => '\t'
            | 'v' => Char.ofNat 11
            | _ => letter
          (meant, true) :: setLetters rest
      | 1, _ :: rest | 2, _ :: _ :: rest | _, _ :: _ :: _ :: rest =>
          (Char.ofNat (value digits), true) :: setLetters rest
      | _, _ => []
  | letter :: rest => (letter, false) :: setLetters rest

/-- The characters from one to another. -/
def lettersBetween (first last : Char) : List Char :=
  (List.range (last.toNat + 1 - first.toNat)).map fun offset => Char.ofNat (first.toNat + offset)

/-- A character as it stands in a message. -/
def shownLetter (letter : Char) : String :=
  if 0x20 ≤ letter.toNat && letter.toNat < 0x7F then String.singleton letter
  else
    let digits := Nat.toDigits 8 letter.toNat
    String.ofList ('\\' :: List.replicate (3 - digits.length) '0' ++ digits)

/-- Reads a construct in brackets, and what follows it. -/
def bracketPart? (letters : List PatternLetter) :
    Except String (Option (SetPart × List PatternLetter)) :=
  match letters with
  | (':', false) :: rest =>
      match Text.className? ':' rest [] with
      | some (name, rest) =>
          if name.isEmpty then throw "missing character class name '[::]'"
          else if Text.classNames.contains (String.ofList name) then
            pure (some (.named (String.ofList name), rest))
          else throw ("invalid character class " ++ inQuotes (String.ofList name))
      | none => pure none
  | ('=', false) :: rest =>
      match Text.className? '=' rest [] with
      | some ([letter], rest) => pure (some (.letters [letter], rest))
      | some ([], _) => throw "missing equivalence class character '[==]'"
      | some (name, _) =>
          throw (String.ofList name ++ ": equivalence class operand must be a single character")
      | none => pure none
  | (letter, _) :: ('*', false) :: rest =>
      let (digits, after) := rest.span fun sign => sign.1.isDigit && !sign.2
      match after with
      | (']', false) :: after =>
          let digits := digits.map (·.1)
          let count := if digits.head? = some '0' then
              digits.foldl (fun value digit => 8 * value + (digit.toNat - '0'.toNat)) 0
            else (Text.Decimal.digits? digits).getD 0
          pure (some (.filled letter (if count = 0 then none else some count), after))
      | _ => pure none
  | _ => pure none

/-- The parts of a set of characters. The bound is on their number. -/
def setParts : Nat → List PatternLetter → Except String (List SetPart)
  | 0, _ => pure []
  | _ + 1, [] => pure []
  | bound + 1, (letter, quoted) :: rest => do
      let construct ← if letter = '[' && !quoted then bracketPart? rest else pure none
      match construct with
      | some (part, rest) => do pure (part :: (← setParts bound rest))
      | none =>
          match rest with
          | ('-', false) :: (last, _) :: after =>
              if last < letter then
                throw ("range-endpoints of '" ++ shownLetter letter ++ "-" ++ shownLetter last ++
                  "' are in reverse collating sequence order")
              else do pure (.letters (lettersBetween letter last) :: (← setParts bound after))
          | _ => do pure (.letters [letter] :: (← setParts bound rest))

/-- All characters. -/
def allLetters : List Char := (List.range 256).map Char.ofNat

/-- The characters of a part, where what fills the room does so with a number of them. -/
def SetPart.expand (room : Nat) : SetPart → List Char
  | .letters run => run
  | .named name => allLetters.filter (Text.inClass name)
  | .filled letter count => List.replicate (count.getD room) letter

/-- What `tr` does with characters: which it drops, what it writes for others, and of which it only
writes the first of several. -/
structure Exchange where
  drops : List Char := []
  exchanged : List (Char × Char) := []
  squeezed : List Char := []

/-- The last character again and again, up to a number of them. -/
def stretched (count : Nat) (letters : List Char) : List Char :=
  match letters.getLast? with
  | some last => letters ++ List.replicate (count - letters.length) last
  | none => letters

/-- The class changes between small and great letters. -/
def isCase (part : SetPart) : Bool :=
  part = .named "upper" || part = .named "lower"

/-- What `tr` is asked for by its options and its sets. -/
def exchangeOf (given : Given) (first : String) (second : Option String) :
    Except String Exchange := do
  let partsIn (text : String) : Except String (List SetPart) :=
    setParts (text.length + 1) (setLetters text.toList)
  let isFill (part : SetPart) : Bool :=
    match part with
    | .filled _ none => true
    | _ => false
  let isRepeat (part : SetPart) : Bool :=
    match part with
    | .filled _ _ => true
    | _ => false
  let parts ← partsIn first
  if parts.any isRepeat then throw "the [c*] repeat construct may not appear in string1"
  else do
    let isOther := given.has 'c' || given.has 'C'
    let own := parts.flatMap (SetPart.expand 0)
    let letters := if isOther then allLetters.filter fun letter => !own.contains letter else own
    let translates := !given.has 'd' && second.isSome
    let others ← (second.map partsIn).getD (pure [])
    if 1 < others.countP isFill then
      throw "only one [c*] repeat construct may appear in string2"
    else
      let fixed := (others.map (SetPart.expand 0)).flatten.length
      let meant := others.flatMap (SetPart.expand (letters.length - fixed))
      if !translates then
        pure
          { drops := if given.has 'd' then letters else []
            squeezed := if !given.has 's' then [] else if given.has 'd' then meant else letters }
      else
        let isStrange (part : SetPart) : Bool :=
          match part with
          | .named name => name != "upper" && name != "lower"
          | _ => false
        let isMisaligned := others.zipIdx.any fun (part, index) => isCase part &&
          !((parts[index]?).any isCase)
        if others.any isStrange then
          throw ("when translating, the only character classes that may appear in\n" ++
            "string2 are 'upper' and 'lower'")
        else if isMisaligned then
          throw "misaligned [:upper:] and/or [:lower:] construct"
        else if meant.isEmpty && !given.has 't' then
          throw "when not truncating set1, string2 must be non-empty"
        else
          let isMany := isOther && (meant.eraseDups).length != 1 && parts.any fun part =>
            match part with
            | .named _ => true
            | _ => false
          if isMany then
            throw ("when translating with complemented character classes,\n" ++
              "string2 must map all characters in the domain to one")
          else
            let letters := if given.has 't' then letters.take meant.length else letters
            pure
              { exchanged := (letters.zip (stretched letters.length meant)).reverse
                squeezed := if given.has 's' then meant else [] }

/-- Letters with what stands for them. -/
def Exchange.apply (exchange : Exchange) (text : List Char) : List Char :=
  let kept := if exchange.drops.isEmpty then text
    else text.filter fun letter => !exchange.drops.contains letter
  let table := (exchange.exchanged.reverse.foldl
    (fun (table : Array Char) (pair : Char × Char) => table.setIfInBounds pair.1.toNat pair.2)
    allLetters.toArray)
  let changed := if exchange.exchanged.isEmpty then kept
    else kept.map fun letter => (table[letter.toNat]?).getD letter
  if exchange.squeezed.isEmpty then changed
  else (changed.foldl (fun done letter =>
    if done.head? = some letter && exchange.squeezed.contains letter then done
    else letter :: done) []).reverse

/-- Writes other characters in the place of some, or drops them. -/
def runTr (arguments : List String) : Action Nat := do
  let known : List Known := [⟨'c', "complement", .nothing⟩, ⟨'C', "", .nothing⟩,
    ⟨'d', "delete", .nothing⟩, ⟨'s', "squeeze-repeats", .nothing⟩,
    ⟨'t', "truncate-set1", .nothing⟩]
  let read := readLeading known arguments
  match read with
  | none => refuseUse 1 (optionFault known arguments)
  | some given =>
      let drops := given.has 'd'
      let squeezes := given.has 's'
      match given.operands with
      | [] => refuseUse 1 "missing operand"
      | [text] =>
          if drops = squeezes then do
            complain ("missing operand after " ++ inQuotes text)
            let _ ← write 2 (if drops
              then "Two strings must be given when both deleting and squeezing repeats.\n"
              else "Two strings must be given when translating.\n")
            let _ ← write 2 "Try 'tr --help' for more information.\n"
            pure 1
          else exchange given text none
      | [first, second] =>
          if drops && !squeezes then do
            complain ("extra operand " ++ inQuotes second)
            let _ ← write 2 "Only one string may be given when deleting without squeezing repeats.\n"
            let _ ← write 2 "Try 'tr --help' for more information.\n"
            pure 1
          else exchange given first (some second)
      | _ :: _ :: extra :: _ => refuseUse 1 ("extra operand " ++ inQuotes extra)
where
  /-- Exchanges the characters of the input. -/
  exchange (given : Given) (first : String) (second : Option String) : Action Nat := do
    match exchangeOf given first second with
    | .error message => refuse 1 message
    | .ok exchange => do
        let (texts, status) ← readEach 1 ["-"]
        finish status (String.ofList (exchange.apply (together texts).toList))

end StaticMulticast.Host.Utility
