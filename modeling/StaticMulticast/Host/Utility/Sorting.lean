import StaticMulticast.Host.Utility.Input
import StaticMulticast.Text.Fraction
import StaticMulticast.Text.Version

/-!
# Sorting lines

`sort` puts lines in an order. Keys are parts of lines, each of which is compared in its own way, as
a text, a number, a month or a version. Lines with the same keys are compared as a whole, unless
that is not wanted.
-/

namespace StaticMulticast.Host.Utility

open Action

/-! ## Keys -/

/-- The end of a key: all of a field and those before it, or so many letters of the next one. -/
structure KeyEnd where
  fields : Nat
  letters : Nat
deriving DecidableEq, Repr

/-- A part of lines by which they are compared: the fields before it, the letters of the next one
that are passed over, its end, whether blanks are passed over at either side, and the letters of the
options that say how it is compared. -/
structure SortKey where
  fields : Nat := 0
  letters : Nat := 0
  ending : Option KeyEnd := none
  skipsFront : Bool := false
  skipsBack : Bool := false
  options : List Char := []
deriving DecidableEq, Repr

/-- What follows fields of a line that are separated by a mark, each with the mark behind it. -/
def afterMarked (mark : Char) : Nat → List Char → List Char
  | 0, line => line
  | count + 1, line => afterMarked mark count ((line.dropWhile (· != mark)).tail)

/-- A blank between fields. -/
def isGap (letter : Char) : Bool :=
  isBlank letter || letter = '\n'

/-- What follows fields of a line, each with the blanks before it. -/
def afterFields : Nat → List Char → List Char
  | 0, line => line
  | count + 1, line =>
      afterFields count ((line.dropWhile isGap).dropWhile fun letter => !isGap letter)

namespace SortKey

/-- The key has an option. -/
def has (key : SortKey) (letter : Char) : Bool :=
  key.options.contains letter

/-- What follows the beginning of the key in a line. -/
def start (mark : Option Char) (key : SortKey) (line : List Char) : List Char :=
  let after := match mark with
    | some mark => afterMarked mark key.fields line
    | none => afterFields key.fields line
  (if key.skipsFront then after.dropWhile isGap else after).drop key.letters

/-- What follows the end of the key in a line. -/
def stop (mark : Option Char) (key : SortKey) (line : List Char) : List Char :=
  match key.ending with
  | none => []
  | some ⟨fields, 0⟩ =>
      match mark with
      | some mark => (afterMarked mark fields line).dropWhile (· != mark)
      | none => afterFields (fields + 1) line
  | some ⟨fields, letters⟩ =>
      let after := match mark with
        | some mark => afterMarked mark fields line
        | none => afterFields fields line
      (if key.skipsBack then after.dropWhile isGap else after).drop letters

/-- The part of a line that the key is. -/
def part (mark : Option Char) (key : SortKey) (line : List Char) : List Char :=
  let start := key.start mark line
  start.take (start.length - (key.stop mark line).length)

end SortKey

/-! ## How keys are compared -/

/-- The number at the front of a text, behind blanks, written with digits and a point. -/
def plainNumber (text : List Char) : Rat :=
  let text := text.dropWhile isGap
  let (isNegative, text) := match text with
    | '-' :: rest => (true, rest)
    | _ => (false, text)
  let (digits, rest) := text.span Char.isDigit
  let fraction := match rest with
    | '.' :: rest => rest.takeWhile Char.isDigit
    | _ => []
  let value := ((Text.Decimal.digits? (digits ++ fraction)).getD 0 : Nat) *
    Text.Fraction.powerOfTen (-(Int.ofNat fraction.length))
  if isNegative then -value else value

/-- The rank and the value of a number at the front of a text that is written in any way. What is no
number ranks below those that are none by name, and these below all others. -/
def anyNumber (text : List Char) : Nat × Rat :=
  let text := text.dropWhile fun letter => isGap letter || letter = '\r'
  let (isNegative, unsigned) := match text with
    | '-' :: rest => (true, rest)
    | '+' :: rest => (false, rest)
    | _ => (false, text)
  match Text.Fraction.read? text with
  | some (value, _) => (3, value)
  | none =>
      match (unsigned.take 3).map Char.toLower with
      | ['n', 'a', 'n'] => (1, 0)
      | ['i', 'n', 'f'] => (if isNegative then 2 else 4, 0)
      | _ => (0, 0)

/-- The rank of the letter for a unit behind a number. -/
def unitRank (letter : Char) : Nat :=
  if letter = 'k' then 1
  else (("KMGTPEZYRQ".toList.findIdx? (· == letter)).map (· + 1)).getD 0

/-- Compares numbers with letters for units behind them: their signs, then the units, then the
numbers. -/
def compareUnits (first second : List Char) : Ordering :=
  let rank (text : List Char) : Int :=
    let text := text.dropWhile isGap
    let digits := match text with
      | '-' :: rest => rest
      | _ => text
    let behind := digits.dropWhile Char.isDigit
    let behind := match behind with
      | '.' :: rest => rest.dropWhile Char.isDigit
      | _ => behind
    if plainNumber text = 0 then 0
    else
      let rank := Int.ofNat (((behind.head?).map unitRank).getD 0) + 1
      if text.head? = some '-' then -rank else rank
  (compare (rank first) (rank second)).then (compare (plainNumber first) (plainNumber second))
where
  /-- Compares numbers. -/
  compare {Number : Type} [LT Number] [DecidableLT Number] (first second : Number) : Ordering :=
    if first < second then .lt else if second < first then .gt else .eq

/-- The number of the month whose name stands at the front of a text, or zero. -/
def monthRank (text : List Char) : Nat :=
  let name := ((text.dropWhile isGap).take 3).map Char.toUpper
  (["JAN", "FEB", "MAR", "APR", "MAY", "JUN", "JUL", "AUG", "SEP", "OCT", "NOV", "DEC"].findIdx?
    fun month => month.toList = name).map (· + 1) |>.getD 0

/-- Compares texts letter by letter. -/
def compareLetters (first second : List Char) : Ordering :=
  if first < second then .lt else if second < first then .gt else .eq

/-- Compares numbers. -/
def compareNumbers (first second : Rat) : Ordering :=
  if first < second then .lt else if second < first then .gt else .eq

/-- Compares parts of lines in the way of a key, which may turn the order around. -/
def SortKey.compare (key : SortKey) (first second : List Char) : Ordering :=
  let keeps (letter : Char) : Bool :=
    (!key.has 'd' || isBlank letter || letter.isAlphanum) &&
      (!key.has 'i' || (0x20 ≤ letter.toNat && letter.toNat ≤ 0x7E))
  let letters (text : List Char) : List Char :=
    let kept := text.filter keeps
    if key.has 'f' then kept.map Char.toUpper else kept
  let order :=
    if key.has 'n' then compareNumbers (plainNumber first) (plainNumber second)
    else if key.has 'g' then
      let (firstRank, first) := anyNumber first
      let (secondRank, second) := anyNumber second
      (Ord.compare firstRank secondRank).then (compareNumbers first second)
    else if key.has 'h' then compareUnits first second
    else if key.has 'M' then Ord.compare (monthRank first) (monthRank second)
    else if key.has 'V' then
      Text.Version.order (String.ofList (letters first)) (String.ofList (letters second))
    else compareLetters (letters first) (letters second)
  if key.has 'r' then order.swap else order

/-! ## Orders of lines -/

/-- An order of lines: the mark between fields, the keys, whether lines with the same keys count as
the same, are left in their order or are compared as a whole, and whether that is turned around. -/
structure LineOrder where
  mark : Option Char := none
  keys : List SortKey := []
  isUnique : Bool := false
  isStable : Bool := false
  isReversed : Bool := false

namespace LineOrder

/-- Compares two lines by keys. -/
def compareKeys (mark : Option Char) (first second : List Char) : List SortKey → Ordering
  | [] => .eq
  | key :: rest =>
      match key.compare (key.part mark first) (key.part mark second) with
      | .eq => compareKeys mark first second rest
      | order => order

/-- Compares two lines. -/
def compare (order : LineOrder) (first second : String) : Ordering :=
  let byKeys := compareKeys order.mark first.toList second.toList order.keys
  if byKeys != .eq || (!order.keys.isEmpty && (order.isUnique || order.isStable)) then byKeys
  else
    let byLetters := compareLetters first.toList second.toList
    if order.isReversed then byLetters.swap else byLetters

/-- The first of all lines that follow one another and count as the same. -/
def unique (order : LineOrder) : List String → List String
  | first :: second :: rest =>
      match order.unique (second :: rest) with
      | others =>
          if order.compare first second = .eq then first :: others.tail else first :: others
  | lines => lines

/-- Lines in order. -/
def sort (order : LineOrder) (lines : List String) : List String :=
  let sorted := lines.mergeSort fun first second => order.compare first second != .gt
  if order.isUnique then order.unique sorted else sorted

/-- Lines of two texts, always the lesser one of those that are next. -/
def merge (order : LineOrder) (first second : List String) : List String :=
  first.merge second fun first second => order.compare first second != .gt

/-- The first line that does not stand behind the one before it, with its number. -/
def disorder? (order : LineOrder) : Nat → List String → Option (Nat × String)
  | number, first :: second :: rest =>
      let found := order.compare first second
      if found = .gt || (order.isUnique && found = .eq) then some (number + 1, second)
      else order.disorder? (number + 1) (second :: rest)
  | _, _ => none

end LineOrder

/-! ## Reading keys -/

/-- The options of keys. -/
def keyLetters : List Char := ['b', 'd', 'f', 'g', 'h', 'i', 'M', 'n', 'R', 'r', 'V']

/-- A place in a line as a key gives it, the letters behind it, and what follows: the number of a
field and perhaps of a letter. -/
def keyPlace? (text : List Char) : Option (Nat × Option Nat × List Char × List Char) := do
  let (field, rest) := text.span Char.isDigit
  let field ← Text.Decimal.digits? field
  let (letter, rest) ← match rest with
    | '.' :: rest =>
        let (letter, rest) := rest.span Char.isDigit
        (Text.Decimal.digits? letter).map fun letter => (some letter, rest)
    | _ => some (none, rest)
  let (options, rest) := rest.span keyLetters.contains
  some (field, letter, options, rest)

/-- Reads a key. -/
def keyOf (text : String) : Except String SortKey := do
  let invalid (reason : String) : String :=
    reason ++ ": invalid field specification " ++ inQuotes text
  let startText : Option (Nat × Option Nat × List Char × List Char) := keyPlace? text.toList
  match startText with
  | none =>
      if (text.toList.takeWhile Char.isDigit).isEmpty then
        throw ("invalid number at field start: invalid count at start of " ++ inQuotes text)
      else throw ("invalid number after '.': invalid count at start of " ++
        inQuotes (String.ofList ((text.toList.dropWhile (· != '.')).drop 1)))
  | some (0, _, _, _) => throw (invalid "field number is zero")
  | some (_, some 0, _, _) => throw (invalid "character offset is zero")
  | some (field, letter, options, rest) => do
      let key : SortKey :=
        { fields := field - 1
          letters := (letter.map (· - 1)).getD 0
          skipsFront := options.contains 'b'
          options := options.filter (· != 'b') }
      match rest with
      | [] => pure key
      | ',' :: ending =>
          match keyPlace? ending with
          | none => throw ("invalid number after ',': invalid count at start of " ++
              inQuotes (String.ofList ending))
          | some (0, _, _, _) => throw (invalid "field number is zero")
          | some (field, letter, more, []) =>
              let letters := letter.getD 0
              pure { key with
                ending := some ⟨field - 1, letters⟩
                skipsBack := more.contains 'b'
                options := key.options ++ more.filter (· != 'b') }
          | some _ => throw (invalid "stray character in field spec")
      | _ => throw (invalid "stray character in field spec")

/-- A key has the options for all keys if it has none of its own. -/
def SortKey.withUsual (usual : List Char) (key : SortKey) : SortKey :=
  if key.options.isEmpty && !key.skipsFront && !key.skipsBack then
    { key with
      options := usual.filter (· != 'b')
      skipsFront := usual.contains 'b'
      skipsBack := usual.contains 'b' }
  else key

/-- Options of which a key can only have one, if it has more. -/
def SortKey.clash? (key : SortKey) : Option String :=
  let kinds := ['g', 'h', 'M', 'n'].filter key.has
  let isOther := ['R', 'V', 'd', 'i'].any key.has
  if 1 < kinds.length + (if isOther then 1 else 0) then
    let shown := ['d', 'f', 'g', 'h', 'i', 'M', 'n', 'R', 'V'].filter key.has
    some ("options '-" ++ String.ofList shown ++ "' are incompatible")
  else none

/-! ## The program -/

/-- The mark of an option for a name alone that changes nothing here. -/
def sortMark : Char := Char.ofNat 1

/-- The mark of the option to sort in a way that is named. -/
def sortKindMark : Char := Char.ofNat 2

/-- The options of `sort`. -/
def sortOptions : List Known :=
  [⟨'b', "ignore-leading-blanks", .nothing⟩, ⟨'d', "dictionary-order", .nothing⟩,
    ⟨'f', "ignore-case", .nothing⟩, ⟨'g', "general-numeric-sort", .nothing⟩,
    ⟨'i', "ignore-nonprinting", .nothing⟩, ⟨'M', "month-sort", .nothing⟩,
    ⟨'h', "human-numeric-sort", .nothing⟩, ⟨'n', "numeric-sort", .nothing⟩,
    ⟨'R', "random-sort", .nothing⟩, ⟨'r', "reverse", .nothing⟩, ⟨sortKindMark, "sort", .text⟩,
    ⟨'V', "version-sort", .nothing⟩, ⟨'c', "", .nothing⟩, ⟨'C', "", .nothing⟩,
    ⟨sortMark, "check", .attached⟩, ⟨'k', "key", .text⟩, ⟨'m', "merge", .nothing⟩,
    ⟨'o', "output", .text⟩, ⟨'s', "stable", .nothing⟩, ⟨'S', "buffer-size", .text⟩,
    ⟨'t', "field-separator", .text⟩, ⟨'T', "temporary-directory", .text⟩,
    ⟨Char.ofNat 3, "parallel", .text⟩, ⟨'u', "unique", .nothing⟩,
    ⟨'z', "zero-terminated", .nothing⟩, ⟨Char.ofNat 4, "files0-from", .text⟩,
    ⟨Char.ofNat 5, "random-source", .text⟩, ⟨Char.ofNat 6, "batch-size", .text⟩,
    ⟨Char.ofNat 7, "debug", .nothing⟩]

/-- The mark between fields that an option asks for. -/
def sortMarkOf (text : String) : Except String Char :=
  match text.toList with
  | [] => throw "empty tab"
  | [mark] => pure mark
  | ['\\', '0'] => pure (Char.ofNat 0)
  | _ => throw ("multi-character tab " ++ inQuotes text)

/-- The letter for a way to sort that is named. -/
def sortKind? (name : String) : Option Char :=
  [("general-numeric", 'g'), ("human-numeric", 'h'), ("month", 'M'), ("numeric", 'n'),
    ("random", 'R'), ("version", 'V')].lookup name

/-- The order that options ask for. -/
def sortOrder (given : Given) : Except String LineOrder := do
  let mark ← (given.text? 't').mapM sortMarkOf
  let kinds := (given.texts sortKindMark).filterMap sortKind?
  let usual := keyLetters.filter fun letter => given.has letter || kinds.contains letter
  let own ← (given.texts 'k').mapM keyOf
  let keys := if own.isEmpty && usual.any (· != 'r') then [({ } : SortKey)] else own
  let keys := keys.map (SortKey.withUsual usual)
  match keys.findSome? SortKey.clash? with
  | some message => throw message
  | none =>
      pure
        { mark
          keys
          isUnique := given.has 'u'
          isStable := given.has 's'
          isReversed := given.has 'r' }

/-- The arguments, where numbers behind a plus sign, and perhaps behind a minus sign, are keys. -/
def withKeys : List String → List String
  | [] => []
  | [argument] =>
      match plusKey? argument with
      | some start => ["-k", start]
      | none => [argument]
  | argument :: next :: rest =>
      match plusKey? argument, minusKey? next with
      | some start, some ending => "-k" :: (start ++ "," ++ ending) :: withKeys rest
      | some start, none => "-k" :: start :: withKeys (next :: rest)
      | none, _ =>
          if argument = "--" then argument :: next :: rest
          else if ["-k", "-t", "-o"].contains argument then argument :: next :: withKeys rest
          else argument :: withKeys (next :: rest)
where
  /-- A place of which the fields and letters are counted from zero on. -/
  place? (isEnd : Bool) (text : List Char) : Option String := do
    let (field, rest) := text.span Char.isDigit
    let field ← Text.Decimal.digits? field
    let (letter, rest) := match rest with
      | '.' :: rest => rest.span Char.isDigit
      | _ => ([], rest)
    let letter := (Text.Decimal.digits? letter).getD 0
    if rest.all keyLetters.contains then
      let options := String.ofList rest
      if isEnd then
        if letter = 0 then some (toString field ++ options)
        else some (toString (field + 1) ++ "." ++ toString letter ++ options)
      else some (toString (field + 1) ++ "." ++ toString (letter + 1) ++ options)
    else none
  /-- The beginning of a key behind a plus sign. -/
  plusKey? (argument : String) : Option String :=
    match argument.toList with
    | '+' :: text => place? false text
    | _ => none
  /-- The end of a key behind a minus sign. -/
  minusKey? (argument : String) : Option String :=
    match argument.toList with
    | '-' :: digit :: text => if digit.isDigit then place? true (digit :: text) else none
    | _ => none

/-- Reports a file that cannot be sorted. -/
def reportUnsorted (path : String) (fault : Fault) : Action Unit :=
  complain ((if fault = .directory then "read failed: " else "cannot read: ") ++
    shownPath path ++ ": " ++ fault.reason)

/-- Checks whether lines are sorted. -/
def checkSorted (given : Given) (order : LineOrder) (lines : List String) : Action Nat := do
  let isQuiet := given.has 'C' ||
    (given.texts sortMark).any fun kind => ["quiet", "silent"].contains kind
  match order.disorder? 1 lines with
  | none => pure 0
  | some (number, line) => do
      if !isQuiet then
        complain (given.operands.headD "-" ++ ":" ++ toString number ++ ": disorder: " ++ line)
      pure 1

/-- Sorts lines, puts those of sorted files together, or checks whether lines are sorted. -/
def runSort (arguments : List String) : Action Nat :=
  withOptions 2 sortOptions (withKeys arguments) fun given => do
    let ending := if given.has 'z' then Char.ofNat 0 else '\n'
    let checks := given.has 'c' || given.has 'C' || given.has sortMark
    match sortOrder given with
    | .error message => refuse 2 message
    | .ok order =>
        if checks && 1 < given.operands.length then
          refuse 2 ("extra operand " ++ inQuotes ((given.operands[1]?).getD "") ++
            " not allowed with -c")
        else do
          let paths := if given.operands.isEmpty then ["-"] else given.operands
          let absent ← paths.filterM fun path => do
            pure (path != "-" && (← find? true path).isNone)
          match absent with
          | path :: _ => do
              reportUnsorted path .missing
              pure 2
          | [] => do
              let (texts, status) ← readEachWith reportUnsorted 2 paths
              let parts := texts.map fun text => (cutLines ending text.2).1
              if status != 0 then pure status
              else if checks then checkSorted given order parts.flatten
              else do
                let lines := if given.has 'm' then parts.foldl order.merge []
                  else parts.flatten
                let lines := if !given.has 'm' then order.sort lines
                  else if order.isUnique then order.unique lines else lines
                let fault ← match given.text? 'o' with
                  | none => pure none
                  | some path => do
                      let fault ← redirectOutput path
                      match fault with
                      | some fault => complain ("open failed: " ++ shownPath path ++ ": " ++
                          fault.reason)
                      | none => pure ()
                      pure fault
                if fault.isSome then pure 2
                else do
                  let written ← answer (joinCut ending true lines)
                  pure (if written = 0 then 0 else 2)

end StaticMulticast.Host.Utility
