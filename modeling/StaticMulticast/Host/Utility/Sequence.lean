import StaticMulticast.Host.Process.Task
import StaticMulticast.Host.Utility.Format
import StaticMulticast.Host.Utility.Input

/-!
# Programs about numbers

`seq` counts in equal steps, `factor` takes numbers apart, and `numfmt` writes numbers with letters
for units in the place of many digits, or the other way around. `yes` writes the same line without
an end.
-/

namespace StaticMulticast.Host.Utility

open Action

/-! ## The same line -/

/-- Writes a text again and again, until a signal ends the process or so many times. -/
def writeAgain (text : String) : Nat → Action (Option Fault)
  | 0 => pure none
  | bound + 1 => do
      match ← write 1 text with
      | some fault => pure (some fault)
      | none => writeAgain text bound

/-- The output is a pipe that takes only so many octets. -/
def writesToLimited : Action Bool := do
  match ← openFile? 1 with
  | some (_, { stream := .pipe number, .. }) =>
      pure (((← world).pipes[number]?).any fun pipe => pipe.room.isSome)
  | _ => pure false

/-- Writes the same line without an end. -/
def runYes (again : Runner) (arguments : List String) : Action Nat := do
  let arguments := if arguments.head? = some "--" then arguments.tail else arguments
  let line := (if arguments.isEmpty then "y" else String.intercalate " " arguments) ++ "\n"
  let block := String.join (List.replicate (0x4000 / line.length + 1) line)
  match ← writeAgain block (if ← writesToLimited then 0x400 else 0x10) with
  | some fault => refuse 1 ("standard output: " ++ fault.reason)
  | none => do
      waitForever again
      pure 1

/-! ## Counting -/

/-- A number as an argument of `seq`: its value, the number of letters that it takes, and the number
of digits behind the point. -/
structure Count where
  value : Rat
  width : Nat
  precision : Nat

/-- Reads a number of `seq`. -/
def Count.ofText? (text : String) : Option Count := do
  let letters := text.toList.dropWhile fun letter => letter = ' ' || letter = '+'
  let (value, rest) ← Text.Fraction.read? letters
  if !rest.isEmpty then none
  else
    let (front, exponentText) := letters.span fun letter => letter != 'e' && letter != 'E'
    let (whole, fraction) := front.span (· != '.')
    let digits := fraction.length - 1
    let hasPoint := !fraction.isEmpty
    let isBare := !((whole.getLast?).any Char.isDigit)
    let width := if !hasPoint then front.length
      else if digits = 0 then front.length - 1
      else if isBare then front.length + 1 else front.length
    if exponentText.isEmpty then some ⟨value, width, digits⟩
    else
      let exponent := ((String.ofList ((exponentText.drop 1).filter (· != '+'))).toInt?).getD 0
      if exponent < 0 then
        let size := exponent.natAbs
        some ⟨value, width + (if hasPoint then if digits = 0 then 1 else 0 else 1) + size,
          digits + size⟩
      else
        let size := exponent.toNat
        let precision := digits - min digits size
        let width := if hasPoint && precision = 0 && digits != 0 then width - 1 else width
        some ⟨value, width + (size - min digits size), precision⟩

/-- The numbers from a first one in equal steps as far as a last one. The bound is on their number.
-/
def countUp (first step last : Rat) : Nat → Nat → List Rat
  | 0, _ => []
  | bound + 1, index =>
      let value := first + (index : Nat) * step
      if if step < 0 then value < last else last < value then []
      else value :: countUp first step last bound (index + 1)

/-- A number with digits behind the point, at a width with zeros in front. -/
def countText (precision width : Nat) (value : Rat) : String :=
  let sign := if value < 0 then "-" else ""
  let digits := Text.Fraction.fixed precision (if value < 0 then -value else value)
  sign ++ String.ofList (List.replicate (width - sign.length - digits.length) '0') ++ digits

/-- A format of `seq`: what stands before and after its only directive, and that itself. -/
structure CountForm where
  before : String
  after : String
  flags : List Char
  width : Nat
  precision : Option Nat
  conversion : Char

/-- A number in a format. -/
def CountForm.text (form : CountForm) (value : Rat) : String :=
  form.before ++ padTo form.flags form.width true
    (fractionText form.flags form.precision form.conversion value) ++ form.after

/-- Text up to a directive, and what follows its mark. -/
def plainFormat : List Char → List Char × Option (List Char)
  | [] => ([], none)
  | '%' :: '%' :: rest =>
      let (plain, after) := plainFormat rest
      ('%' :: plain, after)
  | '%' :: rest => ([], some rest)
  | letter :: rest =>
      let (plain, after) := plainFormat rest
      (letter :: plain, after)

/-- Reads a format of `seq`. -/
def countForm (text : String) : Except String CountForm :=
  let quoted := "format " ++ inQuotes text
  match plainFormat text.toList with
  | (_, none) => throw (quoted ++ " has no % directive")
  | (before, some rest) =>
      let (flags, rest) := rest.span ['-', '+', '#', '0', ' ', '\''].contains
      let (width, rest) := rest.span Char.isDigit
      let (precision, rest) := match rest with
        | '.' :: rest =>
            let (digits, rest) := rest.span Char.isDigit
            (some ((Text.Decimal.digits? digits).getD 0), rest)
        | _ => (none, rest)
      match rest.dropWhile (· == 'L') with
      | [] => throw (quoted ++ " ends in %")
      | conversion :: rest =>
          if !(['a', 'e', 'f', 'g', 'A', 'E', 'F', 'G'].contains conversion) then
            throw (quoted ++ " has unknown %" ++ String.singleton conversion ++ " directive")
          else match plainFormat rest with
            | (_, some _) => throw (quoted ++ " has too many % directives")
            | (after, none) => pure
                { before := String.ofList before
                  after := String.ofList after
                  flags
                  width := (Text.Decimal.digits? width).getD 0
                  precision
                  conversion }

/-- The options of `seq` in front of its arguments. A minus sign in front of a digit or a point
begins a number. -/
def sequenceOptions : Nat → Given → List String → Option Given
  | 0, given, arguments => some { given with operands := arguments }
  | _ + 1, given, [] => some given
  | bound + 1, given, argument :: rest =>
      let known : List Known := [⟨'f', "format", .text⟩, ⟨'s', "separator", .text⟩,
        ⟨'w', "equal-width", .nothing⟩]
      match argument.toList with
      | ['-', '-'] => some { given with operands := rest }
      | '-' :: '-' :: word => do
          let (option, rest) ← readName known word rest
          sequenceOptions bound { given with options := given.options ++ [option] } rest
      | '-' :: letter :: letters =>
          if letter.isDigit || letter = '.' then some { given with operands := argument :: rest }
          else do
            let (options, rest) ← readLetters known (letter :: letters) rest
            sequenceOptions bound { given with options := given.options ++ options } rest
      | _ => some { given with operands := argument :: rest }

/-- A bound on the numbers that are written. -/
def mostCounts : Nat := 300000

/-- Writes numbers in equal steps. -/
def runSeq (arguments : List String) : Action Nat := do
  match sequenceOptions (arguments.length + 1) { } arguments with
  | none => refuseUse 1 "invalid option"
  | some given =>
      let isEndless := given.operands.getLast?.any fun text => ["inf", "infinity"].contains text
      let finite := if isEndless then given.operands.dropLast else given.operands
      let bad := finite.find? fun text => (Count.ofText? text).isNone
      let one : Count := ⟨1, 1, 0⟩
      match given.operands, bad, finite.filterMap Count.ofText? with
      | [], _, _ => refuseUse 1 "missing operand"
      | _ :: _ :: _ :: extra :: _, _, _ => refuseUse 1 ("extra operand " ++ inQuotes extra)
      | _, some text, _ => refuseUse 1 ("invalid floating point argument: " ++ inQuotes text)
      | operands, none, numbers => do
          let numbers := if isEndless then numbers ++ [⟨0x1000000000000, 1, 0⟩] else numbers
          let (first, step, last) := match numbers with
            | [last] => (one, one, last)
            | [first, last] => (first, one, last)
            | first :: step :: last :: _ => (first, step, last)
            | [] => (one, one, one)
          if step.value = 0 then
            refuseUse 1 ("invalid Zero increment value: " ++
              inQuotes ((operands[1]?).getD ""))
          else if given.has 'f' && given.has 'w' then
            refuseUse 1 "format string may not be specified when printing equal width strings"
          else match (given.text? 'f').mapM countForm with
          | .error message => refuse 1 message
          | .ok form => do
              let precision := max first.precision step.precision
              let pointed (count : Count) : Nat :=
                count.width + (precision - count.precision) +
                  (if count.precision = 0 && precision != 0 then 1 else 0)
              let lastWidth := last.width + precision - last.precision +
                (if last.precision = 0 && precision != 0 then 1 else 0) -
                (if last.precision != 0 && precision = 0 then 1 else 0)
              let width := if given.has 'w' then max (pointed first) lastWidth else 0
              let text (value : Rat) : String :=
                match form with
                | some form => form.text value
                | none => countText precision width value
              let bound := if isEndless then 40000 else mostCounts
              let values := countUp first.value step.value last.value bound 0
              let separator := (given.text? 's').getD "\n"
              if values.isEmpty then pure 0
              else answer (String.intercalate separator (values.map text) ++ "\n")

/-! ## Factors -/

/-- The prime factors of a number, from a possible one on. The bound is on the steps. -/
def factorsFrom : Nat → Nat → Nat → List Nat
  | 0, _, number => [number]
  | bound + 1, factor, number =>
      if number < 2 then []
      else if number < factor * factor then [number]
      else if number % factor = 0 then factor :: factorsFrom bound factor (number / factor)
      else factorsFrom bound (if factor = 2 then 3 else factor + 2) number

/-- Writes the prime factors of numbers. -/
def runFactor (arguments : List String) : Action Nat := do
  withOptions 1 [⟨'h', "exponents", .nothing⟩] arguments fun given => do
    let words ← if !given.operands.isEmpty then pure given.operands else do
      let (texts, _) ← readEach 1 ["-"]
      pure (((List.splitOnP Char.isWhitespace (together texts).toList).filter fun piece =>
        !piece.isEmpty).map String.ofList)
    forEach words fun word => do
      match Text.Decimal.digits? (word.toList.dropWhile (· == '+')) with
      | none => refuse 1 (inQuotes word ++ " is not a valid positive integer")
      | some number => do
          let factors := factorsFrom 100000 2 number
          let shown := if given.has 'h' then
              factors.eraseDups.map fun factor =>
                let count := factors.countP (· == factor)
                if count = 1 then toString factor else toString factor ++ "^" ++ toString count
            else factors.map toString
          answer (String.intercalate " " ((toString number ++ ":") :: shown) ++ "\n")

/-! ## Numbers with units -/

/-- How units are read or written: not at all, by thousands, by powers of 1024 with one letter, with
two, or as the number of letters tells. -/
inductive UnitStyle where
  | none
  | thousands
  | binary
  | binaryMarked
  | any
deriving DecidableEq, Repr

/-- The style that is named. -/
def UnitStyle.ofName? : String → Option UnitStyle
  | "none" => some .none
  | "si" => some .thousands
  | "iec" => some .binary
  | "iec-i" => some .binaryMarked
  | "auto" => some .any
  | _ => Option.none

/-- The letters for units, the least first. -/
def unitLetters : List Char := "KMGTPEZYRQ".toList

/-- A power of a whole number. -/
def ratPower (base exponent : Nat) : Rat := (Nat.pow base exponent : Nat)

/-- A whole number near another one, as it is wanted: up, down, away from zero, toward zero, or the
nearest. -/
def roundedBy (kind : String) (value : Rat) : Rat :=
  let up := value.ceil
  let down := value.floor
  match kind with
  | "up" => up
  | "down" => down
  | "towards-zero" => if value < 0 then up else down
  | "nearest" =>
      if value < 0 then -(((-value) + 1 / 2).floor : Rat) else ((value + 1 / 2).floor : Rat)
  | _ => if value < 0 then down else up

/-- The value of a number with a unit behind it. -/
def unitValue (style : UnitStyle) (text : String) : Except String Rat :=
  let quoted := inQuotes text
  let letters := text.toList
  let isNegative := letters.head? = some '-'
  let unsigned := if isNegative then letters.tail else letters
  match Text.Fraction.readUnsigned? (unsigned.takeWhile fun letter =>
      letter.isDigit || letter = '.') with
  | Option.none => throw ("invalid number: " ++ quoted)
  | some (value, _) =>
      let value := if isNegative then -value else value
      let unit := unsigned.dropWhile fun letter => letter.isDigit || letter = '.'
      match unit with
      | [] => pure value
      | letter :: rest =>
          let letter := if letter = 'k' then 'K' else letter
          match unitLetters.findIdx? (· == letter) with
          | Option.none => throw ("invalid suffix in input: " ++ quoted)
          | some index =>
              match style, rest with
              | .none, _ => throw ("rejecting suffix in input: " ++ quoted ++
                  " (consider using --from)")
              | .thousands, [] | .any, [] => pure (value * ratPower 1000 (index + 1))
              | .binary, [] | .binaryMarked, ['i'] | .any, ['i'] =>
                  pure (value * ratPower 1024 (index + 1))
              | .binaryMarked, [] => throw ("missing 'i' suffix in input: " ++ quoted ++
                  " (e.g Ki/Mi/Gi)")
              | _, _ => throw ("invalid suffix in input " ++ quoted ++ ": " ++
                  inQuotes (String.ofList rest))

/-- A value below a base, and how often it had to be divided for that. The bound is on how often. -/
def scaled (base : Rat) : Nat → Rat → Nat × Rat
  | 0, value => (0, value)
  | bound + 1, value =>
      let size := if value < 0 then -value else value
      if size < base then (0, value)
      else
        let (power, value) := scaled base bound (value / base)
        (power + 1, value)

/-- The text of a value in a style. -/
def unitText (style : UnitStyle) (kind : String) (precision : Option Nat) (value : Rat) : String :=
  let fixed (precision : Nat) (value : Rat) : String :=
    (if value < 0 then "-" else "") ++
      Text.Fraction.fixed precision (if value < 0 then -value else value)
  let size (value : Rat) : Rat := if value < 0 then -value else value
  match style with
  | .none | .any =>
      let precision := precision.getD 0
      fixed precision (roundedBy kind (value * ratPower 10 precision) / ratPower 10 precision)
  | _ =>
      let base : Rat := if style = .thousands then 1000 else 1024
      let (power, value) := scaled base 10 value
      let places := match precision with
        | some precision => min (3 * power) precision
        | Option.none => if size value < 10 then 1 else 0
      let value := roundedBy kind (value * ratPower 10 places) / ratPower 10 places
      let (power, value) := if base ≤ size value then (power + 1, value / base) else (power, value)
      let shown := precision.getD (if value != 0 && size value < 10 && 0 < power then 1 else 0)
      let letter := if power = 0 then "" else String.singleton (unitLetters.getD (power - 1) 'Q')
      fixed shown value ++ letter ++
        (if style = .binaryMarked && 0 < power then "i" else "")

/-- The marks of the options of `numfmt` that have no letters. -/
def unitMark (number : Nat) : Char := Char.ofNat number

/-- The options of `numfmt`. -/
def unitOptions : List Known :=
  [⟨unitMark 1, "from", .text⟩, ⟨unitMark 2, "to", .text⟩, ⟨unitMark 3, "from-unit", .text⟩,
    ⟨unitMark 4, "to-unit", .text⟩, ⟨unitMark 5, "round", .text⟩, ⟨unitMark 6, "padding", .text⟩,
    ⟨unitMark 7, "suffix", .text⟩, ⟨unitMark 8, "field", .text⟩, ⟨'d', "delimiter", .text⟩,
    ⟨unitMark 9, "header", .attached⟩, ⟨unitMark 11, "invalid", .text⟩,
    ⟨unitMark 12, "format", .text⟩, ⟨unitMark 13, "grouping", .nothing⟩,
    ⟨'z', "zero-terminated", .nothing⟩, ⟨unitMark 14, "debug", .nothing⟩]

/-- Converts a number as the options ask for. -/
def convertUnit (given : Given) (word : String) : Except String String := do
  let style (number : Nat) : UnitStyle :=
    (((given.text? (unitMark number)).bind UnitStyle.ofName?)).getD .none
  let unit (number : Nat) : Rat :=
    (((given.text? (unitMark number)).bind fun text =>
      (unitValue .any text).toOption)).getD 1
  let suffix := (given.text? (unitMark 7)).getD ""
  let hasSuffix := !suffix.isEmpty && suffix.toList.isSuffixOf word.toList
  let own := if hasSuffix then String.ofList (word.toList.take (word.length - suffix.length))
    else word
  let value ← unitValue (style 1) own
  let form := (given.text? (unitMark 12)).bind fun text => (countForm text).toOption
  let places := (own.toList.dropWhile (· != '.')).drop 1
  let precision := match form.bind CountForm.precision with
    | some precision => some precision
    | Option.none => if style 2 = .none then some (places.takeWhile Char.isDigit).length
        else Option.none
  let kind := (given.text? (unitMark 5)).getD "from-zero"
  let text := unitText (style 2) kind precision (value * unit 3 / unit 4) ++ suffix
  let width := match form with
    | some form => if form.flags.contains '-' then -(Int.ofNat form.width) else form.width
    | Option.none => ((given.text? (unitMark 6)).bind String.toInt?).getD 0
  let missing := String.ofList (List.replicate (width.natAbs - text.length) ' ')
  let padded := if width < 0 then text ++ missing else missing ++ text
  pure (((form.map CountForm.before).getD "") ++ padded ++ ((form.map CountForm.after).getD ""))

/-- The number belongs to a list of numbers and ranges. -/
def isListed (text : String) (number : Nat) : Bool :=
  (List.splitOnP (· == ',') text.toList).any fun span =>
    match span.span (· != '-') with
    | (only, []) => Text.Decimal.digits? only = some number
    | (first, _ :: last) =>
        (Text.Decimal.digits? first).getD 1 ≤ number &&
          (Text.Decimal.digits? last).all (number ≤ ·)

/-- Converts the numbers in the fields of a line that are wanted. -/
def convertLine (given : Given) (line : String) : Except String String :=
  let wanted := (given.text? (unitMark 8)).getD "1"
  let isWanted (index : Nat) : Bool := wanted = "-" || isListed wanted index
  match given.text? 'd' with
  | some mark => do
      let mark := mark.toList.headD ' '
      let fields := (List.splitOnP (· == mark) line.toList).map String.ofList
      let cells ← fields.zipIdx.mapM fun (field, index) =>
        if isWanted (index + 1) then convertUnit given field else pure field
      pure (String.intercalate (String.singleton mark) cells)
  | Option.none => go isWanted (line.length + 1) 1 line.toList
where
  /-- Converts words with the blanks before them. -/
  go (isWanted : Nat → Bool) : Nat → Nat → List Char → Except String String
    | 0, _, text => pure (String.ofList text)
    | bound + 1, index, text => do
        let (blanks, rest) := text.span isBlank
        let (word, rest) := rest.span fun letter => !isBlank letter
        if word.isEmpty then pure (String.ofList blanks)
        else
          let isNumber := isWanted index
          let shown ← if isNumber then convertUnit given (String.ofList word)
            else pure (String.ofList word)
          let hasWidth := (given.text? (unitMark 6)).isSome
          let gap := if !isNumber || hasWidth then blanks
            else if index = 1 && blanks.isEmpty then []
            else
              let width := blanks.length + word.length
              let width := if index = 1 then width else max (width - 1) 0
              List.replicate (max (width - shown.length) 0 + if index = 1 then 0 else 1) ' '
          pure (String.ofList gap ++ shown ++ (← go isWanted bound (index + 1) rest))

/-- Converts numbers with units. -/
def runNumfmt (arguments : List String) : Action Nat := do
  let isNumber (argument : String) : Bool :=
    match argument.toList with
    | '-' :: digit :: _ => digit.isDigit
    | _ => false
  let numbers := arguments.filter isNumber
  withOptions 1 unitOptions (arguments.filter fun argument => !isNumber argument) fun given => do
    let words := given.operands ++ numbers
    let lines ← if !words.isEmpty then pure words else do
      let (texts, _) ← readEach 1 ["-"]
      pure (linesOf (together texts)).1
    let heads := match given.text? (unitMark 9) with
      | some text => (text.toNat?).getD 1
      | Option.none => 0
    let heads := if words.isEmpty then heads else 0
    let _ ← answer (joinLines (lines.take heads))
    convertAll given (lines.drop heads)
where
  /-- Converts lines up to one that is wrong. -/
  convertAll (given : Given) : List String → Action Nat
    | [] => pure 0
    | line :: rest => do
        match convertLine given line with
        | .ok text => do
            let _ ← answer (text ++ "\n")
            convertAll given rest
        | .error message => do
            let manner := (given.text? (unitMark 11)).getD "abort"
            if manner != "ignore" then complain message
            if manner = "abort" then pure 2
            else do
              let _ ← answer (line ++ "\n")
              let status ← convertAll given rest
              pure (if manner = "fail" then 2 else status)

end StaticMulticast.Host.Utility
