import StaticMulticast.Host.Utility.Input
import StaticMulticast.Text.Calendar

/-!
# Dates

`date` writes a moment: the present one, that of a file, or one that is told in words. Such words
are dates, times of day, names of days, and spans of time that are added.
-/

namespace StaticMulticast.Host.Utility

open Action
open StaticMulticast.Text (Day)

namespace Date

open Text.Calendar

/-- A part of a date in words: a run of digits, letters, or another mark. -/
inductive Piece where
  | digits (text : String)
  | word (text : String)
  | mark (letter : Char)
deriving DecidableEq, Repr

/-- The parts of a date in words. Blanks only end parts. The bound is on their number. -/
def pieces : Nat → List Char → List Piece
  | 0, _ => []
  | bound + 1, text =>
      match text with
      | [] => []
      | letter :: rest =>
          if letter.isDigit then
            .digits (String.ofList (text.takeWhile Char.isDigit)) ::
              pieces bound (text.dropWhile Char.isDigit)
          else if letter.isAlpha then
            .word (String.ofList ((text.takeWhile Char.isAlpha).map Char.toLower)) ::
              pieces bound (text.dropWhile Char.isAlpha)
          else if letter.isWhitespace || letter = ',' then pieces bound rest
          else .mark letter :: pieces bound rest

/-- What has been told of a moment so far. -/
structure Told where
  day : Option Int := none
  second : Option Nat := none
  fraction : Nat := 0
  /-- The seconds by which the clock of the place is ahead. -/
  ahead : Int := 0
  months : Int := 0
  days : Int := 0
  seconds : Int := 0
  /-- The moment is given as a number of seconds. -/
  moment : Option Int := none
  /-- A day of the week, and how many of them there are up to the one that is meant. -/
  weekDay : Option (Int × Nat) := none

/-- The value of digits. -/
def value (digits : String) : Nat := (digits.toNat?).getD 0

/-- The place of the name that a word shortens, in a list of names. -/
def nameIndex? (names : List String) (word : String) : Option Nat :=
  names.findIdx? fun name =>
    let name := String.ofList (name.toList.map Char.toLower)
    let isUsual := [3, name.length].contains word.length ||
      ["sept", "tues", "wednes", "thur", "thurs"].contains word
    isUsual && word.toList.isPrefixOf name.toList

/-- A span of time, so many times. -/
def Told.add? (told : Told) (count : Int) (unit : String) : Option Told :=
  let unit := if unit.toList.getLast? = some 's' && 3 < unit.length then
    String.ofList unit.toList.dropLast else unit
  match unit with
  | "year" => some { told with months := told.months + 12 * count }
  | "month" => some { told with months := told.months + count }
  | "fortnight" => some { told with days := told.days + 14 * count }
  | "week" => some { told with days := told.days + 7 * count }
  | "day" => some { told with days := told.days + count }
  | "hour" => some { told with seconds := told.seconds + 3600 * count }
  | "minute" | "min" => some { told with seconds := told.seconds + 60 * count }
  | "second" | "sec" => some { told with seconds := told.seconds + count }
  | _ => none

/-- The day of three numbers, if there is one. -/
def day? (year : Int) (month day : Nat) : Option Int :=
  let day : Day := ⟨year, month, day⟩
  if day.isValid then some day.number else none

/-- A year that is told with two digits is near. -/
def yearOf (digits : String) : Int :=
  let year := value digits
  if digits.length ≤ 2 then (if year < 69 then 2000 + year else 1900 + year) else year

/-- The seconds up to a time of the day, if there is one. -/
def second? (hour minute second : Nat) : Option Nat :=
  if hour < 24 && minute < 60 && second ≤ 60 then some (3600 * hour + 60 * minute + second)
  else none

/-- The hour that a word for the half of the day makes of another one. -/
def hourIn? (hour : Nat) (word : String) : Option Nat :=
  if hour = 0 || 12 < hour then none
  else if word = "am" then some (hour % 12)
  else if word = "pm" then some (hour % 12 + 12)
  else none

/-- The billionths of digits behind a point. -/
def fractionOf (digits : String) : Nat :=
  value (String.ofList ((digits.toList ++ List.replicate 9 '0').take 9))

/-- Reads what follows a time of the day: a fraction of a second, the half of the day, and how far
the clock is ahead. -/
def readClockEnd (told : Told) (hour minute second : Nat) (rest : List Piece) :
    Option (Told × List Piece) := do
  let (told, rest) := match rest with
    | .mark '.' :: .digits digits :: rest => ({ told with fraction := fractionOf digits }, rest)
    | _ => (told, rest)
  match rest with
  | .word "am" :: rest => do
      some ({ told with second := ← second? (← hourIn? hour "am") minute second }, rest)
  | .word "pm" :: rest => do
      some ({ told with second := ← second? (← hourIn? hour "pm") minute second }, rest)
  | .mark sign :: .digits digits :: after => do
      let told := { told with second := ← second? hour minute second }
      if sign != '+' && sign != '-' then some (told, rest)
      else
        let (ahead, after) := match after with
          | .mark ':' :: .digits minutes :: after =>
              (3600 * value digits + 60 * value minutes, after)
          | _ =>
              if digits.length ≤ 2 then (3600 * value digits, after)
              else (3600 * (value digits / 100) + 60 * (value digits % 100), after)
        match after with
        | .word _ :: _ =>
            if digits.length ≤ 2 && after.head? != some (.word "t") then some (told, rest)
            else some ({ told with ahead := if sign = '-' then -Int.ofNat ahead else ahead }, after)
        | _ => some ({ told with ahead := if sign = '-' then -Int.ofNat ahead else ahead }, after)
  | _ => do some ({ told with second := ← second? hour minute second }, rest)

/-- The words that stand for a number in front of a span of time. -/
def ordinal? (word : String) : Option Int :=
  match word with
  | "next" => some 1
  | "last" => some (-1)
  | "this" => some 0
  | "a" | "an" | "one" | "first" => some 1
  | "third" => some 3
  | "fourth" => some 4
  | "fifth" => some 5
  | _ => none

/-- Reads a word and what belongs to it. -/
def readWord (told : Told) (today : Int) (word : String) (rest : List Piece) :
    Option (Told × List Piece) :=
  match word with
  | "now" | "today" => some (told, rest)
  | "tomorrow" => some ({ told with days := told.days + 1 }, rest)
  | "yesterday" => some ({ told with days := told.days - 1 }, rest)
  | "midnight" => some ({ told with second := some 0 }, rest)
  | "noon" => some ({ told with second := some 43200 }, rest)
  | "z" | "utc" | "gmt" | "t" | "at" | "and" => some (told, rest)
  | _ =>
      match ordinal? word, rest with
      | some count, .word unit :: rest =>
          let (count, rest) := match rest with
            | .word "ago" :: rest => (-count, rest)
            | rest => (count, rest)
          match told.add? count unit with
          | some told => some (told, rest)
          | none => do
              let index ← nameIndex? dayNames unit
              some ({ told with weekDay := some (count, index) }, rest)
      | _, _ =>
          match nameIndex? monthNames word, rest with
          | some month, .digits day :: .digits year :: rest => do
              if rest.head? = some (.mark ':') then
                let thisYear := (Day.ofNumber today).year
                some ({ told with day := ← day? thisYear (month + 1) (value day) },
                  .digits year :: rest)
              else
                some ({ told with day := ← day? (yearOf year) (month + 1) (value day) }, rest)
          | some month, .digits day :: rest => do
              let year := (Day.ofNumber today).year
              some ({ told with day := ← day? year (month + 1) (value day) }, rest)
          | _, _ =>
              match nameIndex? dayNames word with
              | some index => some ({ told with weekDay := some (0, index) }, rest)
              | none => (told.add? 1 word).map fun told => (told, rest)

/-- Reads digits and what belongs to them. -/
def readDigits (told : Told) (today : Int) (digits : String) (rest : List Piece) :
    Option (Told × List Piece) :=
  match rest with
  | .mark '-' :: .digits month :: .mark '-' :: .digits day :: rest => do
      some ({ told with day := ← day? (yearOf digits) (value month) (value day) }, rest)
  | .mark '/' :: .digits month :: .mark '/' :: .digits day :: rest => do
      if digits.length = 4 then
        some ({ told with day := ← day? (yearOf digits) (value month) (value day) }, rest)
      else some ({ told with day := ← day? (yearOf day) (value digits) (value month) }, rest)
  | .mark '/' :: .digits day :: rest => do
      let year := (Day.ofNumber today).year
      some ({ told with day := ← day? year (value digits) (value day) }, rest)
  | .mark ':' :: .digits minute :: .mark ':' :: .digits second :: rest =>
      readClockEnd told (value digits) (value minute) (value second) rest
  | .mark ':' :: .digits minute :: rest => readClockEnd told (value digits) (value minute) 0 rest
  | .mark '-' :: .word month :: .mark '-' :: .digits year :: rest => do
      let month ← nameIndex? monthNames month
      some ({ told with day := ← day? (yearOf year) (month + 1) (value digits) }, rest)
  | .word word :: rest =>
      if word = "am" || word = "pm" then do
        some ({ told with second := ← second? (← hourIn? (value digits) word) 0 0 }, rest)
      else match nameIndex? monthNames word, rest with
      | some month, .digits year :: rest => do
          if rest.head? = some (.mark ':') then
            let thisYear := (Day.ofNumber today).year
            some ({ told with day := ← day? thisYear (month + 1) (value digits) },
              .digits year :: rest)
          else some ({ told with day := ← day? (yearOf year) (month + 1) (value digits) }, rest)
      | some month, rest => do
          let year := (Day.ofNumber today).year
          some ({ told with day := ← day? year (month + 1) (value digits) }, rest)
      | none, _ => do
          let (count, rest) := match rest with
            | .word "ago" :: rest => (-Int.ofNat (value digits), rest)
            | rest => (Int.ofNat (value digits), rest)
          if word = "t" then
            some ({ told with day := ← day? (yearOf digits) 1 1 }, rest)
          else some (← told.add? count word, rest)
  | _ =>
      if digits.length = 8 then do
        let number := value digits
        let day ← day? (number / 10000) (number / 100 % 100) (number % 100)
        some ({ told with day := some day }, rest)
      else if digits.length = 4 then do
        some ({ told with second := ← second? (value digits / 100) (value digits % 100) 0 }, rest)
      else if digits.length ≤ 2 then do
        some ({ told with second := ← second? (value digits) 0 0 }, rest)
      else none

/-- Reads all parts of a date in words. The bound is on their number. -/
def readPieces (today : Int) : Nat → Told → List Piece → Option Told
  | 0, _, _ => none
  | bound + 1, told, pieces =>
      match pieces with
      | [] => some told
      | .mark '@' :: .mark '-' :: .digits digits :: rest =>
          readPieces today bound { told with moment := some (-Int.ofNat (value digits)) } rest
      | .mark '@' :: .digits digits :: .mark '.' :: .digits fraction :: rest =>
          readPieces today bound
            { told with moment := some (value digits), fraction := fractionOf fraction } rest
      | .mark '@' :: .digits digits :: rest =>
          readPieces today bound { told with moment := some (value digits) } rest
      | .mark sign :: .digits digits :: .word unit :: rest => do
          if sign != '+' && sign != '-' then none
          else
            let count := if sign = '-' then -Int.ofNat (value digits) else value digits
            let (count, rest) := match rest with
              | .word "ago" :: rest => (-count, rest)
              | rest => (count, rest)
            readPieces today bound (← told.add? count unit) rest
      | .mark _ :: _ => none
      | .digits digits :: rest => do
          let (told, rest) ← readDigits told today digits rest
          readPieces today bound told rest
      | .word word :: rest => do
          let (told, rest) ← readWord told today word rest
          readPieces today bound told rest

/-- The words name a day or a time, from which the time of the day is counted. -/
def Told.isAbsolute (told : Told) : Bool :=
  told.day.isSome || told.weekDay.isSome

/-- The moment that has been told. -/
def Told.result (told : Told) (now : Moment) : Moment :=
  match told.moment with
  | some seconds =>
      .ofSeconds (seconds + told.days * daySeconds + told.seconds) told.fraction
  | none =>
      let day := match told.day, told.weekDay with
        | some day, _ => day
        | none, some (count, index) =>
            let weekDay := Moment.weekDay ⟨now.day, 0, 0⟩
            let weeks := if 0 < count && weekDay != index then count - 1 else count
            now.day + Int.ofNat ((index + 7 - weekDay) % 7) + 7 * weeks
        | none, none => now.day
      let second := told.second.getD (if told.isAbsolute then 0 else now.second)
      let fraction := if told.second.isSome || told.isAbsolute then told.fraction
        else now.fraction
      let moved := (Day.ofNumber day).afterMonths told.months + told.days
      .ofSeconds (moved * daySeconds + Int.ofNat second + told.seconds - told.ahead) fraction

/-- The moment that a date in words means. -/
def moment? (now : Moment) (text : String) : Option Moment :=
  let parts := pieces (text.length + 1) text.toList
  if parts.isEmpty then some { now with second := 0, fraction := 0 }
  else (readPieces now.day (parts.length + 1) { } parts).map fun told => told.result now

/-- The moment of digits for the month, the day, the hour and the minute, which the year can stand
in front of and the second behind. -/
def ofDigits? (now : Moment) (text : String) : Option Moment := do
  let (digits, rest) := text.toList.span Char.isDigit
  let second ← match rest with
    | [] => some 0
    | ['.', tens, ones] => (String.ofList [tens, ones]).toNat?
    | _ => none
  let number := value (String.ofList digits)
  let year ← match digits.length with
    | 8 => some (Day.ofNumber now.day).year
    | 10 => some (yearOf (String.ofList (digits.take 2)))
    | 12 => some (Int.ofNat (number / 100000000))
    | _ => none
  let day ← day? year (number / 1000000 % 100) (number / 10000 % 100)
  some ⟨day, ← second? (number / 100 % 100) (number % 100) second, 0⟩

/-- The millionths of a second up to a moment. -/
def millionths (moment : Moment) : Int :=
  moment.seconds * 1000000 + Int.ofNat (moment.fraction / 1000)

end Date

/-- The present moment. -/
def presentMoment : Action Text.Calendar.Moment := do
  pure (.ofMillionths (← now))

/-- The format of a moment in one of the usual forms. -/
def usualFormat (given : Given) : Option String :=
  let find (forms : List (String × String)) (word : String) : Option String :=
    (forms.find? fun form => word.toList.isPrefixOf form.1.toList).map fun form => form.2
  match given.text? 'I', given.text? 'F' with
  | some "", _ => some "%Y-%m-%d"
  | some word, _ =>
      find [("date", "%Y-%m-%d"), ("hours", "%Y-%m-%dT%H%:z"), ("minutes", "%Y-%m-%dT%H:%M%:z"),
        ("seconds", "%Y-%m-%dT%H:%M:%S%:z"), ("ns", "%Y-%m-%dT%H:%M:%S,%N%:z")] word
  | none, some word =>
      find [("date", "%Y-%m-%d"), ("seconds", "%Y-%m-%d %H:%M:%S%:z"),
        ("ns", "%Y-%m-%d %H:%M:%S.%N%:z")] word
  | none, none =>
      some (if given.has 'R' then "%a, %d %b %Y %H:%M:%S %z" else "%a %b %e %H:%M:%S %Z %Y")

/-- Writes a moment. -/
def runDate (arguments : List String) : Action Nat := do
  let known : List Known := [⟨'d', "date", .text⟩, ⟨'u', "utc", .nothing⟩,
    ⟨'u', "universal", .nothing⟩, ⟨'r', "reference", .text⟩, ⟨'R', "rfc-email", .nothing⟩,
    ⟨'I', "iso-8601", .attached⟩, ⟨'F', "rfc-3339", .text⟩, ⟨'f', "file", .text⟩,
    ⟨'s', "set", .text⟩]
  withOptions 1 known arguments fun given => do
    let present ← presentMoment
    let format : Option String := match given.operands with
      | [] => usualFormat given
      | [text] => if text.toList.head? = some '+' then some (String.ofList (text.toList.drop 1))
          else none
      | _ => none
    let moment ← match given.text? 'r', given.text? 'd' with
      | some path, _ => do
          pure ((← find? true path).map fun found => .ofMillionths found.time)
      | none, some text => pure (Date.moment? present text)
      | none, none => pure (some present)
    match format, moment with
    | some format, some moment => answer (Text.Calendar.format moment format ++ "\n")
    | _, none => refuse 1 ("invalid date '" ++ (given.text? 'd').getD "" ++ "'")
    | none, _ => refuse 1 ("invalid date '" ++ given.operands.headD "" ++ "'")

end StaticMulticast.Host.Utility
