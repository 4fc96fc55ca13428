/-!
# The calendar

Days are counted from the first of January 1970. A moment is told by its day and by the time in it,
and written in a format in which a percent sign stands before the letter of each part.
-/

namespace StaticMulticast.Text

/-- A day of the calendar. -/
structure Day where
  year : Int
  month : Nat
  day : Nat
deriving DecidableEq, Repr

namespace Day

/-- The number of days in four hundred years, after which the calendar repeats itself. -/
def cycle : Int := 146097

/-- The number of a day. The year is taken to begin in March, so that a leap day ends it. -/
def number (day : Day) : Int :=
  let late : Int := if day.month ≤ 2 then 1 else 0
  let year := day.year - late
  let month : Int := (Int.ofNat day.month + 9) % 12
  let era := Int.fdiv year 400
  let inEra := year - 400 * era
  let inYear := (153 * month + 2) / 5 + Int.ofNat day.day - 1
  era * cycle + inEra * 365 + inEra / 4 - inEra / 100 + inYear - 719468

/-- The day of a number. -/
def ofNumber (number : Int) : Day :=
  let shifted := number + 719468
  let era := Int.fdiv shifted cycle
  let inEra := shifted - era * cycle
  let year := (inEra - inEra / 1460 + inEra / 36524 - inEra / 146096) / 365
  let inYear := inEra - (365 * year + year / 4 - year / 100)
  let month := (5 * inYear + 2) / 153
  let day := inYear - (153 * month + 2) / 5 + 1
  let month := if month < 10 then month + 3 else month - 9
  ⟨year + era * 400 + (if month ≤ 2 then 1 else 0), month.toNat, day.toNat⟩

/-- The number of days in a month. -/
def inMonth (year : Int) (month : Nat) : Nat :=
  match month with
  | 2 => if year % 4 = 0 && (year % 100 != 0 || year % 400 = 0) then 29 else 28
  | 4 | 6 | 9 | 11 => 30
  | _ => 31

/-- The day is one of the calendar. -/
def isValid (day : Day) : Bool :=
  1 ≤ day.month && day.month ≤ 12 && 1 ≤ day.day && day.day ≤ inMonth day.year day.month

/-- The day after so many months. Days that the month does not have lead into the next one. -/
def afterMonths (day : Day) (months : Int) : Int :=
  let total := day.year * 12 + Int.ofNat day.month - 1 + months
  let first : Day := ⟨Int.fdiv total 12, (total % 12).toNat + 1, 1⟩
  first.number + Int.ofNat day.day - 1

end Day

namespace Calendar

/-- The names of the days of the week. -/
def dayNames : List String :=
  ["Sunday", "Monday", "Tuesday", "Wednesday", "Thursday", "Friday", "Saturday"]

/-- The names of the months. -/
def monthNames : List String :=
  ["January", "February", "March", "April", "May", "June", "July", "August", "September",
    "October", "November", "December"]

/-- The first three letters of a name. -/
def short (name : String) : String :=
  String.ofList (name.toList.take 3)

/-- A moment: its day, the time in it in seconds, and the billionths of a second after that. -/
structure Moment where
  day : Int
  second : Nat
  fraction : Nat := 0

/-- The number of seconds in a day. -/
def daySeconds : Int := 86400

/-- The moment after so many seconds. -/
def Moment.ofSeconds (seconds : Int) (fraction : Nat) : Moment :=
  ⟨Int.fdiv seconds daySeconds, (seconds % daySeconds).toNat, fraction⟩

/-- The moment after so many millionths of a second. -/
def Moment.ofMillionths (time : Int) : Moment :=
  .ofSeconds (Int.fdiv time 1000000) (1000 * (time % 1000000).toNat)

/-- The seconds up to a moment. -/
def Moment.seconds (moment : Moment) : Int :=
  moment.day * daySeconds + Int.ofNat moment.second

/-- The day of the week, from Sunday on. -/
def Moment.weekDay (moment : Moment) : Nat :=
  ((moment.day + 4) % 7).toNat

/-- The day of the year, from zero on. -/
def Moment.yearDay (moment : Moment) : Nat :=
  (moment.day - Day.number ⟨(Day.ofNumber moment.day).year, 1, 1⟩).toNat

/-- The year and the number of a week that begins with a Monday and belongs to the year in which
most of its days are. -/
def Moment.week (moment : Moment) : Int × Nat :=
  let thursday := moment.day - Int.ofNat ((moment.weekDay + 6) % 7) + 3
  let year := (Day.ofNumber thursday).year
  (year, ((thursday - Day.number ⟨year, 1, 1⟩) / 7).toNat + 1)

/-- A number with something in front of it up to a width. -/
def padded (mark : Char) (width : Nat) (number : Int) : String :=
  let digits := toString number.natAbs
  (if number < 0 then "-" else "") ++
    String.ofList (List.replicate (width - digits.length) mark) ++ digits

/-- How a part of a moment is written: the mark in front of a number, its width, and whether letters
are made great. -/
structure Style where
  mark : Option Char := none
  isBare : Bool := false
  isUpper : Bool := false
  isSwapped : Bool := false
  width : Option Nat := none

/-- A number in a style. -/
def Style.number (style : Style) (usual : Char) (width : Nat) (value : Int) : String :=
  if style.isBare then toString value
  else padded (style.mark.getD usual) (style.width.getD width) value

/-- A text in a style. -/
def Style.text (style : Style) (text : String) : String :=
  let text := if style.isUpper then String.ofList (text.toList.map Char.toUpper) else text
  let mark := if style.mark = some '0' then '0' else ' '
  String.ofList (List.replicate (style.width.getD 0 - text.length) mark) ++ text

/-- The hour on a clock of twelve hours. -/
def halfHour (hour : Nat) : Nat :=
  if hour % 12 = 0 then 12 else hour % 12

/-- The text of a letter for a part of a moment. -/
def part (style : Style) (moment : Moment) (letter : Char) : Option String :=
  let day := Day.ofNumber moment.day
  let hour := moment.second / 3600
  let minute := moment.second / 60 % 60
  let second := moment.second % 60
  let two (number : Nat) : String := padded '0' 2 number
  let clock := two hour ++ ":" ++ two minute ++ ":" ++ two second
  let weekDay := dayNames[moment.weekDay]?.getD ""
  let month := monthNames[day.month - 1]?.getD ""
  let half := if hour < 12 then "AM" else "PM"
  let number (usual : Char) (width : Nat) (value : Nat) : String := style.number usual width value
  match letter with
  | 'Y' => some (style.number '0' 4 day.year)
  | 'C' => some (style.number '0' 2 (Int.fdiv day.year 100))
  | 'y' => some (style.number '0' 2 (day.year % 100))
  | 'm' => some (number '0' 2 day.month)
  | 'd' => some (number '0' 2 day.day)
  | 'e' => some (number ' ' 2 day.day)
  | 'H' => some (number '0' 2 hour)
  | 'k' => some (number ' ' 2 hour)
  | 'I' => some (number '0' 2 (halfHour hour))
  | 'l' => some (number ' ' 2 (halfHour hour))
  | 'M' => some (number '0' 2 minute)
  | 'S' => some (number '0' 2 second)
  | 's' => some (style.number '0' 1 moment.seconds)
  | 'N' =>
      let digits := padded '0' 9 moment.fraction
      some (String.ofList (digits.toList.take (style.width.getD 9)))
  | 'j' => some (number '0' 3 (moment.yearDay + 1))
  | 'u' => some (number '0' 1 (if moment.weekDay = 0 then 7 else moment.weekDay))
  | 'w' => some (number '0' 1 moment.weekDay)
  | 'U' => some (number '0' 2 ((moment.yearDay + 7 - moment.weekDay) / 7))
  | 'W' => some (number '0' 2 ((moment.yearDay + 7 - (moment.weekDay + 6) % 7) / 7))
  | 'V' => some (number '0' 2 moment.week.2)
  | 'G' => some (style.number '0' 4 moment.week.1)
  | 'g' => some (style.number '0' 2 (moment.week.1 % 100))
  | 'q' => some (number '0' 1 ((day.month + 2) / 3))
  | 'a' => some (style.text (short weekDay))
  | 'A' => some (style.text weekDay)
  | 'b' | 'h' => some (style.text (short month))
  | 'B' => some (style.text month)
  | 'p' =>
      let style := { style with isUpper := style.isUpper && !style.isSwapped }
      some (style.text (if style.isSwapped then String.ofList (half.toList.map Char.toLower)
        else half))
  | 'P' => some (style.text (String.ofList (half.toList.map Char.toLower)))
  | 'F' => some (style.text
      (padded '0' 4 day.year ++ "-" ++ two day.month ++ "-" ++ two day.day))
  | 'D' | 'x' => some (style.text
      (two day.month ++ "/" ++ two day.day ++ "/" ++ padded '0' 2 (day.year % 100)))
  | 'T' | 'X' => some (style.text clock)
  | 'R' => some (style.text (two hour ++ ":" ++ two minute))
  | 'r' => some (style.text
      (two (halfHour hour) ++ ":" ++ two minute ++ ":" ++ two second ++ " " ++ half))
  | 'c' => some (style.text (short weekDay ++ " " ++ short month ++ " " ++
      padded ' ' 2 day.day ++ " " ++ clock ++ " " ++ toString day.year))
  | 'Z' => some (style.text (if style.isSwapped then "utc" else "UTC"))
  | 'z' => some "+0000"
  | 'n' => some "\n"
  | 't' => some "\t"
  | '%' => some "%"
  | _ => none

/-- A moment in a format. The bound is on the length of the format. -/
def formatFrom (moment : Moment) : Nat → Style → Bool → List Char → List Char
  | 0, _, _, _ => []
  | _ + 1, _, _, [] => []
  | bound + 1, style, false, '%' :: rest =>
      match rest with
      | ':' :: 'z' :: rest => "+00:00".toList ++ formatFrom moment bound style false rest
      | [] => ['%']
      | _ => formatFrom moment bound { } true rest
  | bound + 1, style, false, letter :: rest => letter :: formatFrom moment bound style false rest
  | bound + 1, style, true, letter :: rest =>
      let go (style : Style) : List Char := formatFrom moment bound style true rest
      match letter with
      | '-' => go { style with isBare := true }
      | '_' => go { style with mark := some ' ' }
      | '0' =>
          match style.width with
          | some width => go { style with width := some (10 * width) }
          | none => go { style with mark := some '0' }
      | '^' => go { style with isUpper := true }
      | '#' => go { style with isUpper := true, isSwapped := true }
      | '+' => go style
      | _ =>
          if letter.isDigit then
            go { style with
              width := some (10 * style.width.getD 0 + (letter.toNat - '0'.toNat)) }
          else
            let text := match part style moment letter with
              | some text => text.toList
              | none => ['%', letter]
            text ++ formatFrom moment bound { } false rest

/-- A moment in a format. -/
def format (moment : Moment) (text : String) : String :=
  String.ofList (formatFrom moment (text.length + 1) { } false text.toList)

end Calendar

end StaticMulticast.Text
