import Overseer.Time.Stamp

/-!
# Calendar time

The parts of an instant in UTC, by the names and numbers that people use for them, and
formats that put them in words.
-/

namespace Overseer

namespace CalendarDate

/-- The number of days from 1970-01-01 to a date. A month or day beyond its bounds counts on
into the next one. -/
def toDays (date : CalendarDate) : Int :=
  let months := date.year * 12 + (date.month - 1)
  let year := months / 12
  let month := months % 12 + 1
  let fromMarch := if month ≤ 2 then month + 9 else month - 3
  let year := if month ≤ 2 then year - 1 else year
  let yearOfCycle := year % 400
  let dayOfYear := (153 * fromMarch + 2) / 5 + date.day - 1
  year / 400 * 146097 + yearOfCycle * 365 + yearOfCycle / 4 - yearOfCycle / 100 + dayOfYear - 719468

/-- Whether there is such a date. -/
def isReal (date : CalendarDate) : Bool := ofDays date.toDays = date

end CalendarDate

/-- An instant in parts. -/
structure CalendarTime where
  date : CalendarDate
  /-- The seconds since midnight, and the nanoseconds since then. -/
  seconds : Nat
  nanos : Nat

namespace CalendarTime

def ofInstant (instant : Instant) : CalendarTime :=
  let seconds := instant.nanos / 1000000000
  ⟨.ofDays (seconds / 86400), (seconds % 86400).toNat, (instant.nanos % 1000000000).toNat⟩

def toInstant (time : CalendarTime) : Instant :=
  ⟨(time.date.toDays * 86400 + time.seconds) * 1000000000 + time.nanos⟩

def hour (time : CalendarTime) : Nat := time.seconds / 3600

/-- The hour as clocks with twelve hours show it. -/
def clockHour (time : CalendarTime) : Nat := (time.hour + 11) % 12 + 1

def minute (time : CalendarTime) : Nat := time.seconds / 60 % 60

def second (time : CalendarTime) : Nat := time.seconds % 60

/-- The day of the week, from Sunday on. -/
def weekday (time : CalendarTime) : Nat := ((time.date.toDays + 4) % 7).toNat

/-- The day of the year, from one on. -/
def dayOfYear (time : CalendarTime) : Nat :=
  (time.date.toDays - CalendarDate.toDays ⟨time.date.year, 1, 1⟩ + 1).toNat

/-- The number of the week in the year, if weeks begin with a day of the week. -/
def weekFrom (time : CalendarTime) (first : Nat) : Nat :=
  (time.dayOfYear + 6 - (time.weekday + 7 - first) % 7) / 7

/-- The year and the number of the week that has the Thursday of this one. -/
def isoWeek (time : CalendarTime) : Int × Nat :=
  let thursday := time.date.toDays - (((time.weekday + 6) % 7 : Nat) : Int) + 3
  let year := (CalendarDate.ofDays thursday).year
  (year, ((thursday - CalendarDate.toDays ⟨year, 1, 1⟩) / 7 + 1).toNat)

/-- The whole seconds since the epoch. -/
def epochSeconds (time : CalendarTime) : Int := time.date.toDays * 86400 + time.seconds

end CalendarTime

/-! ## Names -/

def monthNames : List String :=
  ["January", "February", "March", "April", "May", "June", "July", "August", "September",
   "October", "November", "December"]

def weekdayNames : List String :=
  ["Sunday", "Monday", "Tuesday", "Wednesday", "Thursday", "Friday", "Saturday"]

def CalendarTime.monthName (time : CalendarTime) : String :=
  (monthNames[time.date.month.toNat - 1]?).getD ""

def CalendarTime.weekdayName (time : CalendarTime) : String :=
  (weekdayNames[time.weekday]?).getD ""

/-! ## Formats -/

/-- A part of a time in words: a number that is filled up to a width, or a text. -/
inductive TimeWord
  | number (fill : Char) (width : Nat) (value : Int)
  | text (words : String)

/-- What stands before the letter of a part. -/
structure TimeLayout where
  fill : Option Char := none
  isBare : Bool := false
  isUpper : Bool := false
  width : Nat := 0

namespace TimeLayout

def apply (layout : TimeLayout) : TimeWord → String
  | .number fill width value =>
    let digits := Nat.toDigits 10 value.natAbs
    let sign := if value < 0 then ['-'] else []
    let width := if layout.isBare then 0 else max width layout.width
    let fill := layout.fill.getD fill
    let filled := digits.leftpad (width - sign.length) fill
    String.ofList (if fill = '0' then sign ++ filled else (sign ++ digits).leftpad width fill)
  | .text words =>
    let words := if layout.isUpper then words.toUpper else words
    String.ofList (words.toList.leftpad layout.width (layout.fill.getD ' '))

/-- Takes the signs and the width before a letter. `fuel` bounds the signs. -/
def read : (fuel : Nat) → TimeLayout → List Char → TimeLayout × List Char
  | 0, layout, text => (layout, text)
  | fuel + 1, layout, text =>
    match text with
    | '-' :: rest => read fuel { layout with isBare := true } rest
    | '_' :: rest => read fuel { layout with fill := some ' ' } rest
    | '0' :: rest => read fuel { layout with fill := some '0' } rest
    | '^' :: rest | '#' :: rest => read fuel { layout with isUpper := true } rest
    | _ =>
      let (digits, rest) := text.span Char.isDigit
      ({ layout with
          width := digits.foldl (fun width c => width * 10 + (c.toNat - '0'.toNat)) 0 }, rest)

end TimeLayout

namespace CalendarTime

def two (value : Nat) : TimeWord := .number '0' 2 value

def slashed (time : CalendarTime) : String :=
  "/".intercalate (([time.date.month.toNat, time.date.day.toNat, time.date.year.toNat % 100]).map
    (paddedDecimal 2))

def clock (time : CalendarTime) : String :=
  ":".intercalate ([time.hour, time.minute, time.second].map (paddedDecimal 2))

def half (time : CalendarTime) : String := if time.hour < 12 then "AM" else "PM"

/-- What a letter of a format stands for. -/
def word? (time : CalendarTime) (letter : Char) : Option TimeWord :=
  match letter with
  | '%' => some (.text "%")
  | 'n' => some (.text "\n")
  | 't' => some (.text "\t")
  | 'a' => some (.text (time.weekdayName.take 3).toString)
  | 'A' => some (.text time.weekdayName)
  | 'b' | 'h' => some (.text (time.monthName.take 3).toString)
  | 'B' => some (.text time.monthName)
  | 'C' => some (.number '0' 2 (time.date.year / 100))
  | 'd' => some (two time.date.day.toNat)
  | 'D' | 'x' => some (.text time.slashed)
  | 'e' => some (.number ' ' 2 time.date.day)
  | 'F' => some (.text time.date.text)
  | 'g' => some (two (time.isoWeek.1 % 100).toNat)
  | 'G' => some (.number '0' 4 time.isoWeek.1)
  | 'H' => some (two time.hour)
  | 'I' => some (two time.clockHour)
  | 'j' => some (.number '0' 3 time.dayOfYear)
  | 'k' => some (.number ' ' 2 time.hour)
  | 'l' => some (.number ' ' 2 time.clockHour)
  | 'm' => some (two time.date.month.toNat)
  | 'M' => some (two time.minute)
  | 'p' => some (.text time.half)
  | 'P' => some (.text time.half.toLower)
  | 'q' => some (.number '0' 1 ((time.date.month - 1) / 3 + 1))
  | 'r' =>
    let clock := ":".intercalate ([time.clockHour, time.minute, time.second].map (paddedDecimal 2))
    some (.text (clock ++ " " ++ time.half))
  | 'R' => some (.text (":".intercalate ([time.hour, time.minute].map (paddedDecimal 2))))
  | 's' => some (.number '0' 1 time.epochSeconds)
  | 'S' => some (two time.second)
  | 'T' | 'X' => some (.text time.clock)
  | 'u' => some (.number '0' 1 (if time.weekday = 0 then 7 else time.weekday))
  | 'U' => some (two (time.weekFrom 0))
  | 'V' => some (two time.isoWeek.2)
  | 'w' => some (.number '0' 1 time.weekday)
  | 'W' => some (two (time.weekFrom 1))
  | 'y' => some (two (time.date.year % 100).toNat)
  | 'Y' => some (.number '0' 4 time.date.year)
  | 'z' => some (.text "+0000")
  | 'Z' => some (.text "UTC")
  | 'c' =>
    let day := (TimeLayout.mk none false false 0).apply (.number ' ' 2 time.date.day)
    some (.text (" ".intercalate
      [(time.weekdayName.take 3).toString, (time.monthName.take 3).toString, day, time.clock,
       CalendarDate.yearText time.date.year]))
  | _ => none

/-- The first digits of the nanoseconds. -/
def fraction (time : CalendarTime) (width : Nat) : List Char :=
  let digits := (paddedDecimal 9 time.nanos).toList
  if width = 0 then digits else (digits ++ List.replicate (width - 9) '0').take width

/-- Puts a time in words as a format says. `fuel` bounds the characters. -/
def formatWithin (time : CalendarTime) : (fuel : Nat) → List Char → List Char
  | 0, _ => []
  | _, [] => []
  | fuel + 1, '%' :: text =>
    let (layout, rest) := TimeLayout.read (text.length + 1) {} text
    match rest with
    | [] => ['%']
    | 'N' :: rest => time.fraction layout.width ++ formatWithin time fuel rest
    | ':' :: 'z' :: rest => "+00:00".toList ++ formatWithin time fuel rest
    | ':' :: ':' :: 'z' :: rest => "+00:00:00".toList ++ formatWithin time fuel rest
    | letter :: rest =>
      match time.word? letter with
      | some word => (layout.apply word).toList ++ formatWithin time fuel rest
      | none =>
        '%' :: text.take (text.length - rest.length) ++ formatWithin time fuel rest
  | fuel + 1, c :: text => c :: formatWithin time fuel text

def format (time : CalendarTime) (format : String) : String :=
  String.ofList (time.formatWithin (format.length + 1) format.toList)

end CalendarTime

end Overseer
