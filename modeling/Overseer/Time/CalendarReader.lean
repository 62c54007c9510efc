import Overseer.Number.Leading
import Overseer.Time.Calendar

/-!
# Reading calendar time

Times as people write them: a date, a time of day, and spans to add, in any order. What is
not said is taken from the time at hand; a date without a time of day is its midnight.
-/

namespace Overseer

/-- What was read of a time so far. -/
structure TimeReading where
  date : Option CalendarDate := none
  seconds : Option Nat := none
  nanos : Nat := 0
  /-- The seconds that clocks there are ahead. -/
  ahead : Int := 0
  /-- What is to be added. -/
  months : Int := 0
  days : Int := 0
  moreSeconds : Int := 0
  /-- The instant itself, where it was given. -/
  instant : Option Instant := none

namespace TimeReading

/-! ## Words -/

/-- A word in small letters: a run of letters, of digits with signs and points in it, or a
sign. `fuel` bounds the characters. -/
def words : (fuel : Nat) → List Char → List String
  | 0, _ => []
  | _, [] => []
  | fuel + 1, c :: rest =>
    if c.isAlpha then
      let (letters, rest) := (c :: rest).span fun c => c.isAlpha || c = '.'
      (String.ofList (letters.filter Char.isAlpha)).toLower :: words fuel rest
    else if c.isDigit then
      let (digits, rest) := (c :: rest).span fun c => c.isDigit || [':', '-', '/', '.'].contains c
      String.ofList digits :: words fuel rest
    else if c = '+' || c = '-' || c = '@' then
      let rest := if c = '@' then rest else rest.dropWhile isSpacing
      let (digits, rest) := rest.span fun c => c.isDigit || [':', '.'].contains c
      if digits.isEmpty then
        match rest with
        | '-' :: rest => String.ofList ['@', '-'] :: words fuel rest
        | _ => String.singleton c :: words fuel rest
      else String.ofList (c :: digits) :: words fuel rest
    else words fuel rest

def number? (word : String) : Option Nat := naturalOf? word.toList

/-- The numbers between separators. -/
def numbers? (separator : String) (word : String) : Option (List Nat) :=
  (word.splitOn separator).mapM number?

/-- A year that was written with two digits. -/
def fullYear (year : Nat) : Int := if year < 69 then year + 2000 else if year < 100 then year + 1900 else year

/-- The date that a word writes. -/
def date? (word : String) : Option CalendarDate :=
  match numbers? "-" word, numbers? "/" word with
  | some [year, month, day], _ => some ⟨fullYear year, month, day⟩
  | _, some [first, second, third] =>
    if 31 < first then some ⟨first, second, third⟩ else some ⟨fullYear third, first, second⟩
  | _, _ =>
    if word.length = 8 then
      (number? word).map fun number => ⟨number / 10000, number / 100 % 100, number % 100⟩
    else none

/-- The time of day that a word writes, in seconds and nanoseconds. -/
def timeOfDay? (word : String) : Option (Nat × Nat) := do
  let (clock, fraction) := word.toList.span (· ≠ '.')
  let digits := fraction.drop 1
  let nanos := valueOfDigits 10 ((digits ++ List.replicate 9 '0').take 9)
  let (hour, minute, second) ←
    match ← numbers? ":" (String.ofList clock) with
    | [hour, minute] => some (hour, minute, 0)
    | [hour, minute, second] => some (hour, minute, second)
    | _ => none
  if hour < 24 && minute < 60 && second < 61 && digits.all Char.isDigit then
    some (hour * 3600 + minute * 60 + second, nanos)
  else none

/-- The place of a name in a list, which may be cut short to three letters. -/
def nameIndex? (names : List String) (word : String) : Option Nat :=
  names.findIdx? fun name =>
    name.toLower = word || (name.toLower.take 3).toString = word

/-- Adds some units of time. -/
def addUnits? (reading : TimeReading) (count : Int) (unit : String) : Option TimeReading :=
  let unit := if unit.endsWith "s" && unit.length > 3 then (unit.dropEnd 1).toString else unit
  let seconds (factor : Int) : Option TimeReading :=
    some { reading with moreSeconds := reading.moreSeconds + count * factor }
  let days (factor : Int) : Option TimeReading :=
    some { reading with days := reading.days + count * factor }
  match unit with
  | "sec" | "second" => seconds 1
  | "min" | "minute" => seconds 60
  | "hour" => seconds 3600
  | "day" => days 1
  | "week" => days 7
  | "fortnight" => days 14
  | "month" => some { reading with months := reading.months + count }
  | "year" => some { reading with months := reading.months + count * 12 }
  | _ => none

/-- The hour of the day that an hour with its half of the day is. -/
def hourOfHalf? (hour : Nat) (half : String) : Option Nat :=
  if hour = 0 || 12 < hour then none
  else if half = "am" then some (hour % 12)
  else if half = "pm" then some (hour % 12 + 12)
  else none

/-- The seconds that a zone is ahead. -/
def ahead? (word : String) : Option Int := do
  let sign ← word.toList.head?
  let digits := (word.toList.drop 1).filter (· ≠ ':')
  let number ← naturalOf? digits
  let seconds : Nat :=
    if digits.length ≤ 2 then number * 3600 else number / 100 * 3600 + number % 100 * 60
  if sign = '+' then some seconds else if sign = '-' then some (-(seconds : Int)) else none

/-! ## Reading -/

/-- Turns what is to be added the other way. -/
def backwards (reading : TimeReading) : TimeReading :=
  { reading with
    months := -reading.months, days := -reading.days, moreSeconds := -reading.moreSeconds }

/-- Takes the words of a time one after another. `fuel` bounds the words. -/
def take? (now : CalendarTime) : (fuel : Nat) → TimeReading → List String → Option TimeReading
  | 0, _, _ => none
  | _, reading, [] => some reading
  | fuel + 1, reading, word :: rest =>
    let go := take? now fuel
    match word, rest with
    | "ago", _ => go reading.backwards rest
    | "now", _ | "today", _ => go reading rest
    | "yesterday", _ => go { reading with days := reading.days - 1 } rest
    | "tomorrow", _ => go { reading with days := reading.days + 1 } rest
    | "noon", _ => go { reading with seconds := some 43200 } rest
    | "midnight", _ => go { reading with seconds := some 0 } rest
    | "utc", _ | "gmt", _ | "z", _ | "t", _ => go reading rest
    | "next", unit :: rest | "this", unit :: rest | "last", unit :: rest => do
      let count : Int := if word = "next" then 1 else if word = "last" then -1 else 0
      go (← reading.addUnits? count unit) rest
    | _, _ =>
      match timeOfDay? word, date? word, number? word, rest with
      | some (seconds, nanos), _, _, half :: others =>
        if half = "am" || half = "pm" then do
          let hour ← hourOfHalf? (seconds / 3600) half
          go { reading with seconds := some (hour * 3600 + seconds % 3600), nanos } others
        else
          match ahead? half with
          | some ahead => go { reading with seconds := some seconds, nanos, ahead } others
          | none => go { reading with seconds := some seconds, nanos } rest
      | some (seconds, nanos), _, _, [] => go { reading with seconds := some seconds, nanos } []
      | none, some date, _, _ =>
        if reading.date.isNone && date.isReal then go { reading with date := some date } rest
        else none
      | none, none, some number, next :: others =>
        match reading.addUnits? number next, nameIndex? monthNames next, hourOfHalf? number next with
        | some reading, _, _ => go reading others
        | none, some month, _ =>
          let (year, others) :=
            match others with
            | word :: rest =>
              match number? word with
              | some year => (fullYear year, rest)
              | none => (now.date.year, others)
            | [] => (now.date.year, [])
          let date : CalendarDate := ⟨year, month + 1, number⟩
          if date.isReal then go { reading with date := some date } others else none
        | none, none, some hour => go { reading with seconds := some (hour * 3600) } others
        | none, none, none => none
      | none, none, some _, [] => none
      | none, none, none, _ =>
        match nameIndex? monthNames word, nameIndex? weekdayNames word, rest with
        | some month, _, day :: others => do
          let day ← number? day
          let (year, others) :=
            match others with
            | word :: rest =>
              match number? word with
              | some year => (fullYear year, rest)
              | none => (now.date.year, others)
            | [] => (now.date.year, [])
          let date : CalendarDate := ⟨year, month + 1, day⟩
          if date.isReal then go { reading with date := some date } others else none
        | none, some weekday, _ =>
          if reading.date.isSome then go reading rest
          else
            let wait : Nat := (weekday + 7 - now.weekday) % 7
            go { reading with
              days := reading.days + wait, seconds := some (reading.seconds.getD 0) } rest
        | _, _, _ =>
          match integerOf? word.toList, rest with
          | some count, unit :: others => do go (← reading.addUnits? count unit) others
          | _, _ =>
            match reading.addUnits? 1 word with
            | some reading => go reading rest
            | none => none

/-- The instant that was read. -/
def toInstant (reading : TimeReading) (now : CalendarTime) : Instant :=
  let date := reading.date.getD now.date
  let keepsTime := reading.date.isNone && reading.seconds.isNone
  let start : CalendarTime :=
    { date := ⟨date.year, date.month + reading.months, date.day + reading.days⟩
      seconds := if keepsTime then now.seconds else reading.seconds.getD 0
      nanos := if keepsTime then now.nanos else reading.nanos }
  ⟨start.toInstant.nanos + (reading.moreSeconds - reading.ahead) * 1000000000⟩

/-- The instant that a count of seconds writes. -/
def ofSeconds? (text : List Char) : Option Instant := do
  let (isNegative, digits) := leadingSign text
  let (whole, rest) := digits.span Char.isDigit
  let seconds ← naturalOf? whole
  let fraction ←
    match rest with
    | [] => some []
    | '.' :: fraction => if fraction.all Char.isDigit then some fraction else none
    | _ => none
  let nanos : Int := seconds * 1000000000 + valueOfDigits 10 ((fraction ++ List.replicate 9 '0').take 9)
  return ⟨if isNegative then -nanos else nanos⟩

/-- The instant that a text writes, as seen from another one. -/
def read? (now : Instant) (text : String) : Option Instant :=
  let chars := text.toList.dropWhile isSpacing
  let time := CalendarTime.ofInstant now
  match chars with
  | '@' :: rest => ofSeconds? rest
  | [] => some (({ date := some time.date } : TimeReading).toInstant time)
  | _ =>
    let parts := words (chars.length + 1) chars
    (take? time (parts.length + 1) {} parts).map (·.toInstant time)

end TimeReading

end Overseer
