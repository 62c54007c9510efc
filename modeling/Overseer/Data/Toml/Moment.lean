/-!
# Dates and times of TOML

A moment is a date, a time of day, or both, joined by `T` or one blank; a date
with a time may have an offset. The seconds of a time may be left out.
-/

namespace Overseer.Toml

def digitValue (c : Char) : Nat := c.toNat - '0'.toNat

/-- A number of exactly so many digits; `high` holds the digits before them. -/
def fixedDigits (high : Nat) : Nat → List Char → Option (Nat × List Char)
  | 0, rest => some (high, rest)
  | digits + 1, c :: rest =>
    if c.isDigit then fixedDigits (high * 10 + digitValue c) digits rest else none
  | _, [] => none

def isLeapYear (year : Nat) : Bool := year % 4 = 0 && (year % 100 ≠ 0 || year % 400 = 0)

def daysInMonth (year month : Nat) : Nat :=
  if month = 2 then if isLeapYear year then 29 else 28
  else if month = 4 || month = 6 || month = 9 || month = 11 then 30
  else 31

/-- The text after a character that must come next. -/
def expect (wanted : Char) : List Char → Option (List Char)
  | c :: rest => if c = wanted then some rest else none
  | [] => none

/-- Skips a date. -/
def date (input : List Char) : Option (List Char) := do
  let (year, rest) ← fixedDigits 0 4 input
  let (month, rest) ← fixedDigits 0 2 (← expect '-' rest)
  let (day, rest) ← fixedDigits 0 2 (← expect '-' rest)
  if 1 ≤ month && month ≤ 12 && 1 ≤ day && day ≤ daysInMonth year month then some rest else none

/-- Skips the hours and minutes of a time or of an offset. -/
def hoursAndMinutes (input : List Char) : Option (List Char) := do
  let (hour, rest) ← fixedDigits 0 2 input
  let (minute, rest) ← fixedDigits 0 2 (← expect ':' rest)
  if hour ≤ 23 && minute ≤ 59 then some rest else none

/-- Skips the seconds of a time, which may have a fraction, if there are any. -/
def seconds : List Char → Option (List Char)
  | ':' :: rest => do
    let (second, rest) ← fixedDigits 0 2 rest
    if 60 < second then none
    match rest with
    | '.' :: fraction =>
      let (digits, rest) := fraction.span Char.isDigit
      if digits.isEmpty then none else some rest
    | rest => some rest
  | rest => some rest

/-- Skips a time of day. -/
def timeOfDay (input : List Char) : Option (List Char) := do seconds (← hoursAndMinutes input)

/-- Skips an offset, if there is one. -/
def offset : List Char → Option (List Char)
  | c :: rest =>
    if c = 'Z' || c = 'z' then some rest
    else if c = '+' || c = '-' then hoursAndMinutes rest
    else none
  | [] => some []

/-- Whether the text is a moment. -/
def isMoment (input : List Char) : Bool :=
  match date input with
  | some [] => true
  | some (c :: rest) =>
    (c = 'T' || c = 't' || c = ' ') && (timeOfDay rest >>= offset) = some []
  | none => timeOfDay input = some []

end Overseer.Toml
