import ThreatModel.Numeric.Power
import ThreatModel.Text.Digit

/-!
Contract: dates and points in time, as YAML writes them.

Owns:
- the shape of a date, with or without a time of day, a fraction of a second and
  an offset from universal time;
- the ranges of its numbers, and which of two numbers out of range is found first.

Does not own: arithmetic with dates.
-/

namespace ThreatModel.Yaml

open ThreatModel.Numeric
open ThreatModel.Text

/-- The distance of a local time from universal time, in minutes. -/
structure Offset where
  west : Bool
  minutes : Nat
deriving DecidableEq, Repr

structure TimeOfDay where
  hour : Nat
  minute : Nat
  second : Nat
  microsecond : Nat
  offset : Option Offset
deriving DecidableEq, Repr

structure Timestamp where
  year : Nat
  month : Nat
  day : Nat
  time : Option TimeOfDay
deriving DecidableEq, Repr

namespace Timestamp

/-- The first number of a timestamp that is out of range. -/
inductive Fault where
  | offset (given : Offset)
  | year (given : Nat)
  | month
  | day
  | hour
  | minute
  | second
deriving DecidableEq, Repr

def minutesOfDay : Nat := 24 * 60

/-- An offset as whole days, rounded down, and the seconds that go beyond them. -/
def daysAndSeconds (offset : Offset) : Int × Nat :=
  let days := offset.minutes / minutesOfDay
  let minutes := offset.minutes % minutesOfDay
  if offset.west then
    if minutes = 0 then (-(days : Int), 0)
    else (-(days : Int) - 1, (minutesOfDay - minutes) * 60)
  else
    ((days : Int), minutes * 60)

def offsetText (offset : Offset) : String :=
  match daysAndSeconds offset with
  | (days, 0) => s!"datetime.timedelta(days={days})"
  | (days, seconds) => s!"datetime.timedelta(days={days}, seconds={seconds})"

def Fault.message : Fault → String
  | .offset given =>
      "offset must be a timedelta strictly between -timedelta(hours=24) and " ++
        "timedelta(hours=24), not " ++ offsetText given ++ "."
  | .year given => s!"year {given} is out of range"
  | .month => "month must be in 1..12"
  | .day => "day is out of range for month"
  | .hour => "hour must be in 0..23"
  | .minute => "minute must be in 0..59"
  | .second => "second must be in 0..59"

def isLeapYear (year : Nat) : Bool :=
  year % 4 = 0 && (year % 100 ≠ 0 || year % 400 = 0)

def daysInMonth (year month : Nat) : Nat :=
  if month = 2 then
    if isLeapYear year then 29 else 28
  else if month ∈ [4, 6, 9, 11] then 30
  else 31

/-- An offset is looked at before the date, and the date before the time of day. -/
def fault? (stamp : Timestamp) : Option Fault :=
  let offset := (stamp.time.bind TimeOfDay.offset).filter fun offset =>
    decide (minutesOfDay ≤ offset.minutes)
  match offset with
  | some given => some (.offset given)
  | none =>
      if stamp.year = 0 then some (.year 0)
      else if stamp.month = 0 ∨ 12 < stamp.month then some .month
      else if stamp.day = 0 ∨ daysInMonth stamp.year stamp.month < stamp.day then some .day
      else
        match stamp.time with
        | none => none
        | some time =>
            if 23 < time.hour then some .hour
            else if 59 < time.minute then some .minute
            else if 59 < time.second then some .second
            else none

/-! ## The written form -/

/-- A number of at least `least` and at most `most` ASCII digits, as many as there are. -/
def number?
    (least most : Nat)
    (text : List Char) :
    Option (Nat × List Char) :=
  let digits := (text.take most).takeWhile Char.isDigit
  if digits.length < least then none
  else some (decimalValue digits, text.drop digits.length)

def sign?
    (sign : Char) :
    List Char → Option (List Char)
  | [] => none
  | character :: rest => if character = sign then some rest else none

def isSpacing (character : Char) : Bool :=
  character = ' ' || character = '\t'

/-- What follows the letter T, or blanks, between a date and a time. -/
def timeStart? : List Char → Option (List Char)
  | 'T' :: rest => some rest
  | 't' :: rest => some rest
  | text =>
      if (text.takeWhile isSpacing).isEmpty then none
      else some (text.dropWhile isSpacing)

/-- The offset at the end of a text, if one is there. The letter Z tells of universal time. -/
def offset? (text : List Char) : Option (Option Offset) :=
  match text.dropWhile isSpacing with
  | [] => if text.isEmpty then some none else none
  | ['Z'] => some (some ⟨false, 0⟩)
  | sign :: rest =>
      if sign = '+' ∨ sign = '-' then do
        let (hours, rest) ← number? 1 2 rest
        match rest with
        | [] => some (some ⟨decide (sign = '-'), hours * 60⟩)
        | _ => do
            let (minutes, rest) ← number? 2 2 (← sign? ':' rest)
            if rest.isEmpty then some (some ⟨decide (sign = '-'), hours * 60 + minutes⟩) else none
      else
        none

/-- Of a fraction of a second, six digits count. -/
def fraction (text : List Char) : Nat × List Char :=
  match text with
  | '.' :: rest =>
      let digits := rest.takeWhile Char.isDigit
      let six := digits.take 6
      (decimalValue six * powerOfTen (6 - six.length), rest.dropWhile Char.isDigit)
  | _ => (0, text)

def timeOfDay? (text : List Char) : Option TimeOfDay := do
  let (hour, rest) ← number? 1 2 text
  let (minute, rest) ← number? 2 2 (← sign? ':' rest)
  let (second, rest) ← number? 2 2 (← sign? ':' rest)
  let (microsecond, rest) := fraction rest
  return ⟨hour, minute, second, microsecond, ← offset? rest⟩

/-- Reads a date, with or without a time of day, whatever its numbers. -/
def ofChars? (text : List Char) : Option Timestamp := do
  let (year, rest) ← number? 4 4 text
  let (month, rest) ← number? 1 2 (← sign? '-' rest)
  let (day, rest) ← number? 1 2 (← sign? '-' rest)
  if rest.isEmpty then
    return ⟨year, month, day, none⟩
  else
    return ⟨year, month, day, some (← timeOfDay? (← timeStart? rest))⟩

/-- A date alone has two digits for the month and the day; before a time one is enough. -/
def isPlain (text : List Char) : Bool :=
  match ofChars? text with
  | none => false
  | some stamp => stamp.time.isSome || text.length = 10

end Timestamp

end ThreatModel.Yaml
