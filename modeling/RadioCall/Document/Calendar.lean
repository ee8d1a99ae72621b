/-
This file defines the dates and moments that documents may hold. Each is written in two
ways: as it is spoken, with its parts in falling order, and as messages show it, as the
call that makes it. A moment may know how far its clock is ahead of universal time. Such
moments are compared by the instant that they mean, and others by their clocks.
-/

import RadioCall.Text.Numeral

namespace RadioCall

/-! ### Forms -/

/-- Parts of a text, separated by commas. -/
def commaSeparated (parts : List Text) : Text :=
  [',', ' '].intercalate parts

/-- A call with its arguments, as messages show it. -/
def shownCall (name : String) (arguments : List Text) : Text :=
  name.toList ++ '(' :: commaSeparated arguments ++ [')']

/-- A number with at least so many digits. -/
def padded (count value : Nat) : Text :=
  List.replicate (count - (decimal value).length) '0' ++ decimal value

/-! ### Dates -/

/-- A day of the calendar. -/
structure Date where
  year : Nat
  month : Nat
  day : Nat
  deriving DecidableEq, Repr

namespace Date

/-- A date as it is spoken. -/
def spoken (date : Date) : Text :=
  padded 4 date.year ++ '-' :: padded 2 date.month ++ '-' :: padded 2 date.day

/-- The numbers of a date as messages show them. -/
def numbers (date : Date) : List Text :=
  [decimal date.year, decimal date.month, decimal date.day]

/-- A date as messages show it. -/
def shown (date : Date) : Text :=
  shownCall "datetime.date" date.numbers

/-- Whether a year has a day more than others. -/
def isLeapYear (year : Nat) : Bool :=
  year % 4 = 0 && (year % 100 ≠ 0 || year % 400 = 0)

/-- How many days of a year are before a month. -/
def daysBeforeMonth (year month : Nat) : Nat :=
  [0, 31, 59, 90, 120, 151, 181, 212, 243, 273, 304, 334].getD (month - 1) 0 +
    if 2 < month && isLeapYear year then 1 else 0

/-- The number of a date, counted from the first day of the first year. -/
def number (date : Date) : Nat :=
  let earlier := date.year - 1
  365 * earlier + earlier / 4 - earlier / 100 + earlier / 400 +
    daysBeforeMonth date.year date.month + date.day

end Date

/-! ### Moments -/

/-- A time of a day, to the millionth part of a second, by a clock that may be known to be
so many seconds ahead of universal time. -/
structure Moment where
  date : Date
  hour : Nat
  minute : Nat
  second : Nat
  microsecond : Nat
  ahead? : Option Int
  deriving DecidableEq, Repr

namespace Moment

/-- How far a clock is ahead, as it is spoken. -/
def spokenAhead (ahead : Int) : Text :=
  let distance := ahead.natAbs
  (if ahead < 0 then '-' else '+') :: padded 2 (distance / 3600) ++
    ':' :: padded 2 (distance / 60 % 60) ++
      if distance % 60 = 0 then [] else ':' :: padded 2 (distance % 60)

/-- A moment as it is spoken. -/
def spoken (moment : Moment) : Text :=
  moment.date.spoken ++ ' ' :: padded 2 moment.hour ++ ':' :: padded 2 moment.minute ++
    ':' :: padded 2 moment.second ++
      (if moment.microsecond = 0 then [] else '.' :: padded 6 moment.microsecond) ++
        ((moment.ahead?.map spokenAhead).getD [])

/-- A number by its name as messages show it, unless it is zero. -/
def namedPart (name : String) (value : Int) : List Text :=
  if value = 0 then [] else [name.toList ++ '=' :: signedDecimal value]

/-- How far a clock is ahead, as messages show it. -/
def shownAhead (ahead : Int) : Text :=
  if ahead = 0 then "datetime.timezone.utc".toList
  else
    shownCall "datetime.timezone"
      [shownCall "datetime.timedelta"
        (namedPart "days" (ahead.fdiv 86400) ++ namedPart "seconds" (ahead.fmod 86400))]

/-- The numbers of a clock that messages show: without those at its end that are zero. -/
def clockNumbers (moment : Moment) : List Text :=
  let longer := if moment.microsecond = 0 then [] else [decimal moment.microsecond]
  [decimal moment.hour, decimal moment.minute] ++
    if moment.second = 0 && longer.isEmpty then [] else decimal moment.second :: longer

/-- A moment as messages show it. -/
def shown (moment : Moment) : Text :=
  shownCall "datetime.datetime"
    (moment.date.numbers ++ moment.clockNumbers ++
      (moment.ahead?.map fun ahead => "tzinfo=".toList ++ shownAhead ahead).toList)

/-- The instant of a moment in millionths of a second, by universal time if that is known. -/
def instant (moment : Moment) : Int :=
  let seconds : Int :=
    ((moment.date.number * 24 + moment.hour) * 60 + moment.minute) * 60 + moment.second
  (seconds - moment.ahead?.getD 0) * 1000000 + moment.microsecond

/-- Whether two moments are one: the same instant, and both or neither by universal time. -/
def isSame (first second : Moment) : Bool :=
  first.ahead?.isSome == second.ahead?.isSome && first.instant == second.instant

end Moment

end RadioCall
