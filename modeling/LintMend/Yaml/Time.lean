/-
LintMend.Yaml.Time — days and points in time.

  `TimeText.check` — whether a written day or point in time exists
-/
import LintMend.Failure
import LintMend.Yaml.Scalar

namespace LintMend.Yaml.TimeText

/-- Whether a year has 366 days. -/
def isLeap (year : Nat) : Bool :=
  year % 4 == 0 && (year % 100 != 0 || year % 400 == 0)

/-- The number of days of a month. -/
def daysIn (year month : Nat) : Nat :=
  if month = 2 then (if isLeap year then 29 else 28)
  else if month = 4 ∨ month = 6 ∨ month = 9 ∨ month = 11 then 30
  else 31

/-- Check a day. -/
def checkDay (year month day : Nat) : Except Failure Unit :=
  if year = 0 then .error (.badValue "year 0 is out of range")
  else if month = 0 ∨ 12 < month then .error (.badValue "month must be in 1..12")
  else if day = 0 ∨ daysIn year month < day then
    .error (.badValue "day is out of range for month")
  else .ok ()

/-- Check a clock. -/
def checkClock (hour minute second : Nat) : Except Failure Unit :=
  if 23 < hour then .error (.badValue "hour must be in 0..23")
  else if 59 < minute then .error (.badValue "minute must be in 0..59")
  else if 59 < second then .error (.badValue "second must be in 0..59")
  else .ok ()

/-- A difference of times in seconds, as messages show it. -/
def shownDifference (seconds : Int) : Text :=
  let days := Int.fdiv seconds 86400
  let rest := Int.fmod seconds 86400
  let parts : List Text :=
    (if days = 0 then [] else ["days=" ++ Text.ofInt days]) ++
      (if rest = 0 then [] else ["seconds=" ++ Text.ofInt rest])
  "datetime.timedelta(" ++ Text.join ", " parts ++ ")"

/-- Check a zone, which must be less than a day ahead or behind. -/
def checkZone (sign : CodePoint) (hours minutes : Nat) : Except Failure Unit :=
  let size : Int := 3600 * hours + 60 * minutes
  let offset := if sign = '-' then -size else size
  if 86400 ≤ size then
    .error (.badValue
      ("offset must be a timedelta strictly between -timedelta(hours=24) and " ++
        "timedelta(hours=24), not " ++ shownDifference offset ++ "."))
  else .ok ()

/-- Check that a written day or point in time exists. -/
def check (t : TimeText) : Except Failure Unit := do
  match t.zone with
  | some (sign, hours, minutes) =>
    checkZone sign (Text.digitsValue hours) (Text.digitsValue minutes)
  | none => pure ()
  checkDay (Text.digitsValue t.year) (Text.digitsValue t.month) (Text.digitsValue t.day)
  match t.clock with
  | some (hour, minute, second) =>
    checkClock (Text.digitsValue hour) (Text.digitsValue minute) (Text.digitsValue second)
  | none => pure ()

end LintMend.Yaml.TimeText
