import GreetingServer.Fault

/-! Instants and their texts, which instants of years beyond four digits do not have. An instant is
a number of microseconds since the start of 1970 in universal time; its civil date is found by
counting days from the first of March of the year 0, so that a leap day is the last day of its year.
-/
namespace GreetingServer

structure Instant where
  microseconds : Int
  deriving Repr, DecidableEq

structure CivilTime where
  year : Int
  month : Nat
  day : Nat
  weekday : Nat
  hour : Nat
  minute : Nat
  second : Nat
  deriving Repr, DecidableEq

namespace Instant

def seconds (t : Instant) : Int := t.microseconds.fdiv 1000000

def fractional (t : Instant) : Nat := (t.microseconds.fmod 1000000).toNat

/-- The date of a day counted from the start of 1970: year, month and day of the month. -/
def civilDate (day : Int) : Int × Nat × Nat :=
  let z := day + 719468
  let era := z.fdiv 146097
  let dayOfEra := (z.fmod 146097).toNat
  let yearOfEra := (dayOfEra - dayOfEra / 1460 + dayOfEra / 36524 - dayOfEra / 146096) / 365
  let dayOfYear := dayOfEra - (365 * yearOfEra + yearOfEra / 4 - yearOfEra / 100)
  let monthFromMarch := (5 * dayOfYear + 2) / 153
  let dayOfMonth := dayOfYear - (153 * monthFromMarch + 2) / 5 + 1
  let month := if monthFromMarch < 10 then monthFromMarch + 3 else monthFromMarch - 9
  let year := (yearOfEra : Int) + era * 400
  (if month ≤ 2 then year + 1 else year, month, dayOfMonth)

/-- The civil date and time; weekdays count from Monday. -/
def civil (t : Instant) : CivilTime :=
  let day := t.seconds.fdiv 86400
  let second := (t.seconds.fmod 86400).toNat
  let (year, month, dayOfMonth) := civilDate day
  { year, month, day := dayOfMonth, weekday := ((day + 3).fmod 7).toNat
    hour := second / 3600, minute := second / 60 % 60, second := second % 60 }

def weekdayNames : List String := ["Mon", "Tue", "Wed", "Thu", "Fri", "Sat", "Sun"]

def monthNames : List String :=
  ["Jan", "Feb", "Mar", "Apr", "May", "Jun", "Jul", "Aug", "Sep", "Oct", "Nov", "Dec"]

def twoDigits (n : Nat) : Text := Text.padLeft 2 '0' (Text.ofNat n)

def fourDigits (n : Int) : Text := Text.padLeft 4 '0' (Text.numeral n)

/-- Hour, minute and second between colons. -/
def timeOfDay (c : CivilTime) : Text :=
  twoDigits c.hour ++ ':' :: twoDigits c.minute ++ ':' :: twoDigits c.second

def dateText (c : CivilTime) : Text :=
  (weekdayNames.getD c.weekday "").toList ++ ", ".toList ++ twoDigits c.day ++
    ' ' :: (monthNames.getD (c.month - 1) "").toList ++ ' ' :: fourDigits c.year ++
    ' ' :: timeOfDay c ++ " GMT".toList

/-- A civil time and a fraction of a second as log lines tell them; six digits of fraction, or none
if there is no fraction. -/
def timestampText (c : CivilTime) (fractional : Nat) : Text :=
  let fraction := if fractional = 0 then [] else '.' :: Text.padLeft 6 '0' (Text.ofNat fractional)
  fourDigits c.year ++ '-' :: twoDigits c.month ++ '-' :: twoDigits c.day ++
    'T' :: timeOfDay c ++ fraction ++ ['Z']

def fits (bits : Nat) (n : Int) : Bool := -Nat.pow 2 (bits - 1) ≤ n && n < Nat.pow 2 (bits - 1)

def isTold (year : Int) : Bool := 1 ≤ year && year ≤ 9999

/-- The date of a response, in whole seconds. Seconds are held in 64 bits and years, counted from
1900, in 32 bits; a year that does not fit when it is counted from zero is wrapped. -/
def httpDate (t : Instant) : Except Fault Text :=
  let c := t.civil
  let year := c.year.bmod (Nat.pow 2 32)
  if !fits 64 t.seconds then
    .error (Fault.overflow "timestamp out of range for platform time_t".toList)
  else if !fits 32 (c.year - 1900) then
    .error (Fault.ofErrorNumber 75 "Value too large for defined data type".toList)
  else if isTold year then .ok (dateText c)
  else
    .error (Fault.invalidValue ("year ".toList ++ Text.numeral year ++ " is out of range".toList))

def checkDays (days : Int) : Except Fault Unit :=
  if !fits 32 days then .error (Fault.overflow "Python int too large to convert to C int".toList)
  else if 999999999 < days.natAbs then
    .error (Fault.overflow
      ("days=".toList ++ Text.numeral days ++ "; must have magnitude <= 999999999".toList))
  else .ok ()

def timestamp (t : Instant) : Except Fault Text :=
  match checkDays (t.seconds.fdiv 86400) with
  | .error f => .error f
  | .ok () =>
    if isTold t.civil.year then .ok (timestampText t.civil t.fractional)
    else .error (Fault.overflow "date value out of range".toList)

theorem httpDate_zero : httpDate ⟨0⟩ = .ok "Thu, 01 Jan 1970 00:00:00 GMT".toList := by rfl

end Instant
end GreetingServer
