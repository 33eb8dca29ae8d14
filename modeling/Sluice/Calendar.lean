/-! The civil calendar in UTC, extended to years before 1 and after 9999, and the date of HTTP headers. -/

set_option autoImplicit false

namespace Sluice

/-- Seconds since the beginning of 1970. -/
abbrev Instant := Int

structure Date where
  year : Int
  month : Nat
  day : Nat
  deriving DecidableEq, Repr

namespace Date

/-- The date of a day counted from 1 January 1970. Years begin in March, so that the leap day ends one. -/
def ofDays (days : Int) : Date :=
  -- counted from 1 March of the year 0; an era of 400 years has 146097 days
  let z := days + 719468
  let era := z.fdiv 146097
  let dayOfEra := (z - era * 146097).toNat
  let yearOfEra := (dayOfEra - dayOfEra / 1460 + dayOfEra / 36524 - dayOfEra / 146096) / 365
  let dayOfYear := dayOfEra - (365 * yearOfEra + yearOfEra / 4 - yearOfEra / 100)
  let shifted := (5 * dayOfYear + 2) / 153
  let day := dayOfYear - (153 * shifted + 2) / 5 + 1
  let month := if shifted < 10 then shifted + 3 else shifted - 9
  ⟨(yearOfEra : Int) + era * 400 + (if month ≤ 2 then 1 else 0), month, day⟩

end Date

namespace Calendar

def weekdays : List String := ["Sun", "Mon", "Tue", "Wed", "Thu", "Fri", "Sat"]

def months : List String :=
  ["Jan", "Feb", "Mar", "Apr", "May", "Jun", "Jul", "Aug", "Sep", "Oct", "Nov", "Dec"]

def weekday (days : Int) : Nat := ((days + 4).fmod 7).toNat

def padLeft (width : Nat) (text : String) : String :=
  String.ofList (List.replicate (width - text.length) '0') ++ text

/-- A year of at least four digits; one beyond 9999 carries a plus sign. -/
def yearText (year : Int) : String :=
  if year < 0 then "-" ++ padLeft 4 (toString year.natAbs)
  else if year ≤ 9999 then padLeft 4 (toString year.natAbs)
  else "+" ++ toString year.natAbs

/-- The fixed-length date of HTTP headers. -/
def httpDate (instant : Instant) : String :=
  let days := instant.fdiv 86400
  let seconds := (instant.fmod 86400).toNat
  let date := Date.ofDays days
  weekdays.getD (weekday days) "" ++ ", " ++ padLeft 2 (toString date.day) ++ " " ++
    months.getD (date.month - 1) "" ++ " " ++ yearText date.year ++ " " ++
    padLeft 2 (toString (seconds / 3600)) ++ ":" ++ padLeft 2 (toString (seconds / 60 % 60)) ++ ":" ++
    padLeft 2 (toString (seconds % 60)) ++ " GMT"

/-- The last second of the year 262142, the last one the calendar represents. -/
def latest : Instant := 8210266876799

/-- An instant some seconds later, if the calendar represents it. The offset itself counts milliseconds in 64
bits. -/
def later? (now : Instant) (seconds : Nat) : Option Instant :=
  if 9223372036854775 < seconds then none
  else if latest < now + seconds then none
  else some (now + seconds)

end Calendar

end Sluice
