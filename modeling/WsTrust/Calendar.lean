/-!
# The calendar

The proleptic Gregorian calendar over a fixed range of years, and instants of
universal time.  Years are counted from March inside an era of four hundred
years, so that the leap day is the last day of a year.
-/

namespace WsTrust

/-- A point of universal time: seconds since the beginning of 1970, and
nanoseconds.  During a leap second the nanoseconds run on from one thousand
million. -/
structure Instant where
  seconds : Int
  nanoseconds : Nat
  deriving DecidableEq, Repr, Inhabited

/-- Whether the left instant is the right one or before it. -/
def Instant.notAfter (left right : Instant) : Bool :=
  left.seconds < right.seconds ||
    (left.seconds == right.seconds && left.nanoseconds ≤ right.nanoseconds)

namespace Calendar

/-- A date and a time of day, with the second 60 for a leap second. -/
structure DateTime where
  year : Int
  month : Nat
  day : Nat
  hour : Nat
  minute : Nat
  second : Nat
  nanoseconds : Nat
  deriving DecidableEq, Repr

def isLeapYear (year : Int) : Bool :=
  year % 4 == 0 && (year % 100 != 0 || year % 400 == 0)

/-- The number of days of a month, counted from one. -/
def daysInMonth (year : Int) (month : Nat) : Nat :=
  if month == 2 then
    if isLeapYear year then 29 else 28
  else if month == 4 || month == 6 || month == 9 || month == 11 then
    30
  else
    31

/-- The number of days from the first of January 1970 to a date. -/
def daysOfDate (year : Int) (month day : Nat) : Int :=
  let marchYear := if month ≤ 2 then year - 1 else year
  let marchMonth : Int := if month ≤ 2 then month + 9 else month - 3
  let era := marchYear / 400
  let yearOfEra := marchYear % 400
  let dayOfYear := (153 * marchMonth + 2) / 5 + day - 1
  let dayOfEra :=
    yearOfEra * 365 + yearOfEra / 4 - yearOfEra / 100 + dayOfYear
  era * 146097 + dayOfEra - 719468

/-- The year, month and day that lie a number of days after the first of
January 1970. -/
def dateOfDays (days : Int) : Int × Nat × Nat :=
  let shifted := days + 719468
  let era := shifted / 146097
  let dayOfEra := shifted % 146097
  let yearOfEra :=
    (dayOfEra - dayOfEra / 1460 + dayOfEra / 36524 - dayOfEra / 146096) / 365
  let dayOfYear :=
    dayOfEra - (365 * yearOfEra + yearOfEra / 4 - yearOfEra / 100)
  let marchMonth := (5 * dayOfYear + 2) / 153
  let day := dayOfYear - (153 * marchMonth + 2) / 5 + 1
  let month := if marchMonth < 10 then marchMonth + 3 else marchMonth - 9
  let year := yearOfEra + era * 400
  (if month ≤ 2 then year + 1 else year, month.toNat, day.toNat)

/-- The first and the last year of the calendar. -/
def isYear (year : Int) : Bool :=
  -262143 ≤ year && year ≤ 262142

def DateTime.isValid (moment : DateTime) : Bool :=
  isYear moment.year && 1 ≤ moment.month && moment.month ≤ 12 &&
    1 ≤ moment.day && moment.day ≤ daysInMonth moment.year moment.month &&
    moment.hour < 24 && moment.minute < 60 && moment.second ≤ 60

/-- The instant of a date and a time of day that is `offset` seconds ahead of
universal time.  Second 60 is second 59 with a thousand million more
nanoseconds, at any minute. -/
def DateTime.toInstant? (moment : DateTime) (offset : Int) :
    Option Instant :=
  if moment.isValid then
    let days := daysOfDate moment.year moment.month moment.day
    let isLeapSecond := moment.second == 60
    let second := if isLeapSecond then 59 else moment.second
    some
      { seconds :=
          days * 86400 +
            (moment.hour * 3600 + moment.minute * 60 + second : Nat) - offset
        nanoseconds :=
          if isLeapSecond then moment.nanoseconds + 1000000000
          else moment.nanoseconds }
  else
    none

/-- The date and the time of day of an instant, in universal time. -/
def DateTime.ofInstant (instant : Instant) : DateTime :=
  let (year, month, day) := dateOfDays (instant.seconds / 86400)
  let ofDay := (instant.seconds % 86400).toNat
  let isLeapSecond := 1000000000 ≤ instant.nanoseconds
  { year
    month
    day
    hour := ofDay / 3600
    minute := ofDay / 60 % 60
    second := if isLeapSecond then ofDay % 60 + 1 else ofDay % 60
    nanoseconds := instant.nanoseconds % 1000000000 }

/-! ## Written form -/

/-- A number in decimal with at least `width` digits. -/
def padded (width number : Nat) : String :=
  let digits := toString number
  String.ofList (List.replicate (width - digits.length) '0') ++ digits

/-- A year, with a sign unless it has exactly four digits. -/
def writeYear (year : Int) : String :=
  if 0 ≤ year ∧ year ≤ 9999 then
    padded 4 year.toNat
  else
    (if year < 0 then "-" else "+") ++ padded 4 year.natAbs

/-- A fraction of three, six or nine digits, the fewest that are exact, or
nothing for a whole second. -/
def writeFraction (nanoseconds : Nat) : String :=
  if nanoseconds = 0 then ""
  else if nanoseconds % 1000000 = 0 then
    "." ++ padded 3 (nanoseconds / 1000000)
  else if nanoseconds % 1000 = 0 then
    "." ++ padded 6 (nanoseconds / 1000)
  else
    "." ++ padded 9 nanoseconds

/-- An instant in the form of RFC 3339, in universal time. -/
def writeInstant (instant : Instant) : String :=
  let moment := DateTime.ofInstant instant
  writeYear moment.year ++ "-" ++ padded 2 moment.month ++ "-" ++
    padded 2 moment.day ++ "T" ++ padded 2 moment.hour ++ ":" ++
    padded 2 moment.minute ++ ":" ++ padded 2 moment.second ++
    writeFraction moment.nanoseconds ++ "+00:00"

end Calendar

end WsTrust
