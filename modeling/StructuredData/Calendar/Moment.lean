/-!
# Moments

A date with a time of day and, possibly, an offset from universal time.
-/

namespace StructuredData

/-- A point in calendar time; the offset, if any, is in microseconds. -/
structure Moment where
  year : Nat
  month : Nat
  day : Nat
  hour : Nat := 0
  minute : Nat := 0
  second : Nat := 0
  micro : Nat := 0
  offset : Option Int := none
  deriving Repr, DecidableEq, Inhabited

namespace Calendar

/-- Whether a year has 366 days. -/
def isLeap (year : Nat) : Bool := year % 4 == 0 && (year % 100 != 0 || year % 400 == 0)

/-- The lengths of the months of a year. -/
def monthLengths (year : Nat) : List Nat :=
  [31, if isLeap year then 29 else 28, 31, 30, 31, 30, 31, 31, 30, 31, 30, 31]

/-- The number of days in a month, none for a number that is no month. -/
def monthLength (year month : Nat) : Nat :=
  if month = 0 then 0 else ((monthLengths year)[month - 1]?).getD 0

/-- The number of days in a year. -/
def yearLength (year : Nat) : Nat := if isLeap year then 366 else 365

/-- The number of days before a year, counted from the start of the year one. -/
def daysBefore (year : Nat) : Nat :=
  let y := year - 1
  y * 365 + y / 4 - y / 100 + y / 400

/-- The weekday on which a year begins, Monday being zero. -/
def firstWeekday (year : Nat) : Nat := daysBefore year % 7

/-- Month and day of a day of the year, both counted from one, the day of the year from zero. -/
def monthAndDay (month n : Nat) : List Nat → Nat × Nat
  | [] => (month, n + 1)
  | len :: rest => if n < len then (month, n + 1) else monthAndDay (month + 1) (n - len) rest

/-- Year, month and day of a day that lies `n` days after the start of a year. -/
def dateAt (year : Nat) (n : Int) : Nat × Nat × Nat :=
  let atDay := fun (y : Nat) (k : Int) => (y, monthAndDay 1 k.toNat (monthLengths y))
  if n < 0 then atDay (year - 1) (n + yearLength (year - 1))
  else if n < yearLength year then atDay year n
  else atDay (year + 1) (n - yearLength year)

/-- Whether a year has 53 weeks: it begins on a Thursday, or on a Wednesday and has 366 days. -/
def hasLongWeekYear (year : Nat) : Bool :=
  firstWeekday year == 3 || (firstWeekday year == 2 && isLeap year)

/-- The date of a day of a numbered week: week one is the first with a Thursday in the year. -/
def ofWeek (year week weekday : Nat) : Option (Nat × Nat × Nat) :=
  let weeks := if hasLongWeekYear year then 53 else 52
  if 1 ≤ year ∧ 1 ≤ week ∧ week ≤ weeks ∧ 1 ≤ weekday ∧ weekday ≤ 7 then
    let first : Int := -(firstWeekday year : Int) + if firstWeekday year > 3 then 7 else 0
    some (dateAt year (first + (week - 1) * 7 + (weekday - 1)))
  else none

/-- The names of the months. -/
def monthNames : List String :=
  ["January", "February", "March", "April", "May", "June", "July", "August", "September",
   "October", "November", "December"]

end Calendar

namespace Moment

/-- The microseconds of a day. -/
def dayMicros : Nat := 86400000000

/-- Whether all parts are in their ranges. -/
def isValid (t : Moment) : Bool :=
  1 ≤ t.year && t.year ≤ 9999 && 1 ≤ t.month && t.month ≤ 12 && 1 ≤ t.day &&
  t.day ≤ Calendar.monthLength t.year t.month && t.hour < 24 && t.minute < 60 && t.second < 60 &&
  t.micro < 1000000 &&
  match t.offset with
  | some o => o.natAbs < dayMicros
  | none => true

/-- A number with at least `width` digits. -/
def padded (width n : Nat) : String :=
  let ds := Nat.toDigits 10 n
  String.ofList (List.replicate (width - ds.length) '0' ++ ds)

/-- The microseconds of a second, with the point before them and nothing if there are none. -/
def fractionText (micro : Nat) : String := if micro = 0 then "" else "." ++ padded 6 micro

/-- The offset with its sign, hours and minutes, and seconds if there are any. -/
def offsetText (o : Int) : String :=
  let n := o.natAbs
  let seconds := n / 1000000
  let rest := seconds % 60
  (if o < 0 then "-" else "+") ++ padded 2 (seconds / 3600) ++ ":" ++
    padded 2 (seconds / 60 % 60) ++
    if rest = 0 ∧ n % 1000000 = 0 then ""
    else ":" ++ padded 2 rest ++ fractionText (n % 1000000)

/-- Date and time with a mark between them. -/
def textWith (mark : String) (t : Moment) : String :=
  padded 4 t.year ++ "-" ++ padded 2 t.month ++ "-" ++ padded 2 t.day ++ mark ++
    padded 2 t.hour ++ ":" ++ padded 2 t.minute ++ ":" ++ padded 2 t.second ++
    fractionText t.micro ++
    match t.offset with
    | some o => offsetText o
    | none => ""

/-- The standard form, with a capital T between date and time. -/
def isoText (t : Moment) : String := t.textWith "T"

/-- The form for readers, with a blank between date and time. -/
def plainText (t : Moment) : String := t.textWith " "

/-- The parts of a span of time as they are named in a call: days, seconds and microseconds, each
left out if it is zero. -/
def spanArguments (micros : Int) : String :=
  let named := fun (name : String) (n : Int) =>
    if n = 0 then [] else [name ++ "=" ++ toString n]
  let parts := named "days" (micros / dayMicros) ++
    named "seconds" (micros % dayMicros / 1000000) ++ named "microseconds" (micros % 1000000)
  if parts.isEmpty then "0" else ", ".intercalate parts

/-- The offset as it is written in a call. -/
def zoneCall (o : Int) : String :=
  if o = 0 then "datetime.timezone.utc"
  else "datetime.timezone(datetime.timedelta(" ++ spanArguments o ++ "))"

/-- The form inside a list or an object: a call with the parts of the moment, of which seconds and
microseconds are left out where nothing but zeros would follow. -/
def callText (t : Moment) : String :=
  let clock := if t.micro ≠ 0 then [t.second, t.micro] else if t.second ≠ 0 then [t.second] else []
  let parts := ([t.year, t.month, t.day, t.hour, t.minute] ++ clock).map fun n => toString n
  let zone := match t.offset with
    | some o => ["tzinfo=" ++ zoneCall o]
    | none => []
  "datetime.datetime(" ++ ", ".intercalate (parts ++ zone) ++ ")"

/-- Day, name of the month and year, without leading zeros. -/
def dayText (t : Moment) : String :=
  toString t.day ++ " " ++ (Calendar.monthNames[t.month - 1]?).getD "" ++ " " ++ toString t.year

/-- The days from the start of the year one to the day of a moment. -/
def dayNumber (t : Moment) : Nat :=
  Calendar.daysBefore t.year +
    ((Calendar.monthLengths t.year).take (t.month - 1)).foldl (· + ·) 0 + t.day

/-- The microseconds from the start of the year one, in universal time if the offset is known. -/
def instant (t : Moment) : Int :=
  let clock := (t.hour * 60 + t.minute) * 60 + t.second
  (t.dayNumber * dayMicros + clock * 1000000 + t.micro : Nat) - t.offset.getD 0

end Moment

end StructuredData
