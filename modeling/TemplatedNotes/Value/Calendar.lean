/-
  TemplatedNotes/Value/Calendar.lean
  ==================================
  **Dates and times of day.**

  A date lies in the proleptic Gregorian calendar from year 1 on; a time of day counts
  microseconds and may carry an offset from universal time.  `Date.check` and `DateTime.check` name
  the first part out of range.
-/
import TemplatedNotes.Number.Integer

namespace TemplatedNotes

/-- A day. -/
structure Date where
  year : Nat
  month : Nat
  day : Nat
deriving DecidableEq, Repr

/-- A time of day on a day; `offset` counts the minutes that the clock is ahead of universal
    time. -/
structure DateTime where
  date : Date
  hour : Nat
  minute : Nat
  second : Nat
  microsecond : Nat
  offset : Option Int
deriving DecidableEq, Repr

/-- The part of a date or time that is out of range. -/
inductive CalendarFault where
  | year (n : Nat)
  | month
  | day
  | hour
  | minute
  | second
  /-- An offset of a day or more, in minutes. -/
  | offset (minutes : Int)
deriving DecidableEq, Repr

/-- A number with zeros in front, at least `width` digits. -/
def padded (width n : Nat) : Text :=
  let digits := Nat.toDigits 10 n
  (List.replicate (width - digits.length) '0' ++ digits).map .scalar

namespace Date

def isLeap (year : Nat) : Bool := year % 4 = 0 && (year % 100 ≠ 0 || year % 400 = 0)

def daysIn (year month : Nat) : Nat :=
  if month = 2 then (if isLeap year then 29 else 28)
  else if month = 4 ∨ month = 6 ∨ month = 9 ∨ month = 11 then 30
  else 31

/-- A date whose parts are in range. -/
def check (d : Date) : Except CalendarFault Date :=
  if d.year = 0 ∨ 9999 < d.year then .error (.year d.year)
  else if d.month = 0 ∨ 12 < d.month then .error .month
  else if d.day = 0 ∨ daysIn d.year d.month < d.day then .error .day
  else .ok d

/-- The days from the start of the calendar to a date. -/
def ordinal (d : Date) : Nat :=
  let y := d.year - 1
  let before := (List.range (d.month - 1)).map (fun m => daysIn d.year (m + 1))
  y * 365 + y / 4 - y / 100 + y / 400 + before.foldl (· + ·) 0 + d.day

/-- The ISO form, `2024-01-31`. -/
def isoText (d : Date) : Text :=
  padded 4 d.year ++ Text.of "-" ++ padded 2 d.month ++ Text.of "-" ++ padded 2 d.day

/-- The constructor form. -/
def quotedText (d : Date) : Text :=
  Text.of "datetime.date(" ++
    Text.join (Text.of ", ") ([d.year, d.month, d.day].map Integer.natText) ++ Text.of ")"

end Date

namespace DateTime

/-- A time whose parts are in range; the offset is looked at first. -/
def check (t : DateTime) : Except CalendarFault DateTime := do
  match t.offset with
  | some m => if 1440 ≤ m.natAbs then throw (.offset m)
  | none => pure ()
  let _ ← t.date.check
  if 23 < t.hour then throw .hour
  if 59 < t.minute then throw .minute
  if 59 < t.second then throw .second
  return t

/-- The microseconds from the start of the calendar, by universal time where the offset is
    known. -/
def instant (t : DateTime) : Int :=
  let minutes : Int := (t.date.ordinal * 24 + t.hour) * 60 + t.minute
  ((minutes - t.offset.getD 0) * 60 + t.second) * 1000000 + t.microsecond

/-- Two times are the same when both or neither know their offset and their instants agree. -/
def same (a b : DateTime) : Bool :=
  a.offset.isSome == b.offset.isSome && a.instant == b.instant

/-- An offset as `+hh:mm`. -/
def offsetText (minutes : Int) : Text :=
  Text.of (if minutes < 0 then "-" else "+") ++ padded 2 (minutes.natAbs / 60) ++
    Text.of ":" ++ padded 2 (minutes.natAbs % 60)

/-- The ISO form with a given separator between day and time; microseconds are left out when
    zero. -/
def textWith (separator : CodePoint) (t : DateTime) : Text :=
  t.date.isoText ++ [separator] ++ padded 2 t.hour ++ Text.of ":" ++ padded 2 t.minute ++
    Text.of ":" ++ padded 2 t.second ++
    (if t.microsecond = 0 then [] else Text.of "." ++ padded 6 t.microsecond) ++
    (match t.offset with | some m => offsetText m | none => [])

/-- The ISO form, `2024-01-31T09:30:00`. -/
def isoText (t : DateTime) : Text := textWith 'T' t

def quotedOffset (minutes : Int) : Text :=
  if minutes = 0 then Text.of "datetime.timezone.utc"
  else
    let days := minutes.fdiv 1440
    let seconds := minutes.fmod 1440 * 60
    let parts :=
      (if days = 0 then [] else [Text.of "days=" ++ Integer.signedText days]) ++
      (if seconds = 0 then [] else [Text.of "seconds=" ++ Integer.signedText seconds])
    Text.of "datetime.timezone(datetime.timedelta(" ++ Text.join (Text.of ", ") parts ++
      Text.of "))"

/-- The constructor form; seconds and microseconds are left out when zero. -/
def quotedText (t : DateTime) : Text :=
  let parts := [t.date.year, t.date.month, t.date.day, t.hour, t.minute] ++
    (if t.microsecond ≠ 0 then [t.second, t.microsecond]
     else if t.second ≠ 0 then [t.second] else [])
  let zone := match t.offset with
    | some m => [Text.of "tzinfo=" ++ quotedOffset m]
    | none => []
  Text.of "datetime.datetime(" ++
    Text.join (Text.of ", ") (parts.map Integer.natText ++ zone) ++ Text.of ")"

end DateTime

namespace CalendarFault

/-- What is said about a part out of range. -/
def message : CalendarFault → Text
  | .year n => Text.of "year " ++ Integer.natText n ++ Text.of " is out of range"
  | .month => Text.of "month must be in 1..12"
  | .day => Text.of "day is out of range for month"
  | .hour => Text.of "hour must be in 0..23"
  | .minute => Text.of "minute must be in 0..59"
  | .second => Text.of "second must be in 0..59"
  | .offset m =>
    let days := m.fdiv 1440
    let seconds := m.fmod 1440 * 60
    Text.of "offset must be a timedelta strictly between -timedelta(hours=24) and " ++
      Text.of "timedelta(hours=24), not datetime.timedelta(days=" ++ Integer.signedText days ++
      (if seconds = 0 then [] else Text.of ", seconds=" ++ Integer.signedText seconds) ++
      Text.of ")."

end CalendarFault

end TemplatedNotes
