import DocMarkup.Number.Read

/-!
# Dates and times

Days of the Gregorian calendar from the year 1 on, and times of day with or without a distance from
universal time.

Main definitions:

- {lit}`Date`, {lit}`DateTime`: a day, and a moment of a day.
- {lit}`Date.isValid`, {lit}`DateTime.isValid`: whether the fields are in their ranges.
- {lit}`Date.text`, {lit}`DateTime.text`: as written.
- {lit}`DateTime.same`: whether two moments are equal.
-/

namespace DocMarkup

/-- A day. -/
structure Date where
  year : Nat
  month : Nat
  day : Nat
  deriving DecidableEq

/-- A moment of a day, with its distance from universal time in minutes when that is known. -/
structure DateTime where
  date : Date
  hour : Nat
  minute : Nat
  second : Nat
  microsecond : Nat
  offset : Option Int
  deriving DecidableEq

/-- A number with zeros in front up to a width. -/
def padded (width n : Nat) : Text :=
  let digits := Text.ofNat n
  List.replicate (width - digits.length) '0' ++ digits

namespace Date

/-- Whether a year has a leap day. -/
def isLeap (year : Nat) : Bool := year % 4 == 0 && (year % 100 != 0 || year % 400 == 0)

/-- The number of days of each month. -/
def monthLengths (year : Nat) : List Nat :=
  [31, if isLeap year then 29 else 28, 31, 30, 31, 30, 31, 31, 30, 31, 30, 31]

/-- Whether a day exists. -/
def isValid (d : Date) : Bool :=
  1 ≤ d.year && 1 ≤ d.month && 1 ≤ d.day && d.day ≤ (monthLengths d.year).getD (d.month - 1) 0

/-- The number of days from the beginning of the year 1 to a day. -/
def ordinal (d : Date) : Nat :=
  let y := d.year - 1
  y * 365 + y / 4 - y / 100 + y / 400 + ((monthLengths d.year).take (d.month - 1)).foldl Nat.add 0 + d.day

/-- A day as written: year, month and day. -/
def text (d : Date) : Text :=
  padded 4 d.year ++ '-' :: padded 2 d.month ++ '-' :: padded 2 d.day

end Date

namespace DateTime

/-- Whether a moment exists. -/
def isValid (t : DateTime) : Bool :=
  t.date.isValid && t.hour < 24 && t.minute < 60 && t.second < 60 &&
    (t.offset.all fun offset => offset.natAbs < 1440)

/-- The distance from universal time as written. -/
def offsetText (offset : Int) : Text :=
  (if offset < 0 then '-' else '+') :: padded 2 (offset.natAbs / 60) ++
    ':' :: padded 2 (offset.natAbs % 60)

/-- A moment as written, with a given character between day and time. -/
def text (separator : Char) (t : DateTime) : Text :=
  t.date.text ++ separator :: padded 2 t.hour ++ ':' :: padded 2 t.minute ++ ':' ::
    padded 2 t.second ++
    (if t.microsecond = 0 then [] else '.' :: padded 6 t.microsecond) ++
    (t.offset.map offsetText).getD []

/-- The microseconds from the beginning of the year 1 to a moment, by universal time if it is
known. -/
def instant (t : DateTime) : Int :=
  let minutes : Int := (t.date.ordinal * 24 + t.hour) * 60 + t.minute - t.offset.getD 0
  (minutes * 60 + t.second) * 1000000 + t.microsecond

/-- Whether two moments are equal; one by universal time is never equal to one without it. -/
def same (s t : DateTime) : Bool := s.offset.isSome == t.offset.isSome && s.instant == t.instant

end DateTime
end DocMarkup
