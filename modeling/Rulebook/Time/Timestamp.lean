import Rulebook.Number.Shortest

/-!
# Instants

Dates are those of the Gregorian calendar carried back and forth without end, over the years from
-262143 to 262142. A date is kept as year, month and day; the day after and the day before are the
only steps anything here needs.

An instant is a date and a time of day in UTC, to the nanosecond, as a text tells it. The last
second of a minute may be a sixtieth, a leap second. `render` writes the one canonical text: the
date, a `T`, the time, a fraction of three, six or nine digits where one is needed, and `Z`; a year
outside 0 to 9999 has a sign and at least four digits.

A moment is what a program holds in memory. It has no sixtieth second: the nanoseconds of a leap
second go on from a thousand million, and nothing ties them to the last second of a minute. The text
of a moment tells the second that follows instead (`Moment.timestamp`), so a moment that is not
`Plain` shares its text with another one.
-/

namespace Rulebook.Time

/-- A year divisible by four, but of the centuries only every fourth. -/
def isLeapYear (year : Int) : Bool :=
  year % 4 == 0 && (year % 100 != 0 || year % 400 == 0)

/-- The number of days of a month. -/
def daysInMonth (year : Int) (month : Nat) : Nat :=
  if month = 2 then (if isLeapYear year then 29 else 28)
  else if month = 4 ∨ month = 6 ∨ month = 9 ∨ month = 11 then 30
  else 31

/-- The first and the last year. -/
def minYear : Int := -262143

/-- The last year. -/
def maxYear : Int := 262142

/-- The year, month and day of some date. -/
def IsDate (year : Int) (month day : Nat) : Prop :=
  minYear ≤ year ∧ year ≤ maxYear ∧ 1 ≤ month ∧ month ≤ 12 ∧ 1 ≤ day ∧ day ≤ daysInMonth year month

instance (y : Int) (m d : Nat) : Decidable (IsDate y m d) := by
  unfold IsDate; infer_instance

/-- A date. -/
structure Date where
  year : Int
  month : Nat
  day : Nat
  isDate : IsDate year month day
deriving DecidableEq

namespace Date

/-- The date of a year, month and day, if there is one. -/
def of? (year : Int) (month day : Nat) : Option Date :=
  if h : IsDate year month day then some ⟨year, month, day, h⟩ else none

/-- The next day; after the last day of all there is none. -/
def next? (d : Date) : Option Date :=
  if d.day < daysInMonth d.year d.month then of? d.year d.month (d.day + 1)
  else if d.month < 12 then of? d.year (d.month + 1) 1
  else of? (d.year + 1) 1 1

/-- The day before; before the first day of all there is none. -/
def previous? (d : Date) : Option Date :=
  if 1 < d.day then of? d.year d.month (d.day - 1)
  else if 1 < d.month then of? d.year (d.month - 1) (daysInMonth d.year (d.month - 1))
  else of? (d.year - 1) 12 31

end Date

/-- The hour, minute, second and nanosecond that the text of some time of day tells. -/
def IsClock (hour minute second nano : Nat) : Prop :=
  hour ≤ 23 ∧ minute ≤ 59 ∧ second ≤ 60 ∧ nano < 1000000000

instance (h m s n : Nat) : Decidable (IsClock h m s n) := by
  unfold IsClock; infer_instance

/-- An instant in UTC, as a text tells it. -/
structure Timestamp where
  date : Date
  hour : Nat
  minute : Nat
  second : Nat
  nano : Nat
  isClock : IsClock hour minute second nano
deriving DecidableEq

/-- The two digits of a number below a hundred. -/
def twoDigits (n : Nat) : List Char :=
  [Nat.digitChar (n / 10), Nat.digitChar (n % 10)]

/-- A number in at least `width` digits. -/
def padded (width n : Nat) : List Char :=
  let digits := Decimal.digitsOf n
  List.replicate (width - digits.length) '0' ++ digits

/-- A year: four digits from 0 to 9999, otherwise a sign and at least four digits. -/
def renderYear (year : Int) : List Char :=
  if 0 ≤ year ∧ year ≤ 9999 then padded 4 year.toNat
  else (if year < 0 then '-' else '+') :: padded 4 year.natAbs

/-- The fraction of a second, in the fewest of 0, 3, 6 and 9 digits that lose nothing. -/
def renderFraction (nano : Nat) : List Char :=
  if nano = 0 then []
  else if nano % 1000000 = 0 then '.' :: padded 3 (nano / 1000000)
  else if nano % 1000 = 0 then '.' :: padded 6 (nano / 1000)
  else '.' :: padded 9 nano

namespace Timestamp

/-- The characters of an instant. -/
def renderChars (t : Timestamp) : List Char :=
  renderYear t.date.year ++ '-' :: (twoDigits t.date.month ++ '-' :: (twoDigits t.date.day ++
    'T' :: (twoDigits t.hour ++ ':' :: (twoDigits t.minute ++ ':' :: (twoDigits t.second ++
      (renderFraction t.nano ++ ['Z']))))))

/-- The canonical text of an instant. -/
def render (t : Timestamp) : String :=
  String.ofList t.renderChars

/-- The fields in the order that compares instants. -/
def key (t : Timestamp) : Int × Nat × Nat × Nat × Nat × Nat × Nat :=
  (t.date.year, t.date.month, t.date.day, t.hour, t.minute, t.second, t.nano)

/-- Whether the first instant is not after the second. -/
def atMost (s t : Timestamp) : Bool :=
  let (y, mo, d, h, mi, sec, n) := s.key
  let (y', mo', d', h', mi', sec', n') := t.key
  y < y' || y == y' && (mo < mo' || mo == mo' && (d < d' || d == d' && (h < h' || h == h' &&
    (mi < mi' || mi == mi' && (sec < sec' || sec == sec' && n ≤ n')))))

end Timestamp

/-- The hour, minute, second and nanosecond of some moment. -/
def IsReading (hour minute second nano : Nat) : Prop :=
  hour ≤ 23 ∧ minute ≤ 59 ∧ second ≤ 59 ∧ nano < 2000000000

instance (h m s n : Nat) : Decidable (IsReading h m s n) := by
  unfold IsReading; infer_instance

/-- A moment in UTC, as a program holds it. -/
structure Moment where
  date : Date
  hour : Nat
  minute : Nat
  second : Nat
  nano : Nat
  isReading : IsReading hour minute second nano
deriving DecidableEq

/-- The instant that the text of a moment tells. -/
def Moment.timestamp (m : Moment) : Timestamp :=
  ⟨m.date, m.hour, m.minute, m.second + m.nano / 1000000000, m.nano % 1000000000, by
    have h := m.isReading
    unfold IsReading at h
    unfold IsClock
    omega⟩

/-- A leap second, if it is one, follows the last second of a minute. -/
def Moment.Plain (m : Moment) : Prop :=
  m.nano < 1000000000 ∨ m.second = 59

instance (m : Moment) : Decidable m.Plain := by
  unfold Moment.Plain; infer_instance

/-- The moment at which an instant is held: the sixtieth second is the last one going on. -/
def Timestamp.moment (t : Timestamp) : Moment :=
  ⟨t.date, t.hour, t.minute, t.second - t.second / 60, t.nano + t.second / 60 * 1000000000, by
    have h := t.isClock
    unfold IsClock at h
    unfold IsReading
    omega⟩

end Rulebook.Time
