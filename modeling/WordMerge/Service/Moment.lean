import WordMerge.Text.Blank
import WordMerge.Text.Unsigned

namespace WordMerge

/-- A moment as it is spelled. -/
structure Moment where
  /-- The year. -/
  year : Nat
  /-- The month, where January has the number zero. -/
  month : Nat
  /-- The day of the month, where the first has the number one. -/
  day : Nat
  /-- The hour. -/
  hour : Nat
  /-- The minute. -/
  minute : Nat
  /-- The second. -/
  second : Nat
  /-- The day of the week, where Monday has the number zero. -/
  weekday : Nat
  deriving DecidableEq, Repr

namespace Moment

/-- Whether a year has a day more in February. -/
def isLeap (year : Nat) : Bool :=
  year % 4 == 0 && (year % 100 != 0 || year % 400 == 0)

/-- The number of days of each month. -/
def monthLengths (year : Nat) : List Nat :=
  [31, if isLeap year then 29 else 28, 31, 30, 31, 30, 31, 31, 30, 31, 30, 31]

/-- The number of days before a year. -/
def daysBeforeYear (year : Nat) : Nat :=
  (year - 1) * 365 + (year - 1) / 4 - (year - 1) / 100 + (year - 1) / 400

/-- The number of days between the start of the year 1970 and a moment. -/
def days (moment : Moment) : Nat :=
  daysBeforeYear moment.year - daysBeforeYear 1970
    + ((monthLengths moment.year).take moment.month).foldl (· + ·) 0 + (moment.day - 1)

/-- The number of seconds between the start of the year 1970 and a moment. -/
def seconds (moment : Moment) : Nat :=
  ((moment.days * 24 + moment.hour) * 60 + moment.minute) * 60 + moment.second

/-- Whether a moment is in the calendar. The first day of 1970 was a Thursday. -/
def isValid (moment : Moment) : Bool :=
  1970 ≤ moment.year && 1 ≤ moment.day
    && ((monthLengths moment.year)[moment.month]?.any (moment.day ≤ ·))
    && moment.hour < 24 && moment.minute < 60 && moment.second < 60
    && (moment.days + 3) % 7 == moment.weekday

/-- The months in short. -/
def months : List Text :=
  ["Jan", "Feb", "Mar", "Apr", "May", "Jun", "Jul", "Aug", "Sep", "Oct", "Nov", "Dec"].map
    String.toList

/-- The days of the week. -/
def weekdays : List Text :=
  ["Monday", "Tuesday", "Wednesday", "Thursday", "Friday", "Saturday", "Sunday"].map String.toList

/-- A piece of a text, by the place where it starts and its length. -/
def piece (s : Text) (place length : Nat) : Text :=
  (s.drop place).take length

/-- The place of a name in a list. -/
def place? (names : List Text) (name : Text) : Option Nat :=
  let place := names.idxOf name
  if place < names.length then some place else none

/-- The day of the week that a short name tells. -/
def weekday? (name : Text) : Option Nat :=
  place? (weekdays.map (·.take 3)) name

/-- Hour, minute and second in a text of the form `08:49:37`. -/
def time? (s : Text) : Option (Nat × Nat × Nat) := do
  guard (s.length = 8 ∧ piece s 2 1 = [':'] ∧ piece s 5 1 = [':'])
  return (← Text.digits? 10 (piece s 0 2), ← Text.digits? 10 (piece s 3 2),
    ← Text.digits? 10 (piece s 6 2))

/-- A moment of the form `Sun, 06 Nov 1994 08:49:37 GMT`. -/
def ofUsual? (s : Text) : Option Moment := do
  guard (s.length = 29 ∧ piece s 3 2 = ", ".toList ∧ piece s 7 1 = [' '] ∧ piece s 11 1 = [' ']
    ∧ piece s 16 1 = [' '] ∧ piece s 25 4 = " GMT".toList)
  let (hour, minute, second) ← time? (piece s 17 8)
  return { hour, minute, second
           weekday := ← weekday? (piece s 0 3)
           day := ← Text.digits? 10 (piece s 5 2)
           month := ← place? months (piece s 8 3)
           year := ← Text.digits? 10 (piece s 12 4) }

/-- A moment of the form `Sunday, 06-Nov-94 08:49:37 GMT`. The years from 70 are those of the last
century. Any character may stand behind the year. -/
def ofLong? (s : Text) : Option Moment := do
  let name := s.takeWhile (· != ',')
  let rest := s.drop (name.length + 2)
  guard (piece s name.length 2 = ", ".toList ∧ rest.length = 22 ∧ piece rest 2 1 = ['-']
    ∧ piece rest 6 1 = ['-'] ∧ piece rest 18 4 = " GMT".toList)
  let (hour, minute, second) ← time? (piece rest 10 8)
  let year ← Text.digits? 10 (piece rest 7 2)
  return { hour, minute, second
           weekday := ← place? weekdays name
           day := ← Text.digits? 10 (piece rest 0 2)
           month := ← place? months (piece rest 3 3)
           year := if year < 70 then 2000 + year else 1900 + year }

/-- A moment of the form `Sun Nov  6 08:49:37 1994`. -/
def ofBare? (s : Text) : Option Moment := do
  guard (s.length = 24 ∧ piece s 3 1 = [' '] ∧ piece s 7 1 = [' '] ∧ piece s 10 1 = [' ']
    ∧ piece s 19 1 = [' '])
  let (hour, minute, second) ← time? (piece s 11 8)
  return { hour, minute, second
           weekday := ← weekday? (piece s 0 3)
           day := ← Text.digits? 10 (if piece s 8 1 = [' '] then piece s 9 1 else piece s 8 2)
           month := ← place? months (piece s 4 3)
           year := ← Text.digits? 10 (piece s 20 4) }

/-- The moment that a text in one of the three spellings stands for, if its date is in the calendar
and falls on its day of the week. -/
def ofText? (s : Text) : Option Moment :=
  let s := Text.trim s
  ((ofUsual? s).or ((ofLong? s).or (ofBare? s))).filter isValid

example : (ofText? "Sun, 06 Nov 1994 08:49:37 GMT".toList).map seconds = some 784111777 := by decide
example : (ofText? "Sunday, 06-Nov-94 08:49:37 GMT".toList).map seconds = some 784111777 := by
  decide
example : (ofText? "Sun Nov  6 08:49:37 1994".toList).map seconds = some 784111777 := by decide
example : ofText? "Mon, 06 Nov 1994 08:49:37 GMT".toList = none := by decide
example : ofText? "Sun, 31 Nov 1994 08:49:37 GMT".toList = none := by decide

end Moment

end WordMerge
