/-!
# The calendar

Days of the years 1 to 9999 in the Gregorian calendar, extended to the time before its
introduction. A day has a number, counted from 1 January of year 1; `Date.ofNumber?` finds the day
of a number by taking off whole cycles of 400, 100, 4 and 1 years.
-/

namespace BucketStore.Time

def isLeap (year : Nat) : Bool :=
  year % 4 == 0 && (year % 100 != 0 || year % 400 == 0)

def daysInMonth (year month : Nat) : Nat :=
  match month with
  | 1 | 3 | 5 | 7 | 8 | 10 | 12 => 31
  | 4 | 6 | 9 | 11 => 30
  | 2 => if isLeap year then 29 else 28
  | _ => 0

/-- The number of days before the first of a month in its year. -/
def daysBeforeMonth (year month : Nat) : Nat :=
  ((List.range (month - 1)).map fun m => daysInMonth year (m + 1)).foldr (· + ·) 0

/-- The number of days before the first of January of a year. -/
def daysBeforeYear (year : Nat) : Nat :=
  (year - 1) * 365 + (year - 1) / 4 - (year - 1) / 100 + (year - 1) / 400

/-- The numbers of year, month and day of a day that exists. -/
def IsDate (year month day : Nat) : Prop :=
  1 ≤ year ∧ year ≤ 9999 ∧ 1 ≤ month ∧ month ≤ 12 ∧ 1 ≤ day ∧ day ≤ daysInMonth year month

instance (year month day : Nat) : Decidable (IsDate year month day) := by
  unfold IsDate; infer_instance

/-- A day of the years 1 to 9999. -/
structure Date where
  year : Nat
  month : Nat
  day : Nat
  exists_day : IsDate year month day
deriving DecidableEq

namespace Date

/-- The day with these numbers, if it exists. -/
def of? (year month day : Nat) : Option Date :=
  if h : IsDate year month day then some ⟨year, month, day, h⟩ else none

def first : Date :=
  ⟨1, 1, 1, by decide⟩

instance : Inhabited Date := ⟨first⟩

/-- The number of days since the first day. -/
def number (d : Date) : Nat :=
  daysBeforeYear d.year + daysBeforeMonth d.year d.month + (d.day - 1)

/-- The month and the day that follow `n` days of a year, from the given month on. -/
def monthAndDay (year : Nat) : List Nat → Nat → Option (Nat × Nat)
  | [], _ => none
  | month :: months, n =>
    if n < daysInMonth year month then some (month, n + 1)
    else monthAndDay year months (n - daysInMonth year month)

/-- The year of a day number and the days before it in that year. -/
def yearOfNumber (n : Nat) : Nat × Nat :=
  let centuries4 := n / 146097
  let n := n % 146097
  let centuries := min (n / 36524) 3
  let n := n - centuries * 36524
  let years4 := n / 1461
  let n := n % 1461
  let years := min (n / 365) 3
  (centuries4 * 400 + centuries * 100 + years4 * 4 + years + 1, n - years * 365)

/-- The day of a number, if it lies in the calendar. -/
def ofNumber? (n : Nat) : Option Date :=
  let (year, rest) := yearOfNumber n
  match monthAndDay year [1, 2, 3, 4, 5, 6, 7, 8, 9, 10, 11, 12] rest with
  | some (month, day) => of? year month day
  | none => none

/-- The day of the week, Monday being zero. -/
def weekday (d : Date) : Nat :=
  d.number % 7

end Date

end BucketStore.Time
