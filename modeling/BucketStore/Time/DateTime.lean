import BucketStore.Failure
import BucketStore.Time.Calendar

/-!
# Dates with a time of day

A date-time may state its offset from universal time; without one it is read as universal time.
`instant` counts the microseconds since the first instant of the calendar. The zero time, the first
instant itself, stands for an unknown time.
-/

namespace BucketStore.Time

/-- The microseconds of a day. -/
def dayLength : Nat := 86400 * 1000000

/-- A time of day, to the microsecond. -/
structure Clock where
  hour : Nat
  minute : Nat
  second : Nat
  microsecond : Nat
  in_range : hour < 24 ∧ minute < 60 ∧ second < 60 ∧ microsecond < 1000000
deriving DecidableEq

namespace Clock

/-- The time of day with these numbers, if there is one. -/
def of? (hour minute second microsecond : Nat) : Option Clock :=
  if h : hour < 24 ∧ minute < 60 ∧ second < 60 ∧ microsecond < 1000000 then
    some ⟨hour, minute, second, microsecond, h⟩
  else none

/-- The microseconds since midnight. -/
def number (c : Clock) : Nat :=
  ((c.hour * 60 + c.minute) * 60 + c.second) * 1000000 + c.microsecond

/-- The time of day that many microseconds after midnight. -/
def ofNumber (n : Nat) : Clock :=
  let n := n % dayLength
  ⟨n / 3600000000, n / 60000000 % 60, n / 1000000 % 60, n % 1000000, by
    have : n < dayLength := Nat.mod_lt _ (by decide)
    simp only [dayLength] at this
    omega⟩

instance : Inhabited Clock := ⟨ofNumber 0⟩

end Clock

/-- An offset from universal time, in microseconds east; it is shorter than a day. -/
structure Offset where
  microseconds : Int
  in_range : -(dayLength : Int) < microseconds ∧ microseconds < dayLength
deriving DecidableEq

namespace Offset

/-- The offset of that length, if it is shorter than a day. -/
def of? (microseconds : Int) : Option Offset :=
  if h : -(dayLength : Int) < microseconds ∧ microseconds < dayLength then
    some ⟨microseconds, h⟩
  else none

def utc : Offset :=
  ⟨0, by decide⟩

instance : Inhabited Offset := ⟨utc⟩

end Offset

/-- A date and a time of day, with or without an offset from universal time. -/
structure DateTime where
  date : Date
  clock : Clock
  offset? : Option Offset
deriving DecidableEq, Inhabited

namespace DateTime

/-- The date-time with these numbers, if it exists. -/
def of? (year month day hour minute second microsecond : Nat) (offset? : Option Offset) :
    Option DateTime := do
  let date ← Date.of? year month day
  let clock ← Clock.of? hour minute second microsecond
  return ⟨date, clock, offset?⟩

/-- The offset in microseconds, zero if none is stated. -/
def offset (t : DateTime) : Int :=
  match t.offset? with
  | some o => o.microseconds
  | none => 0

/-- The microseconds from the first instant of the calendar to this one. -/
def instant (t : DateTime) : Int :=
  (t.date.number * dayLength + t.clock.number : Nat) - t.offset

/-- The date-time of an instant in universal time, if it lies in the calendar. -/
def ofInstant? (n : Int) : Option DateTime :=
  match n with
  | .ofNat n => (Date.ofNumber? (n / dayLength)).map fun date => ⟨date, .ofNumber n, some .utc⟩
  | .negSucc _ => none

/-- The same instant in universal time; it may lie outside the calendar. -/
def toUtc (t : DateTime) : Result DateTime :=
  match ofInstant? t.instant with
  | some u => .ok u
  | none => .error .overflow

/-- The first instant of the calendar, which stands for an unknown time. -/
def zero : DateTime :=
  ⟨.first, .ofNumber 0, some .utc⟩

/-- Whether the time is unknown: it states an offset and denotes the first instant. -/
def isZero (t : DateTime) : Bool :=
  t.offset?.isSome && t.instant == 0

/-! ## Text -/

/-- A number in at least the given number of digits. -/
def padded (width n : Nat) : String :=
  let digits := Nat.toDigits 10 n
  String.ofList (List.replicate (width - digits.length) '0' ++ digits)

/-- A fraction of a second, if there is one. -/
def fractionText (microsecond : Nat) : String :=
  if microsecond = 0 then "" else "." ++ padded 6 microsecond

/-- An offset in hours and minutes, with its seconds and their fraction if there are any. -/
def offsetText (o : Offset) : String :=
  let n := o.microseconds.natAbs
  let seconds := n / 1000000 % 60
  let fraction := n % 1000000
  (if o.microseconds < 0 then "-" else "+") ++ padded 2 (n / 3600000000) ++ ":" ++
    padded 2 (n / 60000000 % 60) ++
    (if seconds = 0 ∧ fraction = 0 then "" else ":" ++ padded 2 seconds ++ fractionText fraction)

/-- The text of a date-time: date and time of day with a capital T between them, then the offset. -/
def text (t : DateTime) : String :=
  padded 4 t.date.year ++ "-" ++ padded 2 t.date.month ++ "-" ++ padded 2 t.date.day ++ "T" ++
    padded 2 t.clock.hour ++ ":" ++ padded 2 t.clock.minute ++ ":" ++ padded 2 t.clock.second ++
    fractionText t.clock.microsecond ++
    (match t.offset? with
      | some o => offsetText o
      | none => "")

end DateTime

end BucketStore.Time
