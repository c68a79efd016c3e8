import BucketStore.Proofs.Text.Lemmas.Numerals
import BucketStore.Time.HttpDate

/-!
# How times are written

The written forms that the readers of times are to understand: the time stamps of RFC 3339, with a
fraction of any length, and the three layouts of HTTP dates.
-/

namespace BucketStore.Time

open BucketStore.Text

/-! ## Offsets -/

/-- An offset of whole minutes. Both signs stand before no hours and no minutes. -/
structure SignedOffset where
  west : Bool
  hours : Nat
  minutes : Nat
  in_range : hours < 24 ∧ minutes < 60

namespace SignedOffset

/-- The seconds east of universal time. -/
def seconds (o : SignedOffset) : Int :=
  let length : Int := (o.hours * 3600 + o.minutes * 60 : Nat)
  if o.west then -length else length

def offset (o : SignedOffset) : Offset where
  microseconds := o.seconds * 1000000
  in_range := by
    have hrange := o.in_range
    simp only [seconds, dayLength]
    split <;> omega

/-- The sign, the hours and the minutes. -/
def text (separator : String) (o : SignedOffset) : String :=
  (if o.west then "-" else "+") ++ DateTime.padded 2 o.hours ++ separator ++
    DateTime.padded 2 o.minutes

end SignedOffset

/-! ## RFC 3339 -/

namespace Rfc3339

/-- A zone: universal time or a signed offset. -/
inductive Zone where
  | universal
  | signed (o : SignedOffset)

namespace Zone

def offset : Zone → Offset
  | universal => .utc
  | signed o => o.offset

def text : Zone → String
  | universal => "Z"
  | signed o => o.text ":"

end Zone

/-- The first six digits of a fraction, filled up with zeros. -/
def microsecondOf (fraction : Numeral) : Nat :=
  Nat.ofDigitChars 10 ((fraction.digits ++ List.replicate 6 '0').take 6) 0

theorem isDigit_of_mem_filled {fraction : Numeral} {c : Char}
    (hc : c ∈ fraction.digits ++ List.replicate 6 '0') : c.isDigit = true := by
  rcases List.mem_append.mp hc with hc | hc
  · exact fraction.decimal c hc
  · rw [List.eq_of_mem_replicate hc]
    rfl

theorem microsecondOf_lt (fraction : Numeral) : microsecondOf fraction < 1000000 := by
  have hdigits : ∀ c ∈ (fraction.digits ++ List.replicate 6 '0').take 6, c.isDigit = true :=
    fun c hc => isDigit_of_mem_filled (List.mem_of_mem_take hc)
  have hlt := ofDigitChars_lt hdigits
  have hlength : ((fraction.digits ++ List.replicate 6 '0').take 6).length = 6 := by
    rw [List.length_take, List.length_append, List.length_replicate]
    omega
  rwa [hlength] at hlt

/-- Digits from the seventh on are dropped, and nothing is rounded. -/
theorem microsecondOf_eq_div (fraction : Numeral) :
    microsecondOf fraction = fraction.value * 1000000 / 10 ^ fraction.digits.length := by
  rw [microsecondOf, ofDigitChars_take fun c hc => isDigit_of_mem_filled hc, Nat.ofDigitChars_append,
    Nat.ofDigitChars_replicate_zero, List.length_append, List.length_replicate,
    Nat.add_sub_cancel, Numeral.value, Nat.mul_comm]

/-- A time stamp: a day, a time of day to the second, the digits of a fraction of the second if it
has one, and a zone. -/
structure Stamp where
  date : Date
  hour : Nat
  minute : Nat
  second : Nat
  in_range : hour < 24 ∧ minute < 60 ∧ second < 60
  fraction? : Option Numeral
  zone : Zone

namespace Stamp

def microsecond (s : Stamp) : Nat :=
  match s.fraction? with
  | some fraction => microsecondOf fraction
  | none => 0

def fractionText (s : Stamp) : String :=
  match s.fraction? with
  | some fraction => "." ++ fraction.text
  | none => ""

def text (s : Stamp) : String :=
  DateTime.padded 4 s.date.year ++ "-" ++ DateTime.padded 2 s.date.month ++ "-" ++
    DateTime.padded 2 s.date.day ++ "T" ++ DateTime.padded 2 s.hour ++ ":" ++
    DateTime.padded 2 s.minute ++ ":" ++ DateTime.padded 2 s.second ++ s.fractionText ++
    s.zone.text

theorem microsecond_lt (s : Stamp) : s.microsecond < 1000000 := by
  rw [microsecond]
  split
  · exact microsecondOf_lt _
  · decide

/-- The date-time that a time stamp denotes. -/
def dateTime (s : Stamp) : DateTime where
  date := s.date
  clock := ⟨s.hour, s.minute, s.second, s.microsecond, s.in_range.1, s.in_range.2.1, s.in_range.2.2,
    s.microsecond_lt⟩
  offset? := some s.zone.offset

/-- The microseconds from the first instant of the calendar to the one that is written. -/
def instant (s : Stamp) : Int :=
  (((s.date.number * 24 + s.hour) * 60 + s.minute) * 60 + s.second) * 1000000 + s.microsecond -
    s.zone.offset.microseconds

end Stamp

end Rfc3339

/-! ## HTTP dates -/

namespace HttpDate

/-- The full names of the days, from Monday on. -/
def longDayNames : List String :=
  ["Monday", "Tuesday", "Wednesday", "Thursday", "Friday", "Saturday", "Sunday"]

def monthName (t : DateTime) : String :=
  nameAt monthNames (t.date.month - 1)

def timeText (t : DateTime) : String :=
  DateTime.padded 2 t.clock.hour ++ ":" ++ DateTime.padded 2 t.clock.minute ++ ":" ++
    DateTime.padded 2 t.clock.second

/-- The layout of RFC 1123, with the given name of the day and zone. -/
def rfc1123 (dayName zone : String) (t : DateTime) : String :=
  dayName ++ ", " ++ DateTime.padded 2 t.date.day ++ " " ++ monthName t ++ " " ++
    DateTime.padded 4 t.date.year ++ " " ++ timeText t ++ " " ++ zone

/-- The layout of RFC 850, with a year of two digits. -/
def rfc850 (dayName : String) (t : DateTime) : String :=
  dayName ++ ", " ++ DateTime.padded 2 t.date.day ++ "-" ++ monthName t ++ "-" ++
    DateTime.padded 2 (t.date.year % 100) ++ " " ++ timeText t ++ " GMT"

/-- A day of the month in two places, with a space in front if it has one digit. -/
def spacedDay (day : Nat) : String :=
  if day < 10 then " " ++ DateTime.padded 1 day else DateTime.padded 2 day

/-- The layout of asctime, which states no zone. -/
def asctime (dayName : String) (t : DateTime) : String :=
  dayName ++ " " ++ monthName t ++ " " ++ spacedDay t.date.day ++ " " ++ timeText t ++ " " ++
    DateTime.padded 4 t.date.year

end HttpDate

end BucketStore.Time
