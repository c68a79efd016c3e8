import BucketStore.Text.Case
import BucketStore.Text.Digit
import BucketStore.Time.DateTime

/-!
# HTTP dates

The dates of HTTP headers: written in the layout of RFC 1123, and read in that of RFC 1123, RFC 850
and asctime. The reader works on words. It passes over the name of the day, takes day and month, and
year and time, in either order, and completes years of two digits: 69 to 99 belong to the
twentieth century and smaller ones to the twenty-first.
-/

namespace BucketStore.Time.HttpDate

open BucketStore.Text

/-! ## Names -/

/-- The names of the days, from Monday on. -/
def dayNames : List String :=
  ["Mon", "Tue", "Wed", "Thu", "Fri", "Sat", "Sun"]

def monthNames : List String :=
  ["Jan", "Feb", "Mar", "Apr", "May", "Jun", "Jul", "Aug", "Sep", "Oct", "Nov", "Dec"]

/-- The small forms of the short and the full names of the months. -/
def knownMonths : List String :=
  ["jan", "feb", "mar", "apr", "may", "jun", "jul", "aug", "sep", "oct", "nov", "dec", "january",
    "february", "march", "april", "may", "june", "july", "august", "september", "october",
    "november", "december"]

/-- The zones with a name; a number stands for hours and minutes, two digits each. -/
def zones : List (String × Int) :=
  [("UT", 0), ("UTC", 0), ("GMT", 0), ("Z", 0), ("AST", -400), ("ADT", -300), ("EST", -500),
    ("EDT", -400), ("CST", -600), ("CDT", -500), ("MST", -700), ("MDT", -600), ("PST", -800),
    ("PDT", -700)]

/-! ## Writing -/

/-- The name at a position of a list of names. -/
def nameAt (names : List String) (i : Nat) : String :=
  (names[i]?).getD ""

/-- A date-time of universal time in the layout of RFC 1123. -/
def render (t : DateTime) : String :=
  nameAt dayNames t.date.weekday ++ ", " ++ DateTime.padded 2 t.date.day ++ " " ++
    nameAt monthNames (t.date.month - 1) ++ " " ++ DateTime.padded 4 t.date.year ++ " " ++
    DateTime.padded 2 t.clock.hour ++ ":" ++ DateTime.padded 2 t.clock.minute ++ ":" ++
    DateTime.padded 2 t.clock.second ++ " GMT"

/-- The HTTP date of a date-time; its instant may lie outside the calendar. -/
def format (t : DateTime) : Result String :=
  t.toUtc.map render

/-! ## Words -/

abbrev Word := List Char

/-- The small form of a word. -/
def Word.lower (w : Word) : String :=
  Text.lower (.ofList w)

/-- Whether the word ends in a comma. -/
def Word.endsInComma (w : Word) : Bool :=
  w.getLast? == some ','

/-- The word without a comma at its end. -/
def Word.dropComma (w : Word) : Word :=
  if w.endsInComma then w.dropLast else w

def Word.int? (w : Word) : Option Int :=
  readInt? (.ofList w)

/-- Whether the word is the short name of a day, in whatever case. -/
def Word.isDayName (w : Word) : Bool :=
  dayNames.any fun name => Text.lower name == w.lower

/-- Passes over the name of the day: a first word that is one or ends in a comma, or the part of
the first word up to its last comma. -/
def dropDayName : List Word → List Word
  | [] => []
  | w :: ws =>
    if w.endsInComma || w.isDayName then ws
    else ((splitAt ',' w).getLastD w) :: ws

/-- Takes the date of RFC 850, one word with hyphens, apart. -/
def splitHyphens : List Word → List Word
  | [date, time, zone] =>
    match splitAt '-' date with
    | [d, m, y] => [d, m, y, time, zone]
    | _ => [date, time, zone]
  | ws => ws

/-- Cuts a word before a sign that is not its first character. -/
def cutAtSign (w : Word) : Option (Word × Word) :=
  let sign := if w.contains '+' then '+' else '-'
  let before := w.takeWhile fun c => c != sign
  let after := w.dropWhile fun c => c != sign
  if before.isEmpty || after.isEmpty then none else some (before, after)

/-- Completes four words with a zone: the signed end of the last one, else nothing. -/
def completeZone : List Word → List Word
  | [d, m, y, time] =>
    match cutAtSign time with
    | some (time, zone) => [d, m, y, time, zone]
    | none => [d, m, y, time, []]
  | ws => ws

/-! ## Reading -/

/-- The numbers of a date, before it is known whether the date exists. The offset is in seconds. -/
structure Fields where
  year : Int
  month : Nat
  day : Int
  hour : Int
  minute : Int
  second : Int
  offset? : Option Int
deriving DecidableEq

/-- The number of a month from its name. -/
def monthOf? (name : String) : Option Nat :=
  (knownMonths.idxOf? name).map fun i => i % 12 + 1

/-- Day and month, in either order. -/
def dayAndMonth? (d m : Word) : Option (Word × Nat) :=
  match monthOf? m.lower with
  | some month => some (d, month)
  | none => (monthOf? d.lower).map fun month => (m.lower.toList, month)

/-- The parts of a time of day: two or three between colons, or else between points. -/
def timeParts? (time : Word) : Option (Word × Word × Word) :=
  match splitAt ':' time with
  | [h, m] => some (h, m, ['0'])
  | [h, m, s] => some (h, m, s)
  | [whole] =>
    match splitAt '.' whole with
    | [h, m] => some (h, m, ['0'])
    | [h, m, s] => some (h, m, s)
    | _ => none
  | _ => none

/-- Completes a year of two digits. -/
def completeYear (y : Int) : Int :=
  if y < 100 then if 68 < y then y + 1900 else y + 2000 else y

/-- The seconds of an offset whose last two digits are minutes. -/
def offsetSeconds (n : Int) : Int :=
  let length : Int := (n.natAbs / 100 * 3600 + n.natAbs % 100 * 60 : Nat)
  if n < 0 then -length else length

/-- The offset of a zone: a known name or a number, else none is stated. -/
def zoneOffset? (zone : Word) : Option Int :=
  let name := upper (.ofList zone)
  match zones.lookup name with
  | some n => some (offsetSeconds n)
  | none => (readInt? name).map offsetSeconds

/-- Whether the word has a colon after its first character. -/
def isTime (w : Word) : Bool :=
  (w.drop 1).contains ':' && !(w.head? == some ':')

/-- The numbers that five words denote: day, month, year, time and zone. Year and time may change
places, and a year that does not begin with a digit changes places with the zone. -/
def readWords? (d m y time zone : Word) : Option Fields := do
  if d.isEmpty || m.isEmpty || y.isEmpty then none
  let (d, month) ← dayAndMonth? d m
  let d := d.dropComma
  let (y, time) := if isTime y then (time, y) else (y, time)
  let y := y.dropComma
  let first ← y.head?
  let (y, zone) := if isAnyDigit first then (y, zone) else (zone, y)
  let (h, mi, s) ← timeParts? time.dropComma
  let year ← y.int?
  let day ← d.int?
  let hour ← h.int?
  let minute ← mi.int?
  let second ← s.int?
  return ⟨completeYear year, month, day, hour, minute, second, zoneOffset? zone⟩

def fields? (s : String) : Option Fields :=
  match (completeZone (splitHyphens (dropDayName (words s.toList)))).take 5 with
  | [d, m, y, time, zone] => readWords? d m y time zone
  | _ => none

/-- Whether a number lies outside the range of 32-bit integers. -/
def exceedsWord (n : Int) : Bool :=
  decide (n < -2147483648) || decide (2147483647 < n)

/-- Whether a length in seconds comes to more than 999999999 days. -/
def exceedsSpan (seconds : Int) : Bool :=
  let days := seconds.fdiv 86400
  decide (days < -999999999) || decide (999999999 < days)

/-- The natural number equal to an integer, if there is one. -/
def natural? : Int → Option Nat
  | .ofNat n => some n
  | .negSucc _ => none

/-- The date-time of these numbers, as stated; none if it does not exist. A number that is out of
all proportion is an overflow. -/
def Fields.dateTime? (f : Fields) : Result (Option DateTime) :=
  if f.offset?.any exceedsSpan then .error .overflow
  else
    let offset? := f.offset?.map fun seconds => Offset.of? (seconds * 1000000)
    if offset? = some none then .ok none
    else if [f.year, f.day, f.hour, f.minute, f.second].any exceedsWord then .error .overflow
    else .ok do
      let year ← natural? f.year
      let day ← natural? f.day
      let hour ← natural? f.hour
      let minute ← natural? f.minute
      let second ← natural? f.second
      DateTime.of? year f.month day hour minute second 0 (offset?.getD (some .utc))

/-- Reads an HTTP date as universal time; the zero time if it is none. -/
def parse (s : String) : Result DateTime :=
  match fields? (trim s) with
  | none => .ok .zero
  | some f => do
    match ← f.dateTime? with
    | some t => t.toUtc
    | none => .ok .zero

end BucketStore.Time.HttpDate
