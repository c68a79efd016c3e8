import BucketStore.Text.Digit
import BucketStore.Time.DateTime

/-!
# Date-times in RFC 3339 layout

Three layouts: whole seconds with a zone, a fraction with a zone, and a fraction with the letter Z
in either case. A reader takes a prefix field by field and accepts if nothing is left. Digits of
every script stand for a number except in the places where the first digit is limited and in the
fraction.
-/

namespace BucketStore.Time.Rfc3339

open BucketStore.Text

/-- The value of an ASCII digit between two bounds. -/
def digitIn? (low high : Nat) (c : Char) : Option Nat :=
  if c.isDigit ∧ low ≤ c.toNat - 48 ∧ c.toNat - 48 ≤ high then some (c.toNat - 48) else none

/-- Two digits, each accepted by a reader of its own. -/
def two (first second : Char → Option Nat) : List Char → Option (Nat × List Char)
  | a :: b :: cs => do
    let m ← first a
    let n ← second b
    return (10 * m + n, cs)
  | _ => none

def one (digit : Char → Option Nat) : List Char → Option (Nat × List Char)
  | a :: cs => (digit a).map fun n => (n, cs)
  | [] => none

/-- The first of several readers that accepts. -/
def firstOf (readers : List (List Char → Option (Nat × List Char))) (cs : List Char) :
    Option (Nat × List Char) :=
  readers.findSome? fun reader => reader cs

/-- A year of four digits. -/
def year (cs : List Char) : Option (Nat × List Char) := do
  let (m, cs) ← two decimalDigit? decimalDigit? cs
  let (n, cs) ← two decimalDigit? decimalDigit? cs
  return (100 * m + n, cs)

/-- A month, 1 to 12. -/
def month : List Char → Option (Nat × List Char) :=
  firstOf [two (digitIn? 1 1) (digitIn? 0 2), two (digitIn? 0 0) (digitIn? 1 9), one (digitIn? 1 9)]

/-- A digit after a space. -/
def spaced : List Char → Option (Nat × List Char)
  | ' ' :: cs => one (digitIn? 1 9) cs
  | _ => none

/-- A day of the month, 1 to 31. -/
def day : List Char → Option (Nat × List Char) :=
  firstOf [two (digitIn? 3 3) (digitIn? 0 1), two (digitIn? 1 2) decimalDigit?,
    two (digitIn? 0 0) (digitIn? 1 9), one (digitIn? 1 9), spaced]

/-- An hour, 0 to 23. -/
def hour : List Char → Option (Nat × List Char) :=
  firstOf [two (digitIn? 2 2) (digitIn? 0 3), two (digitIn? 0 1) decimalDigit?, one decimalDigit?]

/-- A minute, 0 to 59. -/
def minute : List Char → Option (Nat × List Char) :=
  firstOf [two (digitIn? 0 5) decimalDigit?, one decimalDigit?]

/-- A second, 0 to 61. -/
def second : List Char → Option (Nat × List Char) :=
  firstOf [two (digitIn? 6 6) (digitIn? 0 1), two (digitIn? 0 5) decimalDigit?, one decimalDigit?]

/-- A character, in either case if it is a letter. -/
def letter (c : Char) : List Char → Option (List Char)
  | d :: cs => if d = c ∨ d = c.toLower then some cs else none
  | [] => none

/-- Up to six digits at the front, and what follows them. -/
def upToSix (digit : Char → Option Nat) (cs : List Char) : List Nat × List Char :=
  let ds := ((cs.take 6).takeWhile fun c => (digit c).isSome)
  (ds.filterMap digit, cs.drop ds.length)

/-- The digits of a fraction as millionths. -/
def millionths (ds : List Nat) : Nat :=
  ofDigits (ds ++ List.replicate (6 - ds.length) 0)

/-- A fraction of one to six ASCII digits. -/
def fraction (cs : List Char) : Option (Nat × List Char) :=
  let (ds, rest) := upToSix (digitIn? 0 9) cs
  if ds.isEmpty then none else some (millionths ds, rest)

/-- Drops a colon at the front and says whether there was one. -/
def colon : List Char → Bool × List Char
  | ':' :: cs => (true, cs)
  | cs => (false, cs)

/-- The fraction of an offset's seconds, if there is one. -/
def offsetFraction : List Char → Nat × List Char
  | '.' :: cs =>
    let (ds, rest) := upToSix decimalDigit? cs
    if ds.isEmpty then (0, '.' :: cs) else (millionths ds, rest)
  | cs => (0, cs)

/-- The length of an offset in microseconds, without its sign. The seconds are optional; a colon
stands before both minutes and seconds or before neither. -/
def offsetLength (cs : List Char) : Option (Nat × List Char) := do
  let (h, cs) ← two decimalDigit? decimalDigit? cs
  let (colonBefore, cs) := colon cs
  let (m, cs) ← two (digitIn? 0 5) decimalDigit? cs
  let (colonAfter, rest) := colon cs
  match two (digitIn? 0 5) decimalDigit? rest with
  | none => return ((h * 60 + m) * 60000000, cs)
  | some (s, rest) =>
    if colonBefore = colonAfter then
      let (f, rest) := offsetFraction rest
      return (((h * 60 + m) * 60 + s) * 1000000 + f, rest)
    else none

/-- A zone: the capital letter Z or a signed offset. -/
def zone : List Char → Option (Int × List Char)
  | 'Z' :: cs => some (0, cs)
  | '+' :: cs => (offsetLength cs).map fun (n, rest) => ((n : Int), rest)
  | '-' :: cs => (offsetLength cs).map fun (n, rest) => (-(n : Int), rest)
  | _ => none

/-- The numbers of a date and a time of day to the second. -/
structure Seconds where
  year : Nat
  month : Nat
  day : Nat
  hour : Nat
  minute : Nat
  second : Nat
deriving DecidableEq

/-- The part that the layouts share. -/
def seconds (cs : List Char) : Option (Seconds × List Char) := do
  let (y, cs) ← year cs
  let cs ← letter '-' cs
  let (mo, cs) ← month cs
  let cs ← letter '-' cs
  let (d, cs) ← day cs
  let cs ← letter 'T' cs
  let (h, cs) ← hour cs
  let cs ← letter ':' cs
  let (mi, cs) ← minute cs
  let cs ← letter ':' cs
  let (s, cs) ← second cs
  return (⟨y, mo, d, h, mi, s⟩, cs)

/-- The date-time of these numbers, if it exists. -/
def build (s : Seconds) (microsecond : Nat) (offset : Int) : Option DateTime := do
  let o ← Offset.of? offset
  DateTime.of? s.year s.month s.day s.hour s.minute s.second microsecond (some o)

/-- Reads whole seconds with a zone. -/
def wholeSeconds (cs : List Char) : Option DateTime := do
  let (s, cs) ← seconds cs
  let (offset, rest) ← zone cs
  if rest.isEmpty then build s 0 offset else none

/-- Reads seconds and their fraction with a zone. -/
def fractional (cs : List Char) : Option DateTime := do
  let (s, cs) ← seconds cs
  let cs ← letter '.' cs
  let (f, cs) ← fraction cs
  let (offset, rest) ← zone cs
  if rest.isEmpty then build s f offset else none

/-- Reads seconds and their fraction with the letter Z in either case. -/
def universal (cs : List Char) : Option DateTime := do
  let (s, cs) ← seconds cs
  let cs ← letter '.' cs
  let (f, cs) ← fraction cs
  let rest ← letter 'Z' cs
  if rest.isEmpty then build s f 0 else none

/-- Cuts every run of more than six digits after a point down to six; `run` is how many digits have
passed since the last point, none if there is no such point before. -/
def cutFrom : Option Nat → List Char → List Char
  | _, [] => []
  | run, c :: cs =>
    if c = '.' then c :: cutFrom (some 0) cs
    else
      match run with
      | some n =>
        if isDecimal c then if n < 6 then c :: cutFrom (some (n + 1)) cs else cutFrom run cs
        else c :: cutFrom none cs
      | none => c :: cutFrom none cs

/-- Cuts every fraction down to six digits. -/
def cutFractions (cs : List Char) : List Char :=
  cutFrom none cs

end BucketStore.Time.Rfc3339
