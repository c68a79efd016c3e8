import BucketStore.Text.Blank
import BucketStore.Text.CodePoints

/-!
# Digits and integers in text

Every script's decimal digits count as digits. An integer is written with an optional sign and
digits, single underscores between them, and white space around the whole; it has at most
`maxDigits` digits.
-/

namespace BucketStore.Text

/-- The zeros of the scripts; the digits one to nine of a script follow its zero. -/
def decimalZeros : Array Nat := #[
  48, 1632, 1776, 1984, 2406, 2534, 2662, 2790, 2918, 3046, 3174, 3302,
  3430, 3558, 3664, 3792, 3872, 4160, 4240, 6112, 6160, 6470, 6608, 6784,
  6800, 6992, 7088, 7232, 7248, 42528, 43216, 43264, 43472, 43504, 43600, 44016,
  65296, 66720, 68912, 69734, 69872, 69942, 70096, 70384, 70736, 70864, 71248, 71360,
  71472, 71904, 72016, 72784, 73040, 73120, 92768, 92864, 93008, 120782, 120792, 120802,
  120812, 120822, 123200, 123632, 125264, 130032]

/-- The value of a decimal digit of any script. -/
def decimalDigit? (c : Char) : Option Nat :=
  if c.toNat < 128 then
    if c.isDigit then some (c.toNat - 48) else none
  else
    (decimalZeros.find? fun start => decide (start ≤ c.toNat) && decide (c.toNat < start + 10)).map
      fun start => c.toNat - start

/-- Whether the character is a decimal digit of some script. -/
def isDecimal (c : Char) : Bool :=
  (decimalDigit? c).isSome

/-- The digits that stand for a number but not in decimal notation, such as superscripts. -/
def lesserDigits : CodePoints := #[
  (178, 179), (185, 185), (4969, 4977), (6618, 6618), (8304, 8304), (8308, 8313), (8320, 8329),
  (9312, 9320), (9332, 9340), (9352, 9360), (9450, 9450), (9461, 9469), (9471, 9471), (10102, 10110),
  (10112, 10120), (10122, 10130), (68160, 68163), (69216, 69224), (69714, 69722), (127232, 127242)]

/-- Whether the character is a digit of any kind. -/
def isAnyDigit (c : Char) : Bool :=
  isDecimal c || lesserDigits.holds c

/-- The most digits that an integer in text may have. -/
def maxDigits : Nat := 4300

/-- The number that digits denote, most significant first. -/
def ofDigits (ds : List Nat) : Nat :=
  ds.foldl (fun n d => 10 * n + d) 0

/-- The digits of a number with single underscores between them: none at the ends, no two
together, and at least one digit. -/
def groupedDigits? : List Char → Option (List Nat)
  | [] => none
  | [c] => (decimalDigit? c).map fun d => [d]
  | c :: '_' :: cs => do
    let d ← decimalDigit? c
    return d :: (← groupedDigits? cs)
  | c :: cs => do
    let d ← decimalDigit? c
    return d :: (← groupedDigits? cs)

/-- A natural number, written with at most `maxDigits` digits. -/
def readNat? (cs : List Char) : Option Nat := do
  let ds ← groupedDigits? cs
  if ds.length ≤ maxDigits then some (ofDigits ds) else none

/-- An integer without white space around it. -/
def readSigned? : List Char → Option Int
  | '+' :: cs => (readNat? cs).map fun n => (n : Int)
  | '-' :: cs => (readNat? cs).map fun n => -(n : Int)
  | cs => (readNat? cs).map fun n => (n : Int)

/-- Reads an integer. The information separators are no white space here. -/
def readInt? (s : String) : Option Int :=
  readSigned? (trimBy isPlainBlank s.toList)

end BucketStore.Text
