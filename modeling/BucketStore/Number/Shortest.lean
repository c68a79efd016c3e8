import BucketStore.Number.Rounding

/-!
# Decimal digits of binary64 numbers

`shortest` gives the fewest decimal digits that read back as the same number, and of these the
nearest ones. `significant` and `Real64.places` give a fixed number of digits, exactly rounded.
-/

namespace BucketStore

/-- The number `digits * 10 ^ exponent`. -/
structure Decimal where
  digits : Nat
  exponent : Int
deriving DecidableEq, Repr

namespace Decimal

/-- Drops the zeros at the end of the digits; `fuel` bounds their number. -/
def stripZeros : Nat → Decimal → Decimal
  | 0, d => d
  | fuel + 1, d =>
    if d.digits ≠ 0 ∧ d.digits % 10 = 0 then stripZeros fuel ⟨d.digits / 10, d.exponent + 1⟩ else d

/-- The characters of the digits. -/
def characters (d : Decimal) : List Char :=
  Nat.toDigits 10 d.digits

end Decimal

/-- The number `k` with `10 ^ (k - 1) ≤ numerator / denominator < 10 ^ k`, reached from a lower
bound in at most `fuel` steps. -/
def decimalPlaceFrom (numerator denominator : Nat) : Nat → Int → Int
  | 0, k => k
  | fuel + 1, k =>
    let (n, d) := rescale 10 numerator denominator k
    if d ≤ n then decimalPlaceFrom numerator denominator fuel (k + 1) else k

/-- The place of the first digit of a positive quotient. -/
def decimalPlace (numerator denominator : Nat) : Int :=
  let bits : Int := (numerator.log2 : Int) - denominator.log2
  decimalPlaceFrom numerator denominator 5 (bits * 30103 / 100000 - 1)

/-- The decimal with `n` significant digits nearest to a positive quotient. -/
def significant (numerator denominator : Nat) (n : Nat) : Decimal :=
  let k := decimalPlace numerator denominator
  let (num, den) := rescale 10 numerator denominator (k - n)
  let digits := roundDiv num den
  if digits = Nat.pow 10 n then ⟨digits / 10, k - n + 1⟩ else ⟨digits, k - n⟩

namespace Real64

/-- Whether `digits * 10 ^ e` lies among the reals that round to the finite number `x`. With the
magnitude as `4 * mantissa` quarters, the neighbours' midpoints are two quarters away, and one
below a power of two; the midpoints belong to the numbers with an even mantissa. -/
def admits (x : Real64) (digits : Nat) (e : Int) : Bool :=
  let m := x.mantissa
  let quarters := 4 * m
  let low := if m = 1 <<< 52 ∧ 1 < x.exponentField then quarters - 1 else quarters - 2
  let high := quarters + 2
  let (scale, den) := rescale 2 1 1 (2 - x.exponent)
  let (n, d) := rescale 10 digits 1 (-e)
  if m % 2 = 0 then decide (low * scale * d ≤ n * den) && decide (n * den ≤ high * scale * d)
  else decide (low * scale * d < n * den) && decide (n * den < high * scale * d)

/-- The decimal with `n` digits that reads back as `x`, if there is one: the nearer of the two
next to it, of two equally near the even one. -/
def roundTrip? (x : Real64) (k : Int) (n : Nat) : Option Decimal :=
  let (numerator, denominator) := x.ratio
  let e := k - n
  let (num, den) := rescale 10 numerator denominator e
  let below := num / den
  let nearest := roundDiv num den
  let other := if nearest = below then below + 1 else below
  if x.admits nearest e then some ⟨nearest, e⟩
  else if x.admits other e then some ⟨other, e⟩
  else none

/-- The fewest digits that read back as the finite number `x`; seventeen always do. -/
def shortest (x : Real64) : Decimal :=
  if x.isZero then ⟨0, 0⟩
  else
    let (numerator, denominator) := x.ratio
    let k := decimalPlace numerator denominator
    let found := (List.range 17).findSome? fun n => x.roundTrip? k (n + 1)
    (found.getD (significant numerator denominator 17)).stripZeros 20

/-- The magnitude in units of `10 ^ -places`, rounded. -/
def places (x : Real64) (places : Nat) : Nat :=
  let (numerator, denominator) := x.ratio
  roundDiv (numerator * Nat.pow 10 places) denominator

end Real64

end BucketStore
