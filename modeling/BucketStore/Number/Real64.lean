/-!
# Binary64 numbers

A number of the 64-bit binary format, kept as its word. A finite one is a signed natural
`mantissa` times a power of two, and everything here is computed exactly from these two.
-/

namespace BucketStore

/-- A number of the 64-bit binary format. -/
structure Real64 where
  bits : UInt64
deriving DecidableEq, Repr

namespace Real64

def isNegative (x : Real64) : Bool :=
  decide (1 <<< 63 ≤ x.bits.toNat)

/-- The eleven bits of the exponent. -/
def exponentField (x : Real64) : Nat :=
  x.bits.toNat / (1 <<< 52) % (1 <<< 11)

/-- The fifty-two bits of the fraction. -/
def fraction (x : Real64) : Nat :=
  x.bits.toNat % (1 <<< 52)

/-- Whether the number is neither an infinity nor a NaN. -/
def isFinite (x : Real64) : Bool :=
  x.exponentField != 2047

/-- Whether the word stands for no number. -/
def isNaN (x : Real64) : Bool :=
  x.exponentField == 2047 && x.fraction != 0

/-- The whole factor of a finite number. -/
def mantissa (x : Real64) : Nat :=
  if x.exponentField = 0 then x.fraction else (1 <<< 52) + x.fraction

/-- The power of two that the mantissa is multiplied by. -/
def exponent (x : Real64) : Int :=
  if x.exponentField = 0 then -1074 else (x.exponentField : Int) - 1075

/-- Whether the number is zero of either sign. -/
def isZero (x : Real64) : Bool :=
  x.exponentField == 0 && x.fraction == 0

/-- The magnitude of a finite number as a quotient of naturals. -/
def ratio (x : Real64) : Nat × Nat :=
  match x.exponent with
  | .ofNat e => (x.mantissa <<< e, 1)
  | .negSucc e => (x.mantissa, 1 <<< (e + 1))

/-- The whole part of a finite number, toward zero. -/
def truncate (x : Real64) : Int :=
  let (numerator, denominator) := x.ratio
  let magnitude : Int := (numerator / denominator : Nat)
  if x.isNegative then -magnitude else magnitude

/-- Whether a finite number has no fraction. -/
def isWhole (x : Real64) : Bool :=
  let (numerator, denominator) := x.ratio
  numerator % denominator == 0

def infinity (negative : Bool) : Real64 :=
  ⟨UInt64.ofNat ((if negative then 1 <<< 63 else 0) + 2047 * (1 <<< 52))⟩

/-- The word without a number that a literal denotes. -/
def nan : Real64 :=
  ⟨UInt64.ofNat (2047 * (1 <<< 52) + (1 <<< 51))⟩

end Real64

end BucketStore
