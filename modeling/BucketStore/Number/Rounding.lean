import BucketStore.Number.Real64

/-!
# Rounding

A quotient rounded to the nearest natural, a tie going to the even one; and the binary64 number
nearest to a quotient, by the same rule.
-/

namespace BucketStore

/-- The natural nearest to `numerator / denominator`; a tie goes to the even one. -/
def roundDiv (numerator denominator : Nat) : Nat :=
  let q := numerator / denominator
  let r := numerator % denominator
  if 2 * r < denominator then q
  else if 2 * r > denominator then q + 1
  else if q % 2 = 0 then q else q + 1

/-- The quotient `numerator / denominator` divided by `base ^ e`, as a quotient. -/
def rescale (base numerator denominator : Nat) : Int → Nat × Nat
  | .ofNat e => (numerator, denominator * Nat.pow base e)
  | .negSucc e => (numerator * Nat.pow base (e + 1), denominator)

namespace Real64

/-- The exponent of the binary64 numbers next to a positive quotient. -/
def exponentNear (numerator denominator : Nat) : Int :=
  let e : Int := (numerator.log2 : Int) - denominator.log2 - 53
  let (n, d) := rescale 2 numerator denominator (e + 53)
  max (if d ≤ n then e + 1 else e) (-1074)

/-- The binary64 number nearest to `numerator / denominator`, with the given sign. -/
def ofRatio (negative : Bool) (numerator denominator : Nat) : Real64 :=
  let sign := if negative then 1 <<< 63 else 0
  if numerator = 0 then ⟨UInt64.ofNat sign⟩
  else
    let e := exponentNear numerator denominator
    let (n, d) := rescale 2 numerator denominator e
    let m := roundDiv n d
    if m < 1 <<< 52 then ⟨UInt64.ofNat (sign + m)⟩
    else
      let (m, e) := if m = 1 <<< 53 then (1 <<< 52, e + 1) else (m, e)
      let field := (e + 1075).toNat
      if 2047 ≤ field then infinity negative
      else ⟨UInt64.ofNat (sign + field * (1 <<< 52) + (m - 1 <<< 52))⟩

/-- The binary64 number nearest to `digits * 10 ^ e`. Magnitudes far outside the range are settled
by the number of digits alone. -/
def ofDecimal (negative : Bool) (digits : Nat) (e : Int) : Real64 :=
  let magnitude : Int := ((Nat.toDigits 10 digits).length : Int) + e
  if digits = 0 ∨ magnitude < -340 then ofRatio negative 0 1
  else if 320 < magnitude then infinity negative
  else
    match e with
    | .ofNat e => ofRatio negative (digits * Nat.pow 10 e) 1
    | .negSucc e => ofRatio negative digits (Nat.pow 10 (e + 1))

/-- The binary64 number nearest to an integer. -/
def ofInt (n : Int) : Real64 :=
  ofRatio (decide (n < 0)) n.natAbs 1

end Real64

end BucketStore
