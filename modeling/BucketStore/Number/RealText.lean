import BucketStore.Number.Shortest

/-!
# The text of binary64 numbers

The shortest digits, written positionally from a ten-thousandth up to below ten to the sixteenth and
with an exponent of at least two digits elsewhere. A positional number always shows a fraction.
-/

namespace BucketStore.Real64

/-- Digits with the point after the first `point` of them, with zeros filled in where the point
falls outside. -/
def positional (digits : List Char) (point : Int) : List Char × List Char :=
  if point ≤ 0 then (['0'], List.replicate (-point).toNat '0' ++ digits)
  else
    let whole := point.toNat
    (digits.take whole ++ List.replicate (whole - digits.length) '0', digits.drop whole)

/-- An exponent with its mark, its sign and at least two digits. -/
def exponentPart (e : Int) : List Char :=
  let digits := Nat.toDigits 10 e.natAbs
  'e' :: (if e < 0 then '-' else '+') :: (if digits.length < 2 then '0' :: digits else digits)

/-- The text of a magnitude with the given digits, whose first digit stands before the point when
it is multiplied by ten to the `point - 1`. -/
def magnitudeText (digits : List Char) (point : Int) : List Char :=
  if -4 < point ∧ point ≤ 16 then
    let (whole, fraction) := positional digits point
    whole ++ '.' :: (if fraction.isEmpty then ['0'] else fraction)
  else
    digits.take 1 ++ (if 1 < digits.length then '.' :: digits.drop 1 else [])
      ++ exponentPart (point - 1)

def text (x : Real64) : String :=
  if x.isNaN then "nan"
  else
    let sign := if x.isNegative then ['-'] else []
    if !x.isFinite then String.ofList (sign ++ ['i', 'n', 'f'])
    else
      let d := x.shortest
      let digits := d.characters
      let point := if x.isZero then 1 else (digits.length : Int) + d.exponent
      String.ofList (sign ++ magnitudeText digits point)

end BucketStore.Real64
