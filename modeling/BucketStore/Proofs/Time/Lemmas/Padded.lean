import BucketStore.Proofs.Text.Lemmas.Numerals
import BucketStore.Time.DateTime

/-!
# Padded numbers

A number in at least so many digits, with zeros in front. It reads as the number that it was written
from, and its last digit stands apart from those before.
-/

namespace BucketStore.Time

open BucketStore.Text

theorem toList_padded (width n : Nat) :
    (DateTime.padded width n).toList =
      List.replicate (width - (Nat.toDigits 10 n).length) '0' ++ Nat.toDigits 10 n := by
  rw [DateTime.padded, String.toList_ofList]

/-! ## As numerals -/

/-- The digits of a number, with zeros in front. -/
def paddedNumeral (width n : Nat) : Numeral where
  digits := (DateTime.padded width n).toList
  nonempty := by
    rw [toList_padded]
    exact List.append_ne_nil_of_right_ne_nil _ Nat.toDigits_ne_nil
  decimal := by
    intro c hc
    rw [toList_padded] at hc
    rcases List.mem_append.mp hc with hc | hc
    · rw [List.eq_of_mem_replicate hc]
      rfl
    · exact Nat.isDigit_of_mem_toDigits (by decide : 0 < 10) (by decide) hc

theorem digits_paddedNumeral (width n : Nat) :
    (paddedNumeral width n).digits = (DateTime.padded width n).toList := by
  rw [paddedNumeral]

theorem value_paddedNumeral (width n : Nat) : (paddedNumeral width n).value = n := by
  rw [Numeral.value, digits_paddedNumeral, toList_padded, Nat.ofDigitChars_append,
    Nat.ofDigitChars_replicate_zero, Nat.mul_zero, Nat.ofDigitChars_ten_toDigits]

theorem length_paddedNumeral {width n : Nat} (hwidth : 0 < width) (hn : n < 10 ^ width) :
    (paddedNumeral width n).digits.length = width := by
  have hlength : (Nat.toDigits 10 n).length ≤ width :=
    (Nat.length_toDigits_le_iff (by decide) hwidth).mpr hn
  rw [digits_paddedNumeral, toList_padded, List.length_append, List.length_replicate]
  omega

theorem readInt?_padded {width n : Nat} (hwidth : 0 < width) (hmax : width ≤ maxDigits)
    (hn : n < 10 ^ width) : readInt? (DateTime.padded width n) = some (n : Int) := by
  have htext : (paddedNumeral width n).text = DateTime.padded width n := by
    rw [Numeral.text, digits_paddedNumeral, String.ofList_toList]
  have hread := (paddedNumeral width n).readInt?_text
  rwa [htext, value_paddedNumeral, length_paddedNumeral hwidth hn, if_pos hmax] at hread

theorem isDigit_of_mem_padded {width n : Nat} {c : Char}
    (hc : c ∈ (DateTime.padded width n).toList) : c.isDigit = true := by
  rw [← digits_paddedNumeral] at hc
  exact (paddedNumeral width n).decimal c hc

/-! ## Digit by digit -/

theorem toList_padded_one {n : Nat} (hn : n < 10) :
    (DateTime.padded 1 n).toList = [n.digitChar] := by
  rw [toList_padded, Nat.toDigits_of_lt_base hn]
  rfl

theorem toList_padded_succ {width : Nat} (hwidth : 0 < width) (n : Nat) :
    (DateTime.padded (width + 1) n).toList =
      (DateTime.padded width (n / 10)).toList ++ [(n % 10).digitChar] := by
  rw [toList_padded, toList_padded]
  by_cases hn : n < 10
  · -- What stands before the only digit is zero, and so are all its digits.
    obtain ⟨k, rfl⟩ := Nat.exists_eq_add_of_lt hwidth
    rw [Nat.toDigits_of_lt_base hn, Nat.div_eq_of_lt hn, Nat.mod_eq_of_lt hn, Nat.toDigits_zero]
    simp [List.replicate_succ']
  · rw [Nat.toDigits_of_base_le (by decide) (Nat.le_of_not_lt hn), List.length_append,
      List.length_singleton, Nat.add_sub_add_right, List.append_assoc]

theorem toList_padded_two {n : Nat} (hn : n < 100) :
    (DateTime.padded 2 n).toList = [(n / 10).digitChar, (n % 10).digitChar] := by
  have hhigh : n / 10 < 10 := by omega
  rw [toList_padded_succ (by decide) n, toList_padded_one hhigh, List.singleton_append]

theorem toList_padded_four (n : Nat) :
    (DateTime.padded 4 n).toList =
      (DateTime.padded 2 (n / 100)).toList ++ (DateTime.padded 2 (n % 100)).toList := by
  have hlow : n % 100 < 100 := Nat.mod_lt n (by decide)
  have hhigh : n / 10 / 10 = n / 100 := by omega
  have hthird : n % 100 / 10 = n / 10 % 10 := by omega
  have hlast : n % 100 % 10 = n % 10 := by omega
  rw [toList_padded_succ (by decide) n, toList_padded_succ (by decide) (n / 10), hhigh,
    toList_padded_two hlow, hthird, hlast, List.append_assoc, List.singleton_append]

end BucketStore.Time
