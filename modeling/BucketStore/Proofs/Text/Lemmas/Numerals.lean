import BucketStore.Proofs.Text.Lemmas.Trimming
import BucketStore.Text.Case
import BucketStore.Text.Digit
import Mathlib.Algebra.Ring.Nat

/-!
# Numerals

A numeral is a text of ASCII digits. It reads as the number that it denotes if it is not too long,
and as nothing otherwise.
-/

namespace BucketStore.Text

/-- A text of ASCII digits. -/
structure Numeral where
  digits : List Char
  nonempty : digits ≠ []
  decimal : ∀ c ∈ digits, c.isDigit = true

namespace Numeral

def text (n : Numeral) : String :=
  String.ofList n.digits

def value (n : Numeral) : Nat :=
  Nat.ofDigitChars 10 n.digits 0

/-- The digits of a number. -/
def ofNat (k : Nat) : Numeral where
  digits := Nat.toDigits 10 k
  nonempty := Nat.toDigits_ne_nil
  decimal := fun _ hc => Nat.isDigit_of_mem_toDigits (by decide) (by decide) hc

theorem text_ofNat (k : Nat) : (ofNat k).text = toString k := by
  have hdigits : (ofNat k).digits = k.repr.toList := Nat.toList_repr.symm
  rw [text, hdigits, String.ofList_toList]
  rfl

theorem value_ofNat (k : Nat) : (ofNat k).value = k :=
  Nat.ofDigitChars_ten_toDigits

/-- A one and a number of zeros. -/
def powerOfTen (k : Nat) : Numeral where
  digits := '1' :: List.replicate k '0'
  nonempty := List.cons_ne_nil _ _
  decimal := by
    intro c hc
    rcases List.mem_cons.mp hc with rfl | hc
    · rfl
    · rw [List.eq_of_mem_replicate hc]
      rfl

theorem value_powerOfTen_pos (k : Nat) : 0 < (powerOfTen k).value := by
  rw [value, powerOfTen, Nat.ofDigitChars_cons, Nat.ofDigitChars_replicate_zero]
  exact Nat.mul_pos (Nat.pow_pos (by decide)) (by decide)

end Numeral

/-! ## ASCII digits -/

theorem toNat_of_isDigit {c : Char} (h : c.isDigit = true) : 48 ≤ c.toNat ∧ c.toNat ≤ 57 :=
  Char.isDigit_iff_toNat.mp h

theorem isBlank_of_isDigit {c : Char} (h : c.isDigit = true) : isBlank c = false := by
  obtain ⟨hlow, hhigh⟩ := toNat_of_isDigit h
  simp only [isBlank, Bool.or_eq_false_iff, Bool.and_eq_false_iff, decide_eq_false_iff_not,
    beq_eq_false_iff_ne]
  omega

theorem isPlainBlank_of_isDigit {c : Char} (h : c.isDigit = true) : isPlainBlank c = false := by
  rw [isPlainBlank, isBlank_of_isDigit h, Bool.false_and]

theorem ne_of_isDigit {c d : Char} (h : c.isDigit = true) (hd : d.isDigit = false) : c ≠ d := by
  rintro rfl
  rw [h] at hd
  cases hd

theorem decimalDigit?_of_isDigit {c : Char} (h : c.isDigit = true) :
    decimalDigit? c = some (c.toNat - 48) := by
  have hascii : c.toNat < 128 := Nat.lt_of_le_of_lt (toNat_of_isDigit h).2 (by decide)
  rw [decimalDigit?, if_pos hascii, if_pos h]

theorem decimalDigit?_digitChar {d : Nat} (hd : d < 10) : decimalDigit? d.digitChar = some d := by
  have hdigit : d.digitChar.isDigit = true := by rw [Nat.isDigit_digitChar, decide_eq_true hd]
  rw [decimalDigit?_of_isDigit hdigit, Nat.toNat_digitChar_sub_48_of_lt_ten hd]

/-! ### They have no letter case -/

theorem lowerChar_of_isDigit {c : Char} (h : c.isDigit = true) : lowerChar c = [c] := by
  have hhigh : c.toNat ≤ 57 := (toNat_of_isDigit h).2
  have hsmall : c.toLower = c := by
    refine dif_neg ?_
    rintro ⟨hA, -⟩
    have hlow : 'A'.toNat ≤ c.toNat := UInt32.le_iff_toNat_le.mp hA
    exact absurd (Nat.le_trans hlow hhigh) (by decide)
  rw [lowerChar, if_pos (Nat.lt_of_le_of_lt hhigh (by decide)), hsmall]

theorem upperChar_of_isDigit {c : Char} (h : c.isDigit = true) : upperChar c = [c] := by
  have hhigh : c.toNat ≤ 57 := (toNat_of_isDigit h).2
  have hcapital : c.toUpper = c := by
    refine dif_neg ?_
    rintro ⟨ha, -⟩
    have hlow : 'a'.toNat ≤ c.toNat := UInt32.le_iff_toNat_le.mp ha
    exact absurd (Nat.le_trans hlow hhigh) (by decide)
  rw [upperChar, if_pos (Nat.lt_of_le_of_lt hhigh (by decide)), hcapital]

theorem lowerFrom_of_isDigit {cs : List Char} (h : ∀ c ∈ cs, c.isDigit = true)
    (before : List Char) : lowerFrom before cs = cs := by
  induction cs generalizing before with
  | nil => rfl
  | cons c cs ih =>
      have hc : c.isDigit = true := h c List.mem_cons_self
      have hsigma : c ≠ capitalSigma := ne_of_isDigit hc (by decide)
      rw [lowerFrom, ih fun d hd => h d (List.mem_cons_of_mem c hd)]
      simp only [if_neg hsigma, lowerChar_of_isDigit hc]
      rfl

theorem lower_of_isDigit {cs : List Char} (h : ∀ c ∈ cs, c.isDigit = true) :
    lower (.ofList cs) = .ofList cs := by
  rw [lower, String.toList_ofList, lowerFrom_of_isDigit h]

theorem flatMap_upperChar_of_isDigit {cs : List Char} (h : ∀ c ∈ cs, c.isDigit = true) :
    cs.flatMap upperChar = cs := by
  induction cs with
  | nil => rfl
  | cons c cs ih =>
      rw [List.flatMap_cons, upperChar_of_isDigit (h c List.mem_cons_self),
        ih fun d hd => h d (List.mem_cons_of_mem c hd)]
      rfl

/-! ## Digits of every script -/

/-- The white space lies before, between or after the digits of the scripts. -/
theorem isBlank_of_decimalDigit? {c : Char} {d : Nat} (h : decimalDigit? c = some d) :
    isBlank c = false := by
  have hzeros : ∀ n ∈ decimalZeros, n = 48 ∨ 160 < n ∧ n + 10 ≤ 5760 ∨
      5760 < n ∧ n + 10 ≤ 8192 ∨ 12288 < n := by decide
  rw [decimalDigit?] at h
  split at h
  · split at h
    · exact isBlank_of_isDigit ‹_›
    · cases h
  · obtain ⟨start, hstart, -⟩ := Option.map_eq_some_iff.mp h
    have hmem := hzeros start (Array.mem_of_find?_eq_some hstart)
    have hrange := Array.find?_some hstart
    simp only [Bool.and_eq_true, decide_eq_true_eq] at hrange
    simp only [isBlank, Bool.or_eq_false_iff, Bool.and_eq_false_iff, decide_eq_false_iff_not,
      beq_eq_false_iff_ne]
    omega

/-! ## The number of some of the digits -/

theorem ofDigitChars_lt {cs : List Char} (h : ∀ c ∈ cs, c.isDigit = true) :
    Nat.ofDigitChars 10 cs 0 < 10 ^ cs.length := by
  induction cs with
  | nil => decide
  | cons c cs ih =>
      have hdigit := toNat_of_isDigit (h c List.mem_cons_self)
      have hrest := ih fun d hd => h d (List.mem_cons_of_mem c hd)
      have hfirst : c.toNat - '0'.toNat + 1 ≤ 10 := by
        have hzero : '0'.toNat = 48 := rfl
        omega
      have hscaled := Nat.mul_le_mul_left (10 ^ cs.length) hfirst
      rw [Nat.ofDigitChars_cons, Nat.ofDigitChars_eq_ofDigitChars_zero, Nat.mul_zero, Nat.zero_add,
        List.length_cons, Nat.pow_succ]
      rw [Nat.mul_add, Nat.mul_one] at hscaled
      omega

/-- The first digits of a number are what division leaves of it. -/
theorem ofDigitChars_take {cs : List Char} (h : ∀ c ∈ cs, c.isDigit = true) (k : Nat) :
    Nat.ofDigitChars 10 (cs.take k) 0 = Nat.ofDigitChars 10 cs 0 / 10 ^ (cs.length - k) := by
  have hrest := ofDigitChars_lt fun c hc => h c (List.mem_of_mem_drop (i := k) hc)
  have hpos : 0 < 10 ^ (cs.length - k) := Nat.pow_pos (by decide)
  rw [List.length_drop] at hrest
  calc Nat.ofDigitChars 10 (cs.take k) 0
      = (10 ^ (cs.length - k) * Nat.ofDigitChars 10 (cs.take k) 0 +
          Nat.ofDigitChars 10 (cs.drop k) 0) / 10 ^ (cs.length - k) := by
        rw [Nat.mul_add_div hpos, Nat.div_eq_of_lt hrest, Nat.add_zero]
    _ = Nat.ofDigitChars 10 (cs.take k ++ cs.drop k) 0 / 10 ^ (cs.length - k) := by
        rw [Nat.ofDigitChars_append,
          @Nat.ofDigitChars_eq_ofDigitChars_zero (cs.drop k) (Nat.ofDigitChars 10 (cs.take k) 0),
          List.length_drop]
    _ = Nat.ofDigitChars 10 cs 0 / 10 ^ (cs.length - k) := by rw [List.take_append_drop]

/-! ## Reading numerals -/

theorem groupedDigits?_of_isDigit {cs : List Char} (hne : cs ≠ [])
    (h : ∀ c ∈ cs, c.isDigit = true) :
    groupedDigits? cs = some (cs.map fun c => c.toNat - 48) := by
  fun_induction groupedDigits? cs with
  | case1 => exact absurd rfl hne
  | case2 c => rw [decimalDigit?_of_isDigit (h c List.mem_cons_self)]; rfl
  | case3 c cs ih =>
      have hlow : ('_' : Char).isDigit = true := h '_' (List.mem_cons_of_mem c List.mem_cons_self)
      exact absurd hlow (by decide)
  | case4 c cs hone hlow ih =>
      have hcs : cs ≠ [] := hone
      rw [decimalDigit?_of_isDigit (h c List.mem_cons_self)]
      rw [ih hcs fun d hd => h d (List.mem_cons_of_mem c hd)]
      rfl

theorem ofDigits_map (cs : List Char) :
    ofDigits (cs.map fun c => c.toNat - 48) = Nat.ofDigitChars 10 cs 0 := by
  rw [ofDigits, List.foldl_map]
  rfl

namespace Numeral

theorem readNat?_digits (n : Numeral) :
    readNat? n.digits = if n.digits.length ≤ maxDigits then some n.value else none := by
  rw [readNat?, groupedDigits?_of_isDigit n.nonempty n.decimal]
  simp only [Option.bind_eq_bind, Option.bind_some, List.length_map, ofDigits_map, value]

theorem readSigned?_digits (n : Numeral) :
    readSigned? n.digits = (readNat? n.digits).map fun k => (k : Int) := by
  unfold readSigned?
  split
  · rename_i cs heq
    exact absurd rfl (ne_of_isDigit (n.decimal '+' (by simp [heq])) (by decide))
  · rename_i cs heq
    exact absurd rfl (ne_of_isDigit (n.decimal '-' (by simp [heq])) (by decide))
  · rfl

theorem readInt?_text (n : Numeral) :
    readInt? n.text = if n.digits.length ≤ maxDigits then some (n.value : Int) else none := by
  have hplain : ∀ c ∈ n.digits, isPlainBlank c = false :=
    fun c hc => isPlainBlank_of_isDigit (n.decimal c hc)
  rw [readInt?, text, String.toList_ofList, trimBy_eq_self hplain, readSigned?_digits,
    readNat?_digits]
  split <;> rfl

theorem readInt?_toString {k : Nat} (h : k < 10 ^ maxDigits) :
    readInt? (toString k) = some (k : Int) := by
  have hlength : (ofNat k).digits.length ≤ maxDigits :=
    (Nat.length_toDigits_le_iff (by decide) (by decide)).mpr h
  rw [← text_ofNat, readInt?_text, if_pos hlength, value_ofNat]

/-- A sign stands before the digits. -/
theorem readInt?_signed (negative : Bool) (n : Numeral) :
    readInt? ((if negative then "-" else "+") ++ n.text) =
      (readNat? n.digits).map fun k => if negative then -(k : Int) else k := by
  have hplain : ∀ c ∈ n.digits, isPlainBlank c = false :=
    fun c hc => isPlainBlank_of_isDigit (n.decimal c hc)
  cases negative with
  | false =>
      have hsign : ∀ c ∈ '+' :: n.digits, isPlainBlank c = false :=
        List.forall_mem_cons.mpr ⟨by decide, hplain⟩
      have htext : ((if false = true then "-" else "+") ++ n.text).toList = '+' :: n.digits := by
        simp [text]
      rw [readInt?, htext, trimBy_eq_self hsign]
      rfl
  | true =>
      have hsign : ∀ c ∈ '-' :: n.digits, isPlainBlank c = false :=
        List.forall_mem_cons.mpr ⟨by decide, hplain⟩
      have htext : ((if true = true then "-" else "+") ++ n.text).toList = '-' :: n.digits := by
        simp [text]
      rw [readInt?, htext, trimBy_eq_self hsign]
      rfl

end Numeral

end BucketStore.Text
