import BucketStore.Text.Case

/-!
# Letters

The ASCII letters among all characters, the rows of the tables of letter case, and texts in
capitals: they hold no small ASCII letter.
-/

namespace BucketStore.Text

/-! ## ASCII characters -/

/-- A property of the ASCII characters, checked one by one. -/
theorem ascii_forall {P : Char → Prop} (h : ∀ n < 128, P (Char.ofNat n)) {c : Char}
    (hc : c.toNat < 128) : P c := by
  have hofNat := h c.toNat hc
  rwa [Char.ofNat_toNat] at hofNat

theorem toNat_of_isLower {c : Char} (h : c.isLower = true) : 97 ≤ c.toNat ∧ c.toNat ≤ 122 := by
  obtain ⟨hlow, hhigh⟩ := Bool.and_eq_true_iff.mp h
  exact ⟨UInt32.le_iff_toNat_le.mp (of_decide_eq_true hlow),
    UInt32.le_iff_toNat_le.mp (of_decide_eq_true hhigh)⟩

theorem toNat_lt_of_isAlphanum {c : Char} (h : c.isAlphanum = true) : c.toNat < 128 := by
  have hkinds : (c.isUpper || c.isLower || c.isDigit) = true := h
  rw [Bool.or_eq_true, Bool.or_eq_true] at hkinds
  rcases hkinds with (hupper | hlower) | hdigit
  · have hZ : c.val ≤ 'Z'.val := (of_decide_eq_true hupper).2
    exact Nat.lt_of_le_of_lt (UInt32.le_iff_toNat_le.mp hZ) (by decide)
  · exact Nat.lt_of_le_of_lt (toNat_of_isLower hlower).2 (by decide)
  · exact Nat.lt_of_le_of_lt (Char.isDigit_iff_toNat.mp hdigit).2 (by decide)

/-- A number of no character stands for the null character. -/
theorem toNat_ofNat (n : Nat) : (Char.ofNat n).toNat = n ∨ (Char.ofNat n).toNat = 0 := by
  by_cases hvalid : n.isValidChar
  · left
    rw [Char.ofNat, dif_pos hvalid]
    rfl
  · right
    rw [Char.ofNat, dif_neg hvalid]
    rfl

/-! ## Rows of case mappings -/

theorem exists_row_of_mapRows? {rows : Array (Nat × Nat × Nat × Int)} {n m : Nat}
    (h : mapRows? rows n = some m) :
    ∃ row ∈ rows, row.1 ≤ n ∧ n ≤ row.2.1 ∧ m = (n + row.2.2.2).toNat := by
  obtain ⟨row, hfind, rfl⟩ := Option.map_eq_some_iff.mp h
  have hholds := Array.find?_some hfind
  simp only [Bool.and_eq_true, decide_eq_true_eq] at hholds
  exact ⟨row, Array.mem_of_find?_eq_some hfind, hholds.1.1, hholds.1.2, rfl⟩

/-! ## Texts in capitals -/

/-- Whether the text holds no small ASCII letter. -/
def inCapitals (s : String) : Bool :=
  s.toList.all fun c => !c.isLower

/-- A number that is not that of a small ASCII letter. -/
theorem isLower_ofNat {n : Nat} (h : n < 97 ∨ 122 < n) : (Char.ofNat n).isLower = false := by
  rw [Bool.eq_false_iff]
  intro hlower
  have hrange := toNat_of_isLower hlower
  rcases toNat_ofNat n with hn | hn <;> omega

/-- No row of capitals leads to a small ASCII letter. -/
theorem row_upperRows : ∀ row ∈ upperRows,
    row.2.1 + row.2.2.2 < 97 ∨ 122 < row.1 + row.2.2.2 := by
  decide +kernel

theorem row_upperExpansions : ∀ row ∈ upperExpansions, ∀ n ∈ row.2, n < 97 ∨ 122 < n := by
  decide +kernel

/-- The capital form of a character holds no small ASCII letter. -/
theorem isLower_of_mem_upperChar {c d : Char} (h : d ∈ upperChar c) : d.isLower = false := by
  by_cases hascii : c.toNat < 128
  · rw [upperChar, if_pos hascii, List.mem_singleton] at h
    subst h
    exact ascii_forall (P := fun c => c.toUpper.isLower = false) (by decide +kernel) hascii
  · rw [upperChar, if_neg hascii] at h
    split at h
    · rename_i row hrow
      obtain ⟨n, hn, rfl⟩ := List.mem_map.mp h
      exact isLower_ofNat (row_upperExpansions _ (Array.mem_of_find?_eq_some hrow) n hn)
    · split at h
      · rename_i n hn
        rw [List.mem_singleton.mp h]
        obtain ⟨row, hrow, hfirst, hlast, rfl⟩ := exists_row_of_mapRows? hn
        have himage := row_upperRows row hrow
        exact isLower_ofNat (by omega)
      · rw [List.mem_singleton.mp h, ← Char.ofNat_toNat c]
        exact isLower_ofNat (by omega)

theorem inCapitals_upper (s : String) : inCapitals (upper s) = true := by
  rw [inCapitals, upper, String.toList_ofList, List.all_eq_true]
  intro d hd
  obtain ⟨c, -, hc⟩ := List.mem_flatMap.mp hd
  rw [isLower_of_mem_upperChar hc, Bool.not_false]

end BucketStore.Text
