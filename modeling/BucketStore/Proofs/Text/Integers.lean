import BucketStore.Proofs.Text.Lemmas.Numerals
import Mathlib.Data.List.Pairwise
import Mathlib.Data.Nat.Digits.Defs

/-!
# Integers in text

How an integer may be written: digits of any scripts with single underscores between them, after a
sign or none, with white space around. The reader accepts just these texts, and reads each as the
integer that it is a spelling of.
-/

namespace BucketStore.Text

/-! ## The grammar -/

/-- The character is the digit of this value in some script. -/
def IsDigitOf (c : Char) (d : Nat) : Prop :=
  d < 10 ∧ ∃ start ∈ decimalZeros, c.toNat = start + d

/-- Digits of these values, with at most one underscore between any two. -/
inductive Grouped : List Char → List Nat → Prop
  | last {c : Char} {d : Nat} : IsDigitOf c d → Grouped [c] [d]
  | next {c : Char} {d : Nat} {cs : List Char} {ds : List Nat} :
      IsDigitOf c d → Grouped cs ds → Grouped (c :: cs) (d :: ds)
  | apart {c : Char} {d : Nat} {cs : List Char} {ds : List Nat} :
      IsDigitOf c d → Grouped cs ds → Grouped (c :: '_' :: cs) (d :: ds)

/-- A sign, and the number that it makes of another one. -/
inductive Sign : List Char → Nat → Int → Prop
  | none {k : Nat} : Sign [] k k
  | plus {k : Nat} : Sign ['+'] k k
  | minus {k : Nat} : Sign ['-'] k (-k)

/-- The text is a spelling of the integer: a sign or none, and digits that are not too many, with
white space before and after. -/
inductive Spells (s : String) (n : Int) : Prop
  | of {before sign digits after : List Char} {ds : List Nat} :
      s.toList = before ++ (sign ++ digits) ++ after →
      (∀ c ∈ before, isPlainBlank c = true) → (∀ c ∈ after, isPlainBlank c = true) →
      Grouped digits ds → ds.length ≤ maxDigits → Sign sign (Nat.ofDigits 10 ds.reverse) n →
      Spells s n

/-! ## Digits -/

/-- The digits of one script end before those of the next one begin. -/
theorem decimalZeros_apart : decimalZeros.toList.Pairwise fun a b => a + 10 ≤ b := by
  have : Trans (fun a b : Nat => a + 10 ≤ b) (fun a b => a + 10 ≤ b) fun a b => a + 10 ≤ b :=
    ⟨fun h h' => by omega⟩
  exact List.isChain_iff_pairwise.mp (by decide +kernel)

theorem decimalZeros_unique {a b n : Nat} (ha : a ∈ decimalZeros) (hb : b ∈ decimalZeros)
    (hna : a ≤ n ∧ n < a + 10) (hnb : b ≤ n ∧ n < b + 10) : a = b := by
  have : Std.Symm fun a b : Nat => a + 10 ≤ b ∨ b + 10 ≤ a := ⟨fun _ _ => Or.symm⟩
  have hpairs : decimalZeros.toList.Pairwise fun a b => a + 10 ≤ b ∨ b + 10 ≤ a :=
    decimalZeros_apart.imp Or.inl
  by_contra hne
  have hapart := hpairs.forall (Array.mem_toList_iff.mpr ha) (Array.mem_toList_iff.mpr hb) hne
  omega

/-- The ASCII digits are those from 48 on, and all other scripts have theirs beyond ASCII. -/
theorem isDigit_of_isDigitOf {c : Char} {d : Nat} (h : IsDigitOf c d) (hascii : c.toNat < 128) :
    c.isDigit = true ∧ d = c.toNat - 48 := by
  have hzeros : ∀ n ∈ decimalZeros, n = 48 ∨ 128 ≤ n := by decide
  obtain ⟨hd, start, hstart, hc⟩ := h
  rcases hzeros start hstart with rfl | hbeyond
  · exact ⟨Char.isDigit_iff_toNat.mpr ⟨by change 48 ≤ _; omega, by change _ ≤ 57; omega⟩, by omega⟩
  · omega

theorem decimalDigit?_eq_some_iff {c : Char} {d : Nat} :
    decimalDigit? c = some d ↔ IsDigitOf c d := by
  rw [decimalDigit?]
  constructor
  · intro h
    split at h
    · split at h
      · rename_i hdigit
        obtain ⟨hlow, hhigh⟩ := toNat_of_isDigit hdigit
        cases h
        exact ⟨by omega, 48, by simp [decimalZeros], by omega⟩
      · cases h
    · obtain ⟨start, hfind, rfl⟩ := Option.map_eq_some_iff.mp h
      have hrange := Array.find?_some hfind
      simp only [Bool.and_eq_true, decide_eq_true_eq] at hrange
      exact ⟨by omega, start, Array.mem_of_find?_eq_some hfind, by omega⟩
  · intro h
    by_cases hascii : c.toNat < 128
    · obtain ⟨hdigit, rfl⟩ := isDigit_of_isDigitOf h hascii
      rw [if_pos hascii, if_pos hdigit]
    · obtain ⟨hd, start, hstart, hc⟩ := h
      rw [if_neg hascii, Option.map_eq_some_iff]
      cases hfind : decimalZeros.find? fun other =>
          decide (other ≤ c.toNat) && decide (c.toNat < other + 10) with
      | none =>
        have hnone := Array.find?_eq_none.mp hfind start hstart
        simp only [Bool.and_eq_true, decide_eq_true_eq] at hnone
        omega
      | some other =>
        have hrange := Array.find?_some hfind
        simp only [Bool.and_eq_true, decide_eq_true_eq] at hrange
        have hsame : other = start :=
          decimalZeros_unique (Array.mem_of_find?_eq_some hfind) hstart hrange (by omega)
        exact ⟨other, rfl, by omega⟩

/-! ## Groups of digits -/

theorem IsDigitOf.ne {c other : Char} {d : Nat} (h : IsDigitOf c d)
    (hother : decimalDigit? other = none) : c ≠ other := by
  rintro rfl
  rw [decimalDigit?_eq_some_iff.mpr h] at hother
  cases hother

theorem grouped_of_groupedDigits? {cs : List Char} {ds : List Nat}
    (h : groupedDigits? cs = some ds) : Grouped cs ds := by
  fun_induction groupedDigits? cs generalizing ds with
  | case1 => cases h
  | case2 c =>
    obtain ⟨d, hd, rfl⟩ := Option.map_eq_some_iff.mp h
    exact .last (decimalDigit?_eq_some_iff.mp hd)
  | case3 c cs ih =>
    simp only [Option.bind_eq_bind, Option.bind_eq_some_iff, Option.pure_def,
      Option.some.injEq] at h
    obtain ⟨d, hd, ds, hds, rfl⟩ := h
    exact .apart (decimalDigit?_eq_some_iff.mp hd) (ih hds)
  | case4 c cs _ _ ih =>
    simp only [Option.bind_eq_bind, Option.bind_eq_some_iff, Option.pure_def,
      Option.some.injEq] at h
    obtain ⟨d, hd, ds, hds, rfl⟩ := h
    exact .next (decimalDigit?_eq_some_iff.mp hd) (ih hds)

theorem Grouped.exists_cons {cs : List Char} {ds : List Nat} (h : Grouped cs ds) :
    ∃ c d rest, cs = c :: rest ∧ IsDigitOf c d := by
  cases h with
  | last hd => exact ⟨_, _, _, rfl, hd⟩
  | next hd _ => exact ⟨_, _, _, rfl, hd⟩
  | apart hd _ => exact ⟨_, _, _, rfl, hd⟩

theorem Grouped.groupedDigits? {cs : List Char} {ds : List Nat} (h : Grouped cs ds) :
    groupedDigits? cs = some ds := by
  induction h with
  | last hd => rw [Text.groupedDigits?, decimalDigit?_eq_some_iff.mpr hd]; rfl
  | next hd hrest ih =>
    obtain ⟨c, d, rest, rfl, hc⟩ := hrest.exists_cons
    rw [Text.groupedDigits?, decimalDigit?_eq_some_iff.mpr hd, ih]
    · rfl
    · exact List.cons_ne_nil _ _
    · rintro cs ⟨rfl, -⟩
      exact hc.ne (by decide) rfl
  | apart hd _ ih => rw [Text.groupedDigits?, decimalDigit?_eq_some_iff.mpr hd, ih]; rfl

theorem groupedDigits?_eq_some_iff {cs : List Char} {ds : List Nat} :
    groupedDigits? cs = some ds ↔ Grouped cs ds :=
  ⟨grouped_of_groupedDigits?, Grouped.groupedDigits?⟩

theorem Grouped.not_isPlainBlank {cs : List Char} {ds : List Nat} (h : Grouped cs ds) :
    ∀ c ∈ cs, isPlainBlank c = false := by
  have hdigit : ∀ {c d}, IsDigitOf c d → isPlainBlank c = false := by
    intro c d hd
    rw [isPlainBlank, isBlank_of_decimalDigit? (decimalDigit?_eq_some_iff.mpr hd), Bool.false_and]
  induction h with
  | last hd => simpa using hdigit hd
  | next hd _ ih => exact List.forall_mem_cons.mpr ⟨hdigit hd, ih⟩
  | apart hd _ ih =>
    exact List.forall_mem_cons.mpr ⟨hdigit hd, List.forall_mem_cons.mpr ⟨by decide, ih⟩⟩

/-! ## Numbers -/

theorem ofDigits_eq (ds : List Nat) : ofDigits ds = Nat.ofDigits 10 ds.reverse := by
  rw [ofDigits, Nat.ofDigits_eq_foldr, List.foldr_reverse]
  simp [Nat.add_comm]

theorem readNat?_eq_some_iff {cs : List Char} {k : Nat} :
    readNat? cs = some k ↔
      ∃ ds, Grouped cs ds ∧ ds.length ≤ maxDigits ∧ Nat.ofDigits 10 ds.reverse = k := by
  simp only [readNat?, Option.bind_eq_bind, Option.bind_eq_some_iff, groupedDigits?_eq_some_iff,
    Option.ite_none_right_eq_some, Option.some.injEq, ofDigits_eq]

/-- The part that is read after the white space: a sign and a number. -/
theorem readSigned?_eq_some_iff {cs : List Char} {n : Int} :
    readSigned? cs = some n ↔
      ∃ sign digits k, cs = sign ++ digits ∧ readNat? digits = some k ∧ Sign sign k n := by
  constructor
  · intro h
    unfold readSigned? at h
    split at h
    all_goals
      simp only [Option.map_eq_some_iff, Option.bind_eq_bind, Option.bind_eq_some_iff,
        Option.pure_def, Option.some.injEq] at h
      obtain ⟨_, ⟨k, hk, rfl⟩, rfl⟩ := h
    · exact ⟨['+'], _, k, rfl, hk, .plus⟩
    · exact ⟨['-'], _, k, rfl, hk, .minus⟩
    · exact ⟨[], _, k, rfl, hk, .none⟩
  · rintro ⟨sign, digits, k, rfl, hk, hsign⟩
    cases hsign with
    | plus => simp [readSigned?, hk]
    | minus => simp [readSigned?, hk]
    | none =>
      obtain ⟨ds, hgrouped, -⟩ := readNat?_eq_some_iff.mp hk
      obtain ⟨c, d, rest, rfl, hc⟩ := hgrouped.exists_cons
      rw [List.nil_append, readSigned?, hk]
      · rfl
      · rintro cs ⟨rfl, -⟩
        exact hc.ne (by decide) rfl
      · rintro cs ⟨rfl, -⟩
        exact hc.ne (by decide) rfl

theorem Sign.not_isPlainBlank {sign : List Char} {k : Nat} {n : Int} (h : Sign sign k n) :
    ∀ c ∈ sign, isPlainBlank c = false := by
  intro c hc
  cases h with
  | none => cases hc
  | plus =>
    rw [List.mem_singleton.mp hc]
    rfl
  | minus =>
    rw [List.mem_singleton.mp hc]
    rfl

/-- Integers are read from their spellings, and from nothing else. -/
theorem readInt?_eq_some_iff {s : String} {n : Int} : readInt? s = some n ↔ Spells s n := by
  rw [readInt?, readSigned?_eq_some_iff]
  constructor
  · rintro ⟨sign, digits, k, hparts, hk, hsign⟩
    obtain ⟨ds, hgrouped, hlength, rfl⟩ := readNat?_eq_some_iff.mp hk
    obtain ⟨before, after, hbefore, hafter, hs⟩ := exists_append_trimBy isPlainBlank s.toList
    rw [hparts] at hs
    exact .of hs hbefore hafter hgrouped hlength hsign
  · rintro ⟨hs, hbefore, hafter, hgrouped, hlength, hsign⟩
    refine ⟨_, _, _, ?_, readNat?_eq_some_iff.mpr ⟨_, hgrouped, hlength, rfl⟩, hsign⟩
    rw [hs, trimBy_append hbefore hafter]
    exact trimBy_eq_self (List.forall_mem_append.mpr
      ⟨hsign.not_isPlainBlank, hgrouped.not_isPlainBlank⟩)

end BucketStore.Text
