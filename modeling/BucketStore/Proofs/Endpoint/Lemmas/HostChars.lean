import BucketStore.Endpoint.Resolve
import BucketStore.Proofs.Text.Lemmas.Letters

/-!
# The characters of a host

A host is checked in small letters and kept as written. So it is written in host characters, and in
the one other character whose small form is one: the Kelvin sign, a capital k of its own.
-/

namespace BucketStore.Endpoint

open BucketStore.Text

/-- The sign of the unit of temperature, which has the letter k for its small form. -/
def kelvinSign : Char := '\u212A'

/-- Whether the small form of the character is a host character. -/
def isNameChar (c : Char) : Bool :=
  isHostChar c || c == kelvinSign

theorem isNameChar_of_isHostChar {c : Char} (h : isHostChar c = true) : isNameChar c = true := by
  rw [isNameChar, h, Bool.true_or]

/-- The characters of a label with the point after it. -/
theorem isHostChar_label {label : List Char} (h : ∀ c ∈ label, isHostChar c = true) :
    ∀ c ∈ label ++ ['.'], isHostChar c = true := by
  intro c hc
  rcases List.mem_append.mp hc with hc | hc
  · exact h c hc
  · rw [List.mem_singleton.mp hc]
    rfl

theorem toNat_lt_of_isHostChar {c : Char} (h : isHostChar c = true) : c.toNat < 128 := by
  simp only [isHostChar, Bool.or_eq_true, beq_iff_eq] at h
  rcases h with ((h | rfl) | rfl) | rfl
  · exact toNat_lt_of_isAlphanum h
  · decide
  · decide
  · decide

theorem isHostChar_ofNat_eq_false {n : Nat} (h : 128 ≤ n) : isHostChar (Char.ofNat n) = false := by
  rw [Bool.eq_false_iff]
  intro hhost
  rcases toNat_ofNat n with hn | hn
  · have hlt := toNat_lt_of_isHostChar hhost
    omega
  · rw [← Char.ofNat_toNat (Char.ofNat n), hn] at hhost
    exact absurd hhost (by decide)

/-! ## Small forms -/

/-- No row of small letters leads to an ASCII letter, but that of the Kelvin sign. -/
theorem row_lowerRows : ∀ row ∈ lowerRows,
    row.1 = kelvinSign.toNat ∧ row.2.1 = kelvinSign.toNat ∨ 128 ≤ row.1 + row.2.2.2 := by
  decide +kernel

theorem of_mapRows?_lowerRows {n m : Nat} (h : mapRows? lowerRows n = some m) :
    n = kelvinSign.toNat ∨ 128 ≤ m := by
  obtain ⟨row, hrow, hfirst, hlast, rfl⟩ := exists_row_of_mapRows? h
  have himage := row_lowerRows row hrow
  omega

theorem mapRows?_kelvinSign : mapRows? lowerRows kelvinSign.toNat = some 'k'.toNat := by
  decide +kernel

theorem all_isHostChar_lowerChar (c : Char) :
    (lowerChar c).all isHostChar = isNameChar c := by
  by_cases hascii : c.toNat < 128
  · exact ascii_forall (P := fun c => (lowerChar c).all isHostChar = isNameChar c)
      (by decide +kernel) hascii
  · have hhost : isHostChar c = false := by
      rw [Bool.eq_false_iff]
      exact fun h => hascii (toNat_lt_of_isHostChar h)
    rw [lowerChar, if_neg hascii]
    split
    · rename_i hdotted
      rw [beq_iff_eq.mp hdotted]
      decide +kernel
    · by_cases hkelvin : c = kelvinSign
      · rw [hkelvin, mapRows?_kelvinSign]
        decide +kernel
      · have hname : isNameChar c = false := by simp [isNameChar, hhost, hkelvin]
        rw [hname]
        cases hrow : mapRows? lowerRows c.toNat with
        | none => simp [hhost]
        | some n =>
            have hn : 128 ≤ n := by
              refine (of_mapRows?_lowerRows hrow).resolve_left fun h => hkelvin ?_
              rw [← Char.ofNat_toNat c, h, Char.ofNat_toNat]
            simp [isHostChar_ofNat_eq_false hn]

theorem all_isHostChar_lowerFrom (before cs : List Char) :
    (lowerFrom before cs).all isHostChar = cs.all isNameChar := by
  induction cs generalizing before with
  | nil => rfl
  | cons c cs ih =>
      rw [lowerFrom, List.all_append, ih, List.all_cons]
      congr 1
      by_cases hsigma : c = capitalSigma
      · rw [if_pos hsigma, hsigma]
        split <;> decide +kernel
      · rw [if_neg hsigma, all_isHostChar_lowerChar]

theorem toList_lower (cs : List Char) : (lower (.ofList cs)).toList = lowerFrom [] cs := by
  rw [lower, String.toList_ofList, String.toList_ofList]

/-- The host in small letters is one of host characters just if it is written in name characters. -/
theorem all_isHostChar_lowerHost (host : List Char) :
    (Authority.lowerHost host).all isHostChar = host.all isNameChar := by
  have hsplit : host.all isNameChar = ((host.takeWhile fun c => c != '%').all isNameChar &&
      (host.dropWhile fun c => c != '%').all isNameChar) := by
    rw [← List.all_append, List.takeWhile_append_dropWhile]
  rw [Authority.lowerHost, List.all_append, toList_lower, all_isHostChar_lowerFrom, hsplit]
  congr 1
  -- What is left of the host is empty or begins with a percent sign.
  cases hscope : host.dropWhile fun c => c != '%' with
  | nil => rfl
  | cons c scope =>
      have hpercent : c = '%' := by
        have hhead := List.head?_dropWhile_not (fun c => c != '%') host
        rw [hscope] at hhead
        simpa using hhead
      rw [hpercent]
      rfl

theorem lowerChar_ne_nil (c : Char) : lowerChar c ≠ [] := by
  unfold lowerChar
  split
  · exact List.cons_ne_nil _ _
  · split
    · exact List.cons_ne_nil _ _
    · split <;> exact List.cons_ne_nil _ _

theorem lowerFrom_cons_ne_nil (before : List Char) (c : Char) (cs : List Char) :
    lowerFrom before (c :: cs) ≠ [] := by
  rw [lowerFrom]
  refine List.append_ne_nil_of_left_ne_nil ?_ _
  split
  · split <;> exact List.cons_ne_nil _ _
  · exact lowerChar_ne_nil c

theorem lowerHost_ne_nil {host : List Char} (h : host ≠ []) : Authority.lowerHost host ≠ [] := by
  cases host with
  | nil => exact absurd rfl h
  | cons c cs =>
      by_cases hpercent : c = '%'
      · refine List.append_ne_nil_of_right_ne_nil _ ?_
        rw [hpercent, List.dropWhile_cons_of_neg (by decide)]
        exact List.cons_ne_nil _ _
      · refine List.append_ne_nil_of_left_ne_nil ?_ _
        rw [toList_lower, List.takeWhile_cons_of_pos (by simpa using hpercent)]
        exact lowerFrom_cons_ne_nil _ _ _

end BucketStore.Endpoint
