import BucketStore.Proofs.Endpoint.Lemmas.HostChars
import BucketStore.Proofs.Store.Entries
import BucketStore.Proofs.Text.Lemmas.Numerals

/-!
# Flags

Which values read as true. The letters of the word are small forms of ASCII letters alone, and no
other value than a text is written with its first letter.
-/

namespace BucketStore

open BucketStore.Text

/-! ## Small forms of ASCII words -/

namespace Text

theorem toLower_of_not_ascii {c : Char} (h : ¬ c.toNat < 128) : c.toLower = c := by
  refine dif_neg ?_
  rintro ⟨-, hZ⟩
  have hlt : c.toNat ≤ 'Z'.toNat := UInt32.le_iff_toNat_le.mp hZ
  exact h (Nat.lt_of_le_of_lt hlt (by decide))

theorem lowerFrom_cons {c : Char} (h : c ≠ capitalSigma) (before cs : List Char) :
    lowerFrom before (c :: cs) = lowerChar c ++ lowerFrom (c :: before) cs := by
  rw [lowerFrom, if_neg h]

theorem lowerFrom_of_ascii {cs : List Char} (h : ∀ c ∈ cs, c.toNat < 128) (before : List Char) :
    lowerFrom before cs = cs.map Char.toLower := by
  induction cs generalizing before with
  | nil => rfl
  | cons c cs ih =>
      have hc := h c List.mem_cons_self
      have hsigma : c ≠ capitalSigma := by
        rintro rfl
        exact absurd hc (by decide)
      rw [lowerFrom_cons hsigma, lowerChar, if_pos hc, List.map_cons,
        ih fun d hd => h d (List.mem_cons_of_mem c hd), List.singleton_append]

/-- The Kelvin sign leaves a k behind. -/
theorem mem_lowerFrom_of_kelvinSign {cs : List Char} (h : Endpoint.kelvinSign ∈ cs)
    (before : List Char) : 'k' ∈ lowerFrom before cs := by
  induction cs generalizing before with
  | nil => cases h
  | cons c cs ih =>
      rcases List.mem_cons.mp h with rfl | h
      · rw [lowerFrom_cons (by decide)]
        refine List.mem_append_left _ ?_
        rw [lowerChar, if_neg (by decide), if_neg (by decide), Endpoint.mapRows?_kelvinSign]
        exact List.mem_singleton.mpr rfl
      · rw [lowerFrom]
        exact List.mem_append_right _ (ih h _)

/-- A word of host characters without a k is the small form of what is that word in any case: other
characters have no host characters for a small form, the Kelvin sign apart. -/
theorem lowerFrom_eq_iff {word : List Char} (hhost : ∀ c ∈ word, Endpoint.isHostChar c = true)
    (hk : 'k' ∉ word) (before cs : List Char) :
    lowerFrom before cs = word ↔ cs.map Char.toLower = word := by
  suffices hascii : (lowerFrom before cs = word ∨ cs.map Char.toLower = word) →
      ∀ c ∈ cs, c.toNat < 128 by
    constructor
    · intro h
      rw [← lowerFrom_of_ascii (hascii (.inl h)) before, h]
    · intro h
      rw [lowerFrom_of_ascii (hascii (.inr h)) before, h]
  rintro (rfl | rfl) c hc
  · have hall : cs.all Endpoint.isNameChar = true :=
      (Endpoint.all_isHostChar_lowerFrom before cs).symm.trans (List.all_eq_true.mpr hhost)
    have hname := List.all_eq_true.mp hall c hc
    rw [Endpoint.isNameChar, Bool.or_eq_true, beq_iff_eq] at hname
    rcases hname with hname | rfl
    · exact Endpoint.toNat_lt_of_isHostChar hname
    · exact absurd (mem_lowerFrom_of_kelvinSign hc before) hk
  · by_contra hnot
    have hlower := hhost c.toLower (List.mem_map_of_mem hc)
    rw [toLower_of_not_ascii hnot] at hlower
    exact hnot (Endpoint.toNat_lt_of_isHostChar hlower)

theorem lower_eq_iff {word : List Char} (hhost : ∀ c ∈ word, Endpoint.isHostChar c = true)
    (hk : 'k' ∉ word) (s : String) :
    lower s = .ofList word ↔ s.toList.map Char.toLower = word := by
  rw [lower, String.ofList_inj, lowerFrom_eq_iff hhost hk]

end Text

/-! ## First characters of values -/

namespace Value

/-- The character is no white space, and no first letter of the word. -/
def isOtherFirst (c : Char) : Bool :=
  !isBlank c && c.toLower != 't'

theorem isOtherFirst_of_isDigit {c : Char} (h : c.isDigit = true) : isOtherFirst c = true := by
  have hascii : c.toNat < 128 := Nat.lt_of_le_of_lt (toNat_of_isDigit h).2 (by decide)
  have hall : ∀ n < 128, (Char.ofNat n).isDigit = true → isOtherFirst (Char.ofNat n) = true := by
    decide
  exact Text.ascii_forall (P := fun c => c.isDigit = true → isOtherFirst c = true) hall hascii h

theorem exists_toDigits_eq_cons (n : Nat) :
    ∃ c cs, Nat.toDigits 10 n = c :: cs ∧ c.isDigit = true := by
  obtain ⟨c, cs, hcons⟩ := List.exists_cons_of_ne_nil (Nat.toDigits_ne_nil (b := 10) (n := n))
  have hmem : c ∈ Nat.toDigits 10 n := by
    rw [hcons]
    exact List.mem_cons_self
  exact ⟨c, cs, hcons, Nat.isDigit_of_mem_toDigits (by decide : 0 < 10) (by decide) hmem⟩

theorem exists_toString_eq_cons (n : Int) :
    ∃ c cs, (toString n).toList = c :: cs ∧ isOtherFirst c = true := by
  cases n with
  | ofNat n =>
      obtain ⟨c, cs, hcons, hc⟩ := exists_toDigits_eq_cons n
      have hrepr : (toString (Int.ofNat n)).toList = Nat.toDigits 10 n := Nat.toList_repr
      exact ⟨c, cs, hrepr.trans hcons, isOtherFirst_of_isDigit hc⟩
  | negSucc n =>
      have hrepr : (toString (Int.negSucc n)).toList = '-' :: (n + 1).repr.toList := by
        change ("-" ++ (n + 1).repr).toList = _
        rw [String.toList_append]
        rfl
      exact ⟨_, _, hrepr, by decide⟩

/-- A magnitude is written with a digit in front. -/
theorem exists_magnitudeText_eq_cons (n : Nat) (point : Int) :
    ∃ c cs, Real64.magnitudeText (Nat.toDigits 10 n) point = c :: cs ∧ c.isDigit = true := by
  obtain ⟨c, cs, hcons, hc⟩ := exists_toDigits_eq_cons n
  simp only [Real64.magnitudeText, Real64.positional, hcons]
  split
  · split
    · exact ⟨'0', _, rfl, by decide⟩
    · rename_i hpoint
      obtain ⟨k, hk⟩ := Int.eq_succ_of_zero_lt (Int.not_le.mp hpoint)
      rw [hk]
      exact ⟨c, _, rfl, hc⟩
  · exact ⟨c, _, rfl, hc⟩

theorem exists_realText_eq_cons (x : Real64) :
    ∃ c cs, x.text.toList = c :: cs ∧ isOtherFirst c = true := by
  rw [Real64.text]
  split
  · exact ⟨_, _, rfl, by decide⟩
  · simp only
    split
    · rw [String.toList_ofList]
      cases x.isNegative with
      | true => exact ⟨_, _, rfl, by decide⟩
      | false => exact ⟨_, _, rfl, by decide⟩
    · rw [String.toList_ofList]
      cases x.isNegative with
      | true => exact ⟨_, _, rfl, by decide⟩
      | false =>
          obtain ⟨c, cs, hcons, hc⟩ := exists_magnitudeText_eq_cons x.shortest.digits
            (if x.isZero then 1 else (x.shortest.characters.length : Int) + x.shortest.exponent)
          exact ⟨c, cs, hcons, isOtherFirst_of_isDigit hc⟩

/-- Only texts and truth values may be written with the first letter of the word. -/
theorem exists_shown_eq_cons {v : Value} (hbool : ∀ b, v ≠ .bool b) (htext : ∀ s, v ≠ .text s) :
    ∃ c cs, v.shown.toList = c :: cs ∧ isOtherFirst c = true := by
  cases v with
  | null => exact ⟨_, _, rfl, by decide⟩
  | bool b => exact absurd rfl (hbool b)
  | int n => exact exists_toString_eq_cons n
  | real x => exact exists_realText_eq_cons x
  | text s => exact absurd rfl (htext s)
  | list items =>
      rw [shown, String.toList_append, String.toList_append]
      exact ⟨_, _, rfl, by decide⟩
  | object fields =>
      rw [shown, String.toList_append, String.toList_append]
      exact ⟨_, _, rfl, by decide⟩

end Value

/-! ## Flags -/

namespace Payload

theorem lower_trim_eq_iff (s : String) :
    lower (trim s) = "true" ↔ (trimBy isBlank s.toList).map Char.toLower = ['t', 'r', 'u', 'e'] := by
  have hhost : ∀ c ∈ ['t', 'r', 'u', 'e'], Endpoint.isHostChar c = true :=
    List.all_eq_true.mp (by decide)
  rw [show "true" = String.ofList ['t', 'r', 'u', 'e'] from rfl, lower_eq_iff hhost (by decide),
    trim, String.toList_ofList]

theorem isBlank_of_toLower_mem {c : Char} (h : c.toLower ∈ ['t', 'r', 'u', 'e']) :
    isBlank c = false := by
  have hascii : c.toNat < 128 := by
    by_contra hnot
    rw [toLower_of_not_ascii hnot] at h
    have hall : ['t', 'r', 'u', 'e'].all (fun d => decide (d.toNat < 128)) = true := by decide
    exact hnot (of_decide_eq_true (List.all_eq_true.mp hall c h))
  have hall : ∀ n < 128, (Char.ofNat n).toLower ∈ ['t', 'r', 'u', 'e'] →
      isBlank (Char.ofNat n) = false := by decide
  exact Text.ascii_forall
    (P := fun c => c.toLower ∈ ['t', 'r', 'u', 'e'] → isBlank c = false) hall hascii h

/-- Around the word only white space is taken off. -/
theorem trimBy_of_word {before word after : List Char} (hbefore : ∀ c ∈ before, isBlank c = true)
    (hword : word.map Char.toLower = ['t', 'r', 'u', 'e'])
    (hafter : ∀ c ∈ after, isBlank c = true) : trimBy isBlank (before ++ word ++ after) = word := by
  have hblank : ∀ c ∈ word, isBlank c = false := by
    intro c hc
    apply isBlank_of_toLower_mem
    rw [← hword]
    exact List.mem_map_of_mem hc
  rw [trimBy_append hbefore hafter, trimBy_eq_self hblank]

theorem flag_text_iff (s : String) : flag (.text s) = true ↔ SaysTrue (.text s) := by
  have hflag : flag (.text s) = true ↔ lower (trim s) = "true" := beq_iff_eq
  rw [hflag, lower_trim_eq_iff]
  constructor
  · intro hword
    obtain ⟨before, after, hbefore, hafter, hs⟩ := exists_append_trimBy isBlank s.toList
    exact .text hs hbefore hword hafter
  · intro h
    cases h with
    | text hs hbefore hword hafter => rw [hs, trimBy_of_word hbefore hword hafter, hword]

theorem not_flag_of_other {v : Value} (hbool : ∀ b, v ≠ .bool b) (htext : ∀ s, v ≠ .text s) :
    flag v = false := by
  obtain ⟨c, cs, hcons, hc⟩ := Value.exists_shown_eq_cons hbool htext
  simp only [Value.isOtherFirst, Bool.and_eq_true, Bool.not_eq_true', bne_iff_ne] at hc
  have hflag : flag v = (lower (trim v.shown) == "true") := by
    cases v with
    | bool b => exact absurd rfl (hbool b)
    | text s => exact absurd rfl (htext s)
    | _ => rfl
  have htrim : trimBy isBlank (c :: cs) = c :: cs.rdropWhile isBlank := by
    rw [trimBy, List.dropWhile_cons_of_neg (by simp [hc.1]), ← List.rdropWhile]
    exact rdropWhile_append_cons hc.1 [] cs
  rw [hflag, beq_eq_false_iff_ne, ne_eq, lower_trim_eq_iff, hcons, htrim, List.map_cons,
    List.cons.injEq]
  exact fun h => hc.2 h.1

theorem flag_other_iff {v : Value} (hbool : ∀ b, v ≠ .bool b) (htext : ∀ s, v ≠ .text s) :
    flag v = true ↔ SaysTrue v := by
  refine iff_of_false (by simp [not_flag_of_other hbool htext]) fun h => ?_
  cases h with
  | bool => exact hbool true rfl
  | text => exact htext _ rfl

/-- A flag reads as true just if it says so. -/
theorem flag_iff {v : Value} : flag v = true ↔ SaysTrue v := by
  cases v with
  | bool b =>
      constructor
      · rintro rfl
        exact .bool
      · rintro ⟨⟩
        rfl
  | text s => exact flag_text_iff s
  | null | int | real | list | object => exact flag_other_iff nofun nofun

end Payload

end BucketStore
