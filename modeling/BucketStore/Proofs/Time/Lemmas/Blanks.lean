import BucketStore.Proofs.Text.Lemmas.Numerals
import BucketStore.Proofs.Text.Lemmas.Splits
import BucketStore.Time.Timestamp

/-!
# White space in time stamps

A time stamp of RFC 3339 has white space at one place at most, before a day of one digit. So it has
two words at most, and an HTTP date has three at least.
-/

namespace BucketStore.Time

open BucketStore.Text

namespace Rfc3339

/-- The number of characters of white space. -/
abbrev blanks (cs : List Char) : Nat :=
  cs.countP isBlank

/-- What the reader takes off the front holds no more white space than the given number. -/
def Spends (most : Nat) {α : Type} (reader : List Char → Option (α × List Char)) : Prop :=
  ∀ cs a rest, reader cs = some (a, rest) → blanks cs ≤ blanks rest + most

/-- The reader of a digit takes no white space. -/
def IsDigitReader (digit : Char → Option Nat) : Prop :=
  ∀ c n, digit c = some n → isBlank c = false

theorem decimalDigit?_isDigitReader : IsDigitReader decimalDigit? :=
  fun _ _ h => isBlank_of_decimalDigit? h

theorem digitIn?_isDigitReader (low high : Nat) : IsDigitReader (digitIn? low high) := by
  intro c n h
  rw [digitIn?] at h
  split at h
  · rename_i hdigit
    exact isBlank_of_isDigit hdigit.1
  · cases h

theorem blanks_cons_of_not {c : Char} (h : isBlank c = false) (cs : List Char) :
    blanks (c :: cs) = blanks cs :=
  List.countP_cons_of_neg (by simp [h])

theorem blanks_cons_le (c : Char) (cs : List Char) : blanks (c :: cs) ≤ blanks cs + 1 := by
  simp only [blanks, List.countP_cons]
  split <;> omega

/-! ## Digits -/

theorem Spends.mono {α : Type} {reader : List Char → Option (α × List Char)} {k : Nat}
    (h : Spends 0 reader) : Spends k reader :=
  fun cs a rest hread => Nat.le_trans (h cs a rest hread) (Nat.le_add_right _ k)

theorem spends_two {first second : Char → Option Nat} (hfirst : IsDigitReader first)
    (hsecond : IsDigitReader second) : Spends 0 (two first second) := by
  intro cs n rest h
  match cs, h with
  | c :: d :: cs, h =>
      simp only [two, Option.bind_eq_bind, Option.bind_eq_some_iff] at h
      obtain ⟨m, hm, k, hk, hrest⟩ := h
      cases hrest
      rw [blanks_cons_of_not (hfirst c m hm), blanks_cons_of_not (hsecond d k hk)]
      exact Nat.le_refl _

theorem spends_one {digit : Char → Option Nat} (h : IsDigitReader digit) :
    Spends 0 (one digit) := by
  intro cs n rest hread
  cases cs with
  | nil => cases hread
  | cons c cs =>
      obtain ⟨m, hm, hrest⟩ := Option.map_eq_some_iff.mp hread
      cases hrest
      rw [blanks_cons_of_not (h c _ hm)]
      exact Nat.le_refl _

theorem spends_spaced : Spends 1 spaced := by
  intro cs n rest h
  unfold spaced at h
  split at h
  · rename_i cs
    have hdigit := spends_one (digitIn?_isDigitReader 1 9) cs n rest h
    exact Nat.le_trans (blanks_cons_le ' ' cs) (Nat.succ_le_succ hdigit)
  · cases h

theorem spends_firstOf {readers : List (List Char → Option (Nat × List Char))} {k : Nat}
    (h : ∀ reader ∈ readers, Spends k reader) : Spends k (firstOf readers) := by
  intro cs n rest hread
  obtain ⟨reader, hmem, hreader⟩ := List.exists_of_findSome?_eq_some hread
  exact h reader hmem cs n rest hreader

/-! ## Fields -/

theorem spends_year : Spends 0 year := by
  have htwo := spends_two decimalDigit?_isDigitReader decimalDigit?_isDigitReader
  intro cs n rest h
  simp only [year, Option.bind_eq_bind, Option.bind_eq_some_iff] at h
  obtain ⟨⟨m, middle⟩, hfirst, ⟨k, rest'⟩, hsecond, hrest⟩ := h
  cases hrest
  exact Nat.le_trans (htwo _ _ _ hfirst) (htwo _ _ _ hsecond)

theorem spends_month : Spends 0 month := by
  apply spends_firstOf
  simp only [List.forall_mem_cons]
  have hdigit := digitIn?_isDigitReader
  exact ⟨spends_two (hdigit _ _) (hdigit _ _), spends_two (hdigit _ _) (hdigit _ _),
    spends_one (hdigit _ _), nofun⟩

theorem spends_day : Spends 1 day := by
  apply spends_firstOf
  simp only [List.forall_mem_cons]
  have hdigit := digitIn?_isDigitReader
  exact ⟨(spends_two (hdigit _ _) (hdigit _ _)).mono,
    (spends_two (hdigit _ _) decimalDigit?_isDigitReader).mono,
    (spends_two (hdigit _ _) (hdigit _ _)).mono, (spends_one (hdigit _ _)).mono, spends_spaced,
    nofun⟩

theorem spends_hour : Spends 0 hour := by
  apply spends_firstOf
  simp only [List.forall_mem_cons]
  have hdigit := digitIn?_isDigitReader
  exact ⟨spends_two (hdigit _ _) (hdigit _ _), spends_two (hdigit _ _) decimalDigit?_isDigitReader,
    spends_one decimalDigit?_isDigitReader, nofun⟩

theorem spends_minute : Spends 0 minute := by
  apply spends_firstOf
  simp only [List.forall_mem_cons]
  exact ⟨spends_two (digitIn?_isDigitReader _ _) decimalDigit?_isDigitReader,
    spends_one decimalDigit?_isDigitReader, nofun⟩

theorem spends_second : Spends 0 second := by
  apply spends_firstOf
  simp only [List.forall_mem_cons]
  have hdigit := digitIn?_isDigitReader
  exact ⟨spends_two (hdigit _ _) (hdigit _ _), spends_two (hdigit _ _) decimalDigit?_isDigitReader,
    spends_one decimalDigit?_isDigitReader, nofun⟩

theorem blanks_le_of_letter {c : Char} (hc : isBlank c = false) (hlower : isBlank c.toLower = false)
    {cs rest : List Char} (h : letter c cs = some rest) : blanks cs ≤ blanks rest := by
  cases cs with
  | nil => cases h
  | cons d cs =>
      rw [letter] at h
      split at h
      · rename_i hd
        cases h
        rcases hd with rfl | rfl
        · exact Nat.le_of_eq (blanks_cons_of_not hc _)
        · exact Nat.le_of_eq (blanks_cons_of_not hlower _)
      · cases h

theorem spends_seconds : Spends 1 seconds := by
  intro cs s rest h
  simp only [seconds, Option.bind_eq_bind, Option.bind_eq_some_iff] at h
  obtain ⟨⟨y, cs₁⟩, hyear, cs₂, hdash, ⟨mo, cs₃⟩, hmonth, cs₄, hdash', ⟨d, cs₅⟩, hday, cs₆, hT,
    ⟨ho, cs₇⟩, hhour, cs₈, hcolon, ⟨mi, cs₉⟩, hminute, cs₁₀, hcolon', ⟨se, cs₁₁⟩, hsecond, hrest⟩ := h
  cases hrest
  have hyears : blanks cs ≤ blanks cs₂ := Nat.le_trans (spends_year _ _ _ hyear)
    (blanks_le_of_letter (by decide) (by decide) hdash)
  have hmonths : blanks cs₂ ≤ blanks cs₄ := Nat.le_trans (spends_month _ _ _ hmonth)
    (blanks_le_of_letter (by decide) (by decide) hdash')
  have hdays : blanks cs₄ ≤ blanks cs₅ + 1 := spends_day _ _ _ hday
  have hhours : blanks cs₅ ≤ blanks cs₇ :=
    Nat.le_trans (blanks_le_of_letter (by decide) (by decide) hT) (spends_hour _ _ _ hhour)
  have hminutes : blanks cs₇ ≤ blanks cs₉ :=
    Nat.le_trans (blanks_le_of_letter (by decide) (by decide) hcolon) (spends_minute _ _ _ hminute)
  have hseconds : blanks cs₉ ≤ blanks cs₁₁ :=
    Nat.le_trans (blanks_le_of_letter (by decide) (by decide) hcolon') (spends_second _ _ _ hsecond)
  change blanks cs ≤ blanks cs₁₁ + 1
  omega

/-! ## Fractions and zones -/

theorem blanks_eq_zero {cs : List Char} (h : ∀ c ∈ cs, isBlank c = false) : blanks cs = 0 := by
  rw [blanks, List.countP_eq_zero]
  intro c hc
  simp [h c hc]

theorem blanks_upToSix {digit : Char → Option Nat} (h : IsDigitReader digit) (cs : List Char) :
    blanks cs = blanks (upToSix digit cs).2 := by
  obtain ⟨ds, hds⟩ : ∃ ds, ds = (cs.take 6).takeWhile fun c => (digit c).isSome := ⟨_, rfl⟩
  have hdigits : ∀ c ∈ ds, isBlank c = false := by
    intro c hc
    rw [hds] at hc
    have hsome := List.mem_takeWhile_imp (p := fun c => (digit c).isSome) hc
    obtain ⟨n, hn⟩ := Option.isSome_iff_exists.mp hsome
    exact h c n hn
  obtain ⟨tail, htail⟩ : ds <+: cs := by
    rw [hds]
    exact (List.takeWhile_prefix _).trans (List.take_prefix 6 cs)
  have hrest : (upToSix digit cs).2 = tail := by
    simp only [upToSix, ← hds]
    rw [← htail, List.drop_left]
  rw [hrest, ← htail, blanks, List.countP_append]
  exact (congrArg (· + _) (blanks_eq_zero hdigits)).trans (Nat.zero_add _)

theorem spends_fraction : Spends 0 fraction := by
  intro cs n rest h
  have hdigits := blanks_upToSix (digitIn?_isDigitReader 0 9) cs
  simp only [fraction] at h
  split at h
  · cases h
  · cases h
    exact Nat.le_of_eq hdigits

theorem blanks_colon (cs : List Char) : blanks cs = blanks (colon cs).2 := by
  unfold colon
  split
  · exact blanks_cons_of_not (by decide) _
  · rfl

theorem blanks_offsetFraction (cs : List Char) : blanks cs = blanks (offsetFraction cs).2 := by
  unfold offsetFraction
  split
  · simp only
    split
    · rfl
    · exact (blanks_cons_of_not (by decide) _).trans
        (blanks_upToSix decimalDigit?_isDigitReader _)
  · rfl

theorem spends_offsetLength : Spends 0 offsetLength := by
  intro cs n rest h
  have hhours := spends_two decimalDigit?_isDigitReader decimalDigit?_isDigitReader
  have hsixties := spends_two (digitIn?_isDigitReader 0 5) decimalDigit?_isDigitReader
  simp only [offsetLength, Option.bind_eq_bind, Option.bind_eq_some_iff] at h
  obtain ⟨⟨ho, cs₁⟩, hhour, ⟨mi, cs₂⟩, hminute, h⟩ := h
  have hfront : blanks cs ≤ blanks cs₂ := by
    have hbefore : blanks cs ≤ blanks cs₁ := hhours _ _ _ hhour
    have hafter : blanks (colon cs₁).2 ≤ blanks cs₂ := hsixties _ _ _ hminute
    exact Nat.le_trans hbefore (Nat.le_trans (Nat.le_of_eq (blanks_colon cs₁)) hafter)
  cases hsecond : two (digitIn? 0 5) decimalDigit? (colon cs₂).2 with
  | none =>
      simp only [hsecond] at h
      cases h
      exact hfront
  | some read =>
      obtain ⟨se, cs₃⟩ := read
      simp only [hsecond] at h
      split at h
      · cases h
        have hcolon := blanks_colon cs₂
        have hseconds := hsixties _ _ _ hsecond
        have hfraction := blanks_offsetFraction cs₃
        omega
      · cases h

theorem spends_zone : Spends 0 zone := by
  intro cs n rest h
  unfold zone at h
  split at h
  · cases h
    exact Nat.le_of_eq (blanks_cons_of_not (by decide) rest)
  · obtain ⟨⟨m, rest'⟩, hlength, heq⟩ := Option.map_eq_some_iff.mp h
    cases heq
    rw [blanks_cons_of_not (by decide)]
    exact spends_offsetLength _ _ _ hlength
  · obtain ⟨⟨m, rest'⟩, hlength, heq⟩ := Option.map_eq_some_iff.mp h
    cases heq
    rw [blanks_cons_of_not (by decide)]
    exact spends_offsetLength _ _ _ hlength
  · cases h

/-! ## Layouts -/

theorem blanks_of_wholeSeconds {cs : List Char} {t : DateTime} (h : wholeSeconds cs = some t) :
    blanks cs ≤ 1 := by
  simp only [wholeSeconds, Option.bind_eq_bind, Option.bind_eq_some_iff] at h
  obtain ⟨⟨s, cs₁⟩, hseconds, ⟨offset, rest⟩, hzone, h⟩ := h
  split at h
  · rename_i hempty
    have hrest : rest = [] := List.isEmpty_iff.mp hempty
    have hfront := spends_seconds _ _ _ hseconds
    have hend := spends_zone _ _ _ hzone
    rw [hrest] at hend
    exact Nat.le_trans hfront (Nat.succ_le_succ hend)
  · cases h

theorem blanks_of_fraction {cs rest : List Char} {s : Seconds} {f : Nat} {cs₁ cs₂ : List Char}
    (hseconds : seconds cs = some (s, cs₁)) (hpoint : letter '.' cs₁ = some cs₂)
    (hfraction : fraction cs₂ = some (f, rest)) : blanks cs ≤ blanks rest + 1 := by
  have hfront := spends_seconds _ _ _ hseconds
  have hmiddle := blanks_le_of_letter (by decide) (by decide) hpoint
  have hend := spends_fraction _ _ _ hfraction
  omega

theorem blanks_of_fractional {cs : List Char} {t : DateTime} (h : fractional cs = some t) :
    blanks cs ≤ 1 := by
  simp only [fractional, Option.bind_eq_bind, Option.bind_eq_some_iff] at h
  obtain ⟨⟨s, cs₁⟩, hseconds, cs₂, hpoint, ⟨f, cs₃⟩, hfraction, ⟨offset, rest⟩, hzone, h⟩ := h
  split at h
  · rename_i hempty
    have hrest : rest = [] := List.isEmpty_iff.mp hempty
    have hfront := blanks_of_fraction hseconds hpoint hfraction
    have hend := spends_zone _ _ _ hzone
    rw [hrest] at hend
    exact Nat.le_trans hfront (Nat.succ_le_succ hend)
  · cases h

theorem blanks_of_universal {cs : List Char} {t : DateTime} (h : universal cs = some t) :
    blanks cs ≤ 1 := by
  simp only [universal, Option.bind_eq_bind, Option.bind_eq_some_iff] at h
  obtain ⟨⟨s, cs₁⟩, hseconds, cs₂, hpoint, ⟨f, cs₃⟩, hfraction, rest, hletter, h⟩ := h
  split at h
  · rename_i hempty
    have hrest : rest = [] := List.isEmpty_iff.mp hempty
    have hfront := blanks_of_fraction hseconds hpoint hfraction
    have hend : blanks cs₃ ≤ blanks rest := blanks_le_of_letter (by decide) (by decide) hletter
    rw [hrest] at hend
    exact Nat.le_trans hfront (Nat.succ_le_succ hend)
  · cases h

/-! ## The cut -/

/-- The cut drops nothing but digits. -/
theorem blanks_cutFrom (run : Option Nat) (cs : List Char) :
    blanks (cutFrom run cs) = blanks cs := by
  have hcons (c : Char) {cs ds : List Char} (h : blanks cs = blanks ds) :
      blanks (c :: cs) = blanks (c :: ds) := by
    simp only [blanks, List.countP_cons]
    exact congrArg (· + _) h
  fun_induction cutFrom run cs with
  | case1 => rfl
  | case2 run cs ih => exact hcons '.' ih
  | case3 c cs hpoint n hdecimal hn ih => exact hcons c ih
  | case4 c cs hpoint n hdecimal hn ih =>
      obtain ⟨d, hd⟩ := Option.isSome_iff_exists.mp hdecimal
      rw [ih, blanks_cons_of_not (isBlank_of_decimalDigit? hd)]
  | case5 c cs hpoint n hdecimal ih => exact hcons c ih
  | case6 c cs hpoint ih => exact hcons c ih

end Rfc3339

/-! ## HTTP dates -/

namespace HttpDate

theorem completeZone_of_length_le {ws : List Word} (h : ws.length ≤ 2) :
    (completeZone (splitHyphens ws)).take 5 = ws := by
  match ws, h with
  | [], _ => rfl
  | [_], _ => rfl
  | [_, _], _ => rfl

theorem length_dropDayName_le (ws : List Word) : (dropDayName ws).length ≤ ws.length := by
  cases ws with
  | nil => exact Nat.le_refl 0
  | cons w ws =>
      rw [dropDayName]
      split
      · exact Nat.le_succ ws.length
      · exact Nat.le_refl _

/-- Two words are no HTTP date. -/
theorem fields?_of_length_words_le {s : String} (h : (words s.toList).length ≤ 2) :
    fields? s = none := by
  have hdrop := Nat.le_trans (length_dropDayName_le (words s.toList)) h
  rw [fields?, completeZone_of_length_le hdrop]
  split
  · rename_i d m y time zone hwords
    rw [hwords] at hdrop
    have hfive : [d, m, y, time, zone].length = 5 := rfl
    omega
  · rfl

theorem fields?_trim (s : String) : fields? (trim s) = fields? s := by
  rw [fields?, trim, String.toList_ofList, words_trim, fields?]

theorem parse_trim (s : String) : parse (trim s) = parse s := by
  unfold parse
  rw [fields?_trim, fields?_trim]

end HttpDate

theorem Timestamp.of_rfc3339? {s : String} {t : DateTime} (h : rfc3339? s = some t) :
    Rfc3339.wholeSeconds (Rfc3339.cutFractions s.toList) = some t ∨
      Rfc3339.fractional (Rfc3339.cutFractions s.toList) = some t ∨
      Rfc3339.universal (Rfc3339.cutFractions s.toList) = some t := by
  obtain ⟨reader, hmem, hread⟩ := List.exists_of_findSome?_eq_some h
  simp only [List.mem_cons, List.not_mem_nil, or_false] at hmem
  rcases hmem with rfl | rfl | rfl
  · exact .inl hread
  · exact .inr (.inl hread)
  · exact .inr (.inr hread)

/-- No text is both a time stamp of RFC 3339 and an HTTP date. -/
theorem Timestamp.fields?_of_rfc3339? {s : String} {t : DateTime}
    (h : Timestamp.rfc3339? s = some t) : HttpDate.fields? s = none := by
  have hblanks : Rfc3339.blanks (Rfc3339.cutFractions s.toList) ≤ 1 := by
    rcases of_rfc3339? h with hread | hread | hread
    · exact Rfc3339.blanks_of_wholeSeconds hread
    · exact Rfc3339.blanks_of_fractional hread
    · exact Rfc3339.blanks_of_universal hread
  rw [Rfc3339.cutFractions, Rfc3339.blanks_cutFrom] at hblanks
  have hwords : (words s.toList).length ≤ Rfc3339.blanks s.toList + 1 := length_splitBy_le isBlank _
  exact HttpDate.fields?_of_length_words_le (Nat.le_trans hwords (Nat.succ_le_succ hblanks))

theorem Timestamp.parse_of_fields? {s : String} {f : HttpDate.Fields}
    (h : HttpDate.fields? s = some f) : parse s = HttpDate.parse s := by
  have hnone : rfc3339? (trim s) = none := by
    cases hread : rfc3339? (trim s) with
    | none => rfl
    | some t =>
        have hfields := fields?_of_rfc3339? hread
        rw [HttpDate.fields?_trim, h] at hfields
        cases hfields
  unfold parse
  simp only [hnone, HttpDate.parse_trim]

end BucketStore.Time
