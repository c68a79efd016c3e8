import BucketStore.Proofs.Time.Lemmas.Stamps
import BucketStore.Time.Timestamp

/-!
# Time stamps as they are written

A time stamp reads as the day, the time of day and the offset that are written in it, to the
microsecond, whatever white space stands around it.
-/

namespace BucketStore.Time

open BucketStore.Text

namespace Rfc3339

theorem isBlank_of_mem_padded {width n : Nat} {c : Char}
    (hc : c ∈ (DateTime.padded width n).toList) : isBlank c = false :=
  isBlank_of_isDigit (isDigit_of_mem_padded hc)

theorem isBlank_of_mem_zone {z : Zone} {c : Char} (hc : c ∈ z.text.toList) : isBlank c = false := by
  cases z with
  | universal =>
      rw [List.mem_singleton.mp hc]
      decide
  | signed o =>
      rw [Zone.text, toList_text] at hc
      simp only [List.mem_cons, List.mem_append] at hc
      rcases hc with rfl | hours | rfl | minutes
      · cases o.west <;> decide
      · exact isBlank_of_mem_padded hours
      · decide
      · exact isBlank_of_mem_padded minutes

theorem isBlank_of_mem_front {s : Stamp} {c : Char} (hc : c ∈ s.front) : isBlank c = false := by
  simp only [Stamp.front, List.mem_append, List.mem_cons] at hc
  rcases hc with year | rfl | month | rfl | day | rfl | hour | rfl | minute | rfl | second
  · exact isBlank_of_mem_padded year
  · decide
  · exact isBlank_of_mem_padded month
  · decide
  · exact isBlank_of_mem_padded day
  · decide
  · exact isBlank_of_mem_padded hour
  · decide
  · exact isBlank_of_mem_padded minute
  · decide
  · exact isBlank_of_mem_padded second

theorem isBlank_of_mem_fraction {s : Stamp} {c : Char} (hc : c ∈ s.fractionText.toList) :
    isBlank c = false := by
  rw [Stamp.fractionText] at hc
  split at hc
  · rename_i fraction hfraction
    simp only [String.toList_append, Numeral.text, String.toList_ofList, List.mem_append] at hc
    rcases hc with point | digit
    · rw [List.mem_singleton.mp point]
      decide
    · exact isBlank_of_isDigit (fraction.decimal c digit)
  · cases hc

theorem trim_around_text (s : Stamp) {before after : List Char}
    (hbefore : ∀ c ∈ before, isBlank c = true) (hafter : ∀ c ∈ after, isBlank c = true) :
    trim (.ofList (before ++ s.text.toList ++ after)) = s.text := by
  have hblank : ∀ c ∈ s.text.toList, isBlank c = false := by
    intro c hc
    rw [Stamp.toList_text, List.mem_append, List.mem_append] at hc
    rcases hc with front | fraction | zone
    · exact isBlank_of_mem_front front
    · exact isBlank_of_mem_fraction fraction
    · exact isBlank_of_mem_zone zone
  rw [trim, String.toList_ofList, trimBy_append hbefore hafter, trimBy_eq_self hblank,
    String.ofList_toList]

/-- Before a fraction no zone begins, so only the layout that has one reads it. -/
theorem rfc3339?_text (s : Stamp) : Timestamp.rfc3339? s.text = some s.dateTime := by
  have hbuild := build_numbers s
  obtain ⟨c, cs, hzone, hdigit, -⟩ := exists_text_eq_cons s.zone
  rw [Timestamp.rfc3339?, cutFractions_text]
  cases hfraction : s.fraction? with
  | none =>
      have hwhole : wholeSeconds (s.front ++ (s.cutText ++ s.zone.text.toList)) = some s.dateTime := by
        rw [Stamp.microsecond, hfraction] at hbuild
        simp only [wholeSeconds, Stamp.cutText, hfraction, List.nil_append, seconds_front, zone_text,
          Option.bind_eq_bind, Option.bind_some, List.isEmpty_nil, if_true, hbuild]
      simp only [List.findSome?_cons, hwhole]
  | some fraction =>
      have hcut : s.cutText ++ s.zone.text.toList =
          '.' :: (keptDigits fraction ++ s.zone.text.toList) := by
        rw [Stamp.cutText, hfraction]
        rfl
      have hwhole : wholeSeconds (s.front ++ (s.cutText ++ s.zone.text.toList)) = none := by
        simp only [wholeSeconds, hcut, seconds_front, zone_point, Option.bind_eq_bind,
          Option.bind_some, Option.bind_none]
      have hfraction' : Rfc3339.fraction (keptDigits fraction ++ s.zone.text.toList) =
          some (s.microsecond, s.zone.text.toList) := by
        rw [Stamp.microsecond, hfraction, hzone]
        exact fraction_kept fraction hdigit cs
      have hread : fractional (s.front ++ (s.cutText ++ s.zone.text.toList)) = some s.dateTime := by
        simp only [fractional, hcut, seconds_front, letter_cons, hfraction', zone_text,
          Option.bind_eq_bind, Option.bind_some, List.isEmpty_nil, if_true, hbuild]
      simp only [List.findSome?_cons, hwhole, hread]

theorem instant_dateTime (s : Stamp) : s.dateTime.instant = s.instant := by
  simp only [DateTime.instant, DateTime.offset, Stamp.dateTime, Stamp.instant, Clock.number,
    dayLength]
  omega

end Rfc3339

open Rfc3339

/-- A written time stamp reads as what is written, with the offset that it states. The fraction is
cut to microseconds and never rounded, and the time is unknown only at the first instant. -/
theorem Timestamp.parse_text (s : Stamp) {before after : List Char}
    (hbefore : ∀ c ∈ before, isBlank c = true) (hafter : ∀ c ∈ after, isBlank c = true) :
    parse (.ofList (before ++ s.text.toList ++ after)) = .ok s.dateTime ∧
      (∀ fraction, s.fraction? = some fraction →
        s.dateTime.clock.microsecond =
          fraction.value * 1000000 / 10 ^ fraction.digits.length) ∧
      (s.dateTime.isZero = true ↔ s.instant = 0) := by
  refine ⟨?_, ?_, ?_⟩
  · unfold parse
    simp only [trim_around_text s hbefore hafter, rfc3339?_text]
  · intro fraction hfraction
    have hmicrosecond : s.dateTime.clock.microsecond = microsecondOf fraction := by
      simp only [Stamp.dateTime, Stamp.microsecond, hfraction]
    rw [hmicrosecond, microsecondOf_eq_div]
  · have hoffset : s.dateTime.offset?.isSome = true := rfl
    rw [DateTime.isZero, hoffset, Bool.true_and, beq_iff_eq, instant_dateTime]

/-- Eight digits, which would be rounded up. -/
def eightDigits : Numeral where
  digits := "99999998".toList
  nonempty := by decide
  decimal := List.all_eq_true.mp rfl

/-- The last second of a leap day, five hours and a half west of universal time. -/
def leapNight : Stamp where
  date := ⟨2024, 2, 29, by decide⟩
  hour := 23
  minute := 59
  second := 59
  in_range := by decide
  fraction? := some eightDigits
  zone := .signed ⟨true, 5, 30, by decide⟩

theorem Timestamp.parse_text_leap_night :
    (∀ c ∈ ['\t'], isBlank c = true) ∧ (∀ c ∈ [' '], isBlank c = true) ∧
      parse "\t2024-02-29T23:59:59.99999998-05:30 " = .ok leapNight.dateTime ∧
      leapNight.dateTime.clock.microsecond = 999999 := by
  have hbefore : ∀ c ∈ ['\t'], isBlank c = true := List.forall_mem_singleton.mpr rfl
  have hafter : ∀ c ∈ [' '], isBlank c = true := List.forall_mem_singleton.mpr rfl
  have htext : String.ofList (['\t'] ++ leapNight.text.toList ++ [' ']) =
      "\t2024-02-29T23:59:59.99999998-05:30 " := by cbv
  obtain ⟨hparse, hfraction, -⟩ := parse_text leapNight hbefore hafter
  rw [htext] at hparse
  have hmicrosecond := hfraction eightDigits rfl
  exact ⟨hbefore, hafter, hparse, hmicrosecond.trans (by cbv)⟩

end BucketStore.Time
