import BucketStore.Proofs.Time.Lemmas.Layouts

/-!
# The layouts of HTTP dates

In whichever layout a date-time is written, and in whichever zone, it is read as its instant in
universal time. The name of the day makes no difference.
-/

namespace BucketStore.Time.HttpDate

/-! ## What the numbers denote -/

/-- The numbers of a date-time denote it, with a year that is completed to its own and its own
offset. -/
theorem denotes_fieldsOf_with {t : DateTime} {o : Offset} {y : Nat} {zone : Option Int}
    (hoffset : t.offset? = some o) (hzone : o.microseconds = zone.getD 0 * 1000000)
    (hyear : readYear y = t.date.year) (hwhole : t.clock.microsecond = 0) :
    { fieldsOf t with year := completeYear y, offset? := zone }.Denotes t where
  year := by rw [completeYear_natCast, hyear]
  month := rfl
  day := rfl
  hour := rfl
  minute := rfl
  second := rfl
  microsecond := hwhole
  offset := ⟨o, hoffset, hzone⟩

/-- A shift by whole minutes leaves the fraction of the second as it is. -/
theorem microsecond_eq_zero {t l : DateTime} {o : SignedOffset} (hutc : t.offset? = some .utc)
    (hwhole : t.clock.microsecond = 0) (hoffset : l.offset? = some o.offset)
    (hinstant : l.instant = t.instant) : l.clock.microsecond = 0 := by
  have hlocal : l.instant =
      (l.date.number * dayLength + l.clock.number : Nat) - o.seconds * 1000000 := by
    rw [DateTime.instant, DateTime.offset, hoffset]
    rfl
  have huniversal := DateTime.instant_eq_of_utc hutc
  have hrange := l.clock.in_range
  simp only [Clock.number, dayLength] at hlocal huniversal
  omega

/-! ## Reading each layout -/

section

variable {t : DateTime} (hutc : t.offset? = some .utc) (hwhole : t.clock.microsecond = 0)
include hutc hwhole

theorem parse_rfc1123_gmt (hyear : 100 ≤ t.date.year) {name : String} (hname : IsWord name.toList) :
    parse (rfc1123 name "GMT" t) = .ok t := by
  have hfields := fields?_rfc1123 hname isWord_gmt t
  rw [zoneOffset?_gmt] at hfields
  exact parse_of_denotes hfields (denotes_fieldsOf_with hutc rfl (readYear_of_le hyear) hwhole)
    (DateTime.toUtc_of_utc hutc)

theorem parse_rfc1123_signed {name : String} (hname : IsWord name.toList) {o : SignedOffset}
    {l : DateTime} (hoffset : l.offset? = some o.offset) (hinstant : l.instant = t.instant)
    (hyear : 100 ≤ l.date.year) : parse (rfc1123 name (o.text "") l) = .ok t := by
  have hfields := fields?_rfc1123 hname (isWord_text o) l
  rw [zoneOffset?_text] at hfields
  have hlocal : l.clock.microsecond = 0 := microsecond_eq_zero hutc hwhole hoffset hinstant
  exact parse_of_denotes hfields (denotes_fieldsOf_with hoffset rfl (readYear_of_le hyear) hlocal)
    (DateTime.toUtc_of_instant hutc hinstant)

theorem parse_asctime (hyear : 100 ≤ t.date.year) {name : String} (hname : name ∈ dayNames) :
    parse (asctime name t) = .ok t :=
  parse_of_denotes (fields?_asctime hname t)
    (denotes_fieldsOf_with hutc rfl (readYear_of_le hyear) hwhole) (DateTime.toUtc_of_utc hutc)

theorem parse_rfc850 (hyear : 1969 ≤ t.date.year ∧ t.date.year ≤ 2068) {name : String}
    (hname : IsWord name.toList) : parse (rfc850 name t) = .ok t := by
  have hread : readYear (t.date.year % 100) = t.date.year := by
    rw [readYear]
    split_ifs <;> omega
  exact parse_of_denotes (fields?_rfc850 hname t) (denotes_fieldsOf_with hutc rfl hread hwhole)
    (DateTime.toUtc_of_utc hutc)

end

/-- A date-time of universal time with whole seconds is read from each of its layouts: from that of
RFC 1123 with universal time as its zone and with any offset in which the same instant has a year
from 100 on, from that of asctime, and, for the hundred years that two digits stand for, from that
of RFC 850. Any name of a day may stand in front. -/
theorem parse_layouts {t : DateTime} (hutc : t.offset? = some .utc)
    (hwhole : t.clock.microsecond = 0) (hyear : 100 ≤ t.date.year) :
    (∀ name ∈ dayNames, parse (rfc1123 name "GMT" t) = .ok t) ∧
    (∀ name ∈ dayNames, ∀ (o : SignedOffset) (l : DateTime), l.offset? = some o.offset →
      l.instant = t.instant → 100 ≤ l.date.year → parse (rfc1123 name (o.text "") l) = .ok t) ∧
    (∀ name ∈ dayNames, parse (asctime name t) = .ok t) ∧
    (1969 ≤ t.date.year → t.date.year ≤ 2068 →
      ∀ name ∈ longDayNames, parse (rfc850 name t) = .ok t) := by
  refine ⟨?_, ?_, ?_, ?_⟩
  · intro name hname
    exact parse_rfc1123_gmt hutc hwhole hyear (isWord_dayName hname)
  · intro name hname o l hoffset hinstant hlocal
    exact parse_rfc1123_signed hutc hwhole (isWord_dayName hname) hoffset hinstant hlocal
  · intro name hname
    exact parse_asctime hutc hwhole hyear hname
  · intro hfirst hlast name hname
    exact parse_rfc850 hutc hwhole ⟨hfirst, hlast⟩ (isWord_longDayName hname)

/-- Half past eleven in the evening of the last day of February 2004. -/
def leapEvening : DateTime where
  date := ⟨2004, 2, 29, by decide⟩
  clock := ⟨23, 30, 5, 0, by decide⟩
  offset? := some .utc

/-- An hour and a half. -/
def eastward : SignedOffset :=
  ⟨false, 1, 30, by decide⟩

/-- The same instant, further east. -/
def leapEveningEast : DateTime where
  date := ⟨2004, 3, 1, by decide⟩
  clock := ⟨1, 0, 5, 0, by decide⟩
  offset? := some eastward.offset

theorem parse_layouts_leap_evening :
    parse "Tue, 29 Feb 2004 23:30:05 GMT" = .ok leapEvening ∧
      parse "Sun, 01 Mar 2004 01:00:05 +0130" = .ok leapEvening ∧
      parse "Mon Feb 29 23:30:05 2004" = .ok leapEvening ∧
      parse "Friday, 29-Feb-04 23:30:05 GMT" = .ok leapEvening := by
  have hutc : leapEvening.offset? = some .utc := rfl
  have hinstant : leapEveningEast.instant = leapEvening.instant := by decide
  have hgmtText : rfc1123 "Tue" "GMT" leapEvening = "Tue, 29 Feb 2004 23:30:05 GMT" := by cbv
  have heastText : rfc1123 "Sun" (eastward.text "") leapEveningEast =
      "Sun, 01 Mar 2004 01:00:05 +0130" := by cbv
  have hasctimeText : asctime "Mon" leapEvening = "Mon Feb 29 23:30:05 2004" := by cbv
  have hshortText : rfc850 "Friday" leapEvening = "Friday, 29-Feb-04 23:30:05 GMT" := by cbv
  obtain ⟨hgmt, hsigned, hasctime, hshort⟩ := parse_layouts hutc rfl (by decide)
  rw [← hgmtText, ← heastText, ← hasctimeText, ← hshortText]
  refine ⟨?_, ?_, ?_, ?_⟩
  · exact hgmt "Tue" (by decide)
  · exact hsigned "Sun" (by decide) eastward leapEveningEast rfl hinstant (by decide)
  · exact hasctime "Mon" (by decide)
  · exact hshort (by decide) (by decide) "Friday" (by decide)

end BucketStore.Time.HttpDate
