import BucketStore.Proofs.Time.Lemmas.Rendered

/-!
# HTTP dates there and back

What is written is read again, in universal time and to the second. Only the years below 100 are
lost: they are taken for years of the twentieth or twenty-first century.
-/

namespace BucketStore.Time

/-! ## Universal time without fractions -/

theorem DateTime.instant_emod {t : DateTime} (h : t.offset? = some .utc) :
    t.instant % 1000000 = (t.clock.number % 1000000 : Nat) := by
  rw [instant_eq_of_utc h, dayLength]
  omega

/-- An instant is that of one date-time of universal time. -/
theorem DateTime.eq_of_instant {t u : DateTime} (ht : t.offset? = some .utc)
    (hu : u.offset? = some .utc) (h : t.instant = u.instant) : t = u :=
  Option.some.inj (by rw [← ofInstant?_instant ht, h, ofInstant?_instant hu])

theorem Clock.whole_eq_self_iff {c : Clock} : c.whole = c ↔ 1000000 ∣ c.number := by
  have hwhole := c.number_whole
  constructor
  · intro h
    rw [h] at hwhole
    omega
  · intro h
    apply Clock.number_injective
    omega

namespace HttpDate

theorem readDate_eq_self_iff {d : Date} : readDate d = d ↔ 100 ≤ d.year := by
  constructor
  · intro h
    by_contra hyear
    exact readYear_ne (Nat.lt_of_not_le hyear) (congrArg Date.year h)
  · intro h
    cases d
    simp only [readDate, readYear_of_le h]

theorem readBack_eq_self_iff {t : DateTime} (h : t.offset? = some .utc) :
    readBack t = t ↔ 100 ≤ t.date.year ∧ 1000000 ∣ t.instant := by
  have hinstant := DateTime.instant_emod h
  have hdvd : (1000000 : Int) ∣ t.instant ↔ 1000000 ∣ t.clock.number := by omega
  rw [hdvd, ← readDate_eq_self_iff, ← Clock.whole_eq_self_iff]
  constructor
  · intro heq
    exact ⟨congrArg DateTime.date heq, congrArg DateTime.clock heq⟩
  · rintro ⟨hdate, hclock⟩
    rw [readBack, hdate, hclock, ← h]

/-- From the year 100 on only the fraction of the second is lost. -/
theorem instant_readBack {t : DateTime} (h : t.offset? = some .utc) (hyear : 100 ≤ t.date.year) :
    (readBack t).instant = t.instant - t.instant % 1000000 := by
  have hdate : (readBack t).date = t.date := readDate_eq_self_iff.mpr hyear
  have hclock : (readBack t).clock = t.clock.whole := rfl
  have hread : (readBack t).instant = (t.date.number * dayLength + t.clock.whole.number : Nat) := by
    rw [DateTime.instant_eq_of_utc (rfl : (readBack t).offset? = some .utc), hdate, hclock]
  have hwhole := t.clock.number_whole
  have hfraction := DateTime.instant_emod h
  have hinstant := DateTime.instant_eq_of_utc h
  omega

theorem of_format {t : DateTime} {text : String} (h : format t = .ok text) :
    ∃ u : DateTime, u.offset? = some .utc ∧ u.instant = t.instant ∧ text = render u := by
  rw [format] at h
  cases hutc : t.toUtc with
  | error e =>
      rw [hutc] at h
      cases h
  | ok u =>
      rw [hutc] at h
      have htext : render u = text := Except.ok.inj h
      exact ⟨u, (DateTime.of_toUtc hutc).1, (DateTime.of_toUtc hutc).2, htext.symm⟩

/-- A date-time that can be written is read back in universal time and without the fraction of its
second, as an HTTP date and as a time stamp alike. From the year 100 on its instant is the same to
the second, and it is the same altogether just if it has no fraction besides. -/
theorem parse_format {t : DateTime} {text : String} (h : format t = .ok text) :
    ∃ u : DateTime, u.offset? = some .utc ∧ u.instant = t.instant ∧
      parse text = .ok (readBack u) ∧ Timestamp.parse text = .ok (readBack u) ∧
      (100 ≤ u.date.year → (readBack u).instant = t.instant - t.instant % 1000000) ∧
      ((readBack u).instant = t.instant ↔ 100 ≤ u.date.year ∧ 1000000 ∣ t.instant) := by
  obtain ⟨u, hu, hinstant, rfl⟩ := of_format h
  refine ⟨u, hu, hinstant, parse_render u, Timestamp.parse_render u, ?_, ?_⟩
  · intro hyear
    rw [← hinstant]
    exact instant_readBack hu hyear
  · rw [← hinstant, ← readBack_eq_self_iff hu]
    constructor
    · exact DateTime.eq_of_instant rfl hu
    · intro heq
      rw [heq]

/-- Half a second after eleven minutes past one on the first of March 2000, five hours east, is
written with a day of February. -/
def marchMorning : DateTime where
  date := ⟨2000, 3, 1, by decide⟩
  clock := ⟨1, 11, 12, 500000, by decide⟩
  offset? := some ⟨5 * 3600000000, by decide⟩

theorem parse_format_march_morning :
    format marchMorning = .ok "Tue, 29 Feb 2000 20:11:12 GMT" ∧
      ∃ u : DateTime, u.offset? = some .utc ∧ u.instant = marchMorning.instant ∧
        parse "Tue, 29 Feb 2000 20:11:12 GMT" = .ok (readBack u) ∧
        (100 ≤ u.date.year →
          (readBack u).instant = marchMorning.instant - marchMorning.instant % 1000000) := by
  have hformat : format marchMorning = .ok "Tue, 29 Feb 2000 20:11:12 GMT" := by cbv
  obtain ⟨u, hu, hinstant, hparse, -, hyear, -⟩ := parse_format hformat
  exact ⟨hformat, u, hu, hinstant, hparse, hyear⟩

end HttpDate

end BucketStore.Time
