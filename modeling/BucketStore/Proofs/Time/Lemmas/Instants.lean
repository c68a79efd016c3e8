import BucketStore.Proofs.Time.Lemmas.Calendar
import BucketStore.Time.DateTime

/-!
# Instants and universal time

A time of day has the number that it is found by, and a date-time of universal time the instant. So
what a date-time is in universal time is told by its instant.
-/

namespace BucketStore.Time

/-! ## Times of day -/

namespace Clock

theorem number_lt (c : Clock) : c.number < dayLength := by
  have hrange := c.in_range
  rw [number, dayLength]
  omega

theorem ext {c d : Clock} (hhour : c.hour = d.hour) (hminute : c.minute = d.minute)
    (hsecond : c.second = d.second) (hmicrosecond : c.microsecond = d.microsecond) : c = d := by
  cases c
  cases d
  congr

theorem of?_eq_some_iff {hour minute second microsecond : Nat} {c : Clock} :
    of? hour minute second microsecond = some c ↔
      c.hour = hour ∧ c.minute = minute ∧ c.second = second ∧ c.microsecond = microsecond := by
  rw [of?]
  split
  · constructor
    · rintro ⟨⟩
      exact ⟨rfl, rfl, rfl, rfl⟩
    · rintro ⟨rfl, rfl, rfl, rfl⟩
      rfl
  · rename_i hnone
    refine ⟨nofun, ?_⟩
    rintro ⟨rfl, rfl, rfl, rfl⟩
    exact absurd c.in_range hnone

theorem ofNumber_number (c : Clock) : ofNumber c.number = c := by
  have hrange := c.in_range
  have hnumber : c.number % dayLength = c.number := Nat.mod_eq_of_lt c.number_lt
  apply ext
  · simp only [ofNumber, hnumber]
    rw [number]
    omega
  · simp only [ofNumber, hnumber]
    rw [number]
    omega
  · simp only [ofNumber, hnumber]
    rw [number]
    omega
  · simp only [ofNumber, hnumber]
    rw [number]
    omega

theorem number_ofNumber (n : Nat) : (ofNumber n).number = n % dayLength := by
  have hlt : n % dayLength < dayLength := Nat.mod_lt n (by decide)
  simp only [ofNumber, number]
  omega

theorem number_injective {c d : Clock} (h : c.number = d.number) : c = d := by
  rw [← c.ofNumber_number, h, d.ofNumber_number]

/-- The time of day without the fraction of its second. -/
def whole (c : Clock) : Clock where
  hour := c.hour
  minute := c.minute
  second := c.second
  microsecond := 0
  in_range := ⟨c.in_range.1, c.in_range.2.1, c.in_range.2.2.1, by decide⟩

theorem number_whole (c : Clock) : c.whole.number + c.number % 1000000 = c.number := by
  have hrange := c.in_range
  simp only [number, whole]
  omega

end Clock

/-! ## Offsets -/

namespace Offset

theorem ext {o p : Offset} (h : o.microseconds = p.microseconds) : o = p := by
  cases o
  cases p
  congr

theorem of?_eq_some_iff {n : Int} {o : Offset} : of? n = some o ↔ o.microseconds = n := by
  rw [of?]
  split
  · constructor
    · rintro ⟨⟩
      rfl
    · rintro rfl
      rfl
  · rename_i hnone
    refine ⟨nofun, ?_⟩
    rintro rfl
    exact absurd o.in_range hnone

end Offset

/-! ## Universal time -/

namespace DateTime

theorem of?_eq_some_iff {year month day hour minute second microsecond : Nat}
    {offset? : Option Offset} {t : DateTime} :
    of? year month day hour minute second microsecond offset? = some t ↔
      (t.date.year = year ∧ t.date.month = month ∧ t.date.day = day) ∧
      (t.clock.hour = hour ∧ t.clock.minute = minute ∧ t.clock.second = second ∧
        t.clock.microsecond = microsecond) ∧ t.offset? = offset? := by
  rw [of?, ← Date.of?_eq_some_iff, ← Clock.of?_eq_some_iff]
  simp only [Option.bind_eq_bind, Option.bind_eq_some_iff]
  constructor
  · rintro ⟨date, hdate, clock, hclock, ⟨⟩⟩
    exact ⟨hdate, hclock, rfl⟩
  · rintro ⟨hdate, hclock, rfl⟩
    exact ⟨_, hdate, _, hclock, rfl⟩

theorem instant_eq_of_utc {t : DateTime} (h : t.offset? = some .utc) :
    t.instant = (t.date.number * dayLength + t.clock.number : Nat) := by
  rw [instant, offset, h]
  exact Int.sub_zero _

theorem ofInstant?_natCast (n : Nat) :
    ofInstant? n =
      (Date.ofNumber? (n / dayLength)).map fun date => ⟨date, .ofNumber n, some .utc⟩ :=
  rfl

theorem ofInstant?_instant {t : DateTime} (h : t.offset? = some .utc) :
    ofInstant? t.instant = some t := by
  have hclock := t.clock.number_lt
  have hday : (t.date.number * dayLength + t.clock.number) / dayLength = t.date.number := by
    rw [dayLength] at *
    omega
  have hrest : (t.date.number * dayLength + t.clock.number) % dayLength = t.clock.number := by
    rw [dayLength] at *
    omega
  have hnumber : Clock.ofNumber (t.date.number * dayLength + t.clock.number) = t.clock := by
    apply Clock.number_injective
    rw [Clock.number_ofNumber, hrest]
  rw [instant_eq_of_utc h, ofInstant?_natCast, hday, Date.ofNumber?_number, hnumber,
    Option.map_some, ← h]

theorem of_ofInstant? {n : Int} {u : DateTime} (h : ofInstant? n = some u) :
    u.offset? = some .utc ∧ u.instant = n := by
  cases n with
  | negSucc n => cases h
  | ofNat n =>
      obtain ⟨date, hdate, rfl⟩ := Option.map_eq_some_iff.mp h
      refine ⟨rfl, ?_⟩
      rw [instant_eq_of_utc rfl]
      simp only [Date.number_of_ofNumber? hdate, Clock.number_ofNumber]
      rw [Nat.div_add_mod']
      rfl

theorem toUtc_of_instant {t u : DateTime} (hu : u.offset? = some .utc)
    (h : t.instant = u.instant) : t.toUtc = .ok u := by
  rw [toUtc, h, ofInstant?_instant hu]

theorem toUtc_of_utc {t : DateTime} (h : t.offset? = some .utc) : t.toUtc = .ok t :=
  toUtc_of_instant h rfl

/-- In universal time the instant is the same. -/
theorem of_toUtc {t u : DateTime} (h : t.toUtc = .ok u) :
    u.offset? = some .utc ∧ u.instant = t.instant := by
  rw [toUtc] at h
  split at h
  · rename_i v hv
    cases h
    exact of_ofInstant? hv
  · cases h

/-! ### The ends of the calendar -/

/-- The microseconds of all days of the calendar. -/
def calendarLength : Nat :=
  calendarDays * dayLength

theorem exists_ofInstant?_iff {n : Int} :
    (∃ u, ofInstant? n = some u) ↔ 0 ≤ n ∧ n < calendarLength := by
  cases n with
  | negSucc n =>
      constructor
      · rintro ⟨u, ⟨⟩⟩
      · rintro ⟨hpos, -⟩
        exact absurd hpos (by omega)
  | ofNat n =>
      have hdays : n / dayLength < calendarDays ↔ n < calendarLength :=
        Nat.div_lt_iff_lt_mul (by decide)
      simp only [Int.ofNat_eq_natCast, ofInstant?_natCast, Option.map_eq_some_iff]
      constructor
      · rintro ⟨-, date, hdate, -⟩
        have hlt := hdays.mp (Date.exists_ofNumber?_iff.mp ⟨date, hdate⟩)
        omega
      · rintro ⟨-, hlt⟩
        obtain ⟨date, hdate⟩ := Date.exists_ofNumber?_iff.mpr (hdays.mpr (by omega))
        exact ⟨_, date, hdate, rfl⟩

/-- Only an instant outside of the calendar has no date-time in universal time. -/
theorem toUtc_eq_error_iff {t : DateTime} {e : Failure} :
    t.toUtc = .error e ↔ e = .overflow ∧ (t.instant < 0 ∨ calendarLength ≤ t.instant) := by
  rw [toUtc]
  split
  · rename_i u hu
    have hrange := exists_ofInstant?_iff.mp ⟨u, hu⟩
    refine ⟨nofun, ?_⟩
    rintro ⟨-, hout⟩
    omega
  · rename_i hnone
    have hout : ¬(0 ≤ t.instant ∧ t.instant < calendarLength) := by
      intro hrange
      obtain ⟨u, hu⟩ := exists_ofInstant?_iff.mpr hrange
      rw [hnone] at hu
      cases hu
    constructor
    · rintro ⟨⟩
      exact ⟨rfl, by omega⟩
    · rintro ⟨rfl, -⟩
      rfl

end DateTime

end BucketStore.Time
