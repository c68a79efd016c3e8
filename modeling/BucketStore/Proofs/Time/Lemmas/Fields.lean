import BucketStore.Proofs.Time.Lemmas.Instants
import BucketStore.Time.HttpDate
import Mathlib.Algebra.Ring.Int.Defs

/-!
# The numbers of an HTTP date

The date-time of the numbers is the one that has them, if there is one. There is none for an offset
of a day or more; and numbers out of all proportion overflow, as does a date-time that universal
time has no date for.
-/

namespace BucketStore.Time.HttpDate

namespace Fields

/-- The offset is the one that is stated, universal time if none is. -/
def OffsetIs (f : Fields) (o : Offset) : Prop :=
  o.microseconds = f.offset?.getD 0 * 1000000

/-- The date-time has these numbers and the stated offset. -/
structure Denotes (f : Fields) (t : DateTime) : Prop where
  year : f.year = t.date.year
  month : f.month = t.date.month
  day : f.day = t.date.day
  hour : f.hour = t.clock.hour
  minute : f.minute = t.clock.minute
  second : f.second = t.clock.second
  microsecond : t.clock.microsecond = 0
  offset : ∃ o, t.offset? = some o ∧ f.OffsetIs o

def numbers (f : Fields) : List Int :=
  [f.year, f.day, f.hour, f.minute, f.second]

/-- Numbers out of all proportion: an offset of 10⁹ days, or a number beyond 32 bits beside an
offset of less than a day. -/
inductive Immense (f : Fields) : Prop
  | offset {seconds : Int} : f.offset? = some seconds →
      seconds < -(999999999 * 86400) ∨ 1000000000 * 86400 ≤ seconds → Immense f
  | number {o : Offset} {n : Int} : f.OffsetIs o → n ∈ f.numbers → n < -2 ^ 31 ∨ 2 ^ 31 ≤ n →
      Immense f

/-- The numbers are out of all proportion, or denote an instant outside of the calendar. -/
def Overflows (f : Fields) : Prop :=
  f.Immense ∨ ∃ t, f.Denotes t ∧ (t.instant < 0 ∨ DateTime.calendarLength ≤ t.instant)

end Fields

/-! ## Ranges -/

theorem exceedsSpan_iff {seconds : Int} :
    exceedsSpan seconds = true ↔
      seconds < -(999999999 * 86400) ∨ 1000000000 * 86400 ≤ seconds := by
  simp only [exceedsSpan, Int.fdiv_eq_ediv_of_nonneg _ (show (0 : Int) ≤ 86400 by decide),
    Bool.or_eq_true, decide_eq_true_eq]
  omega

theorem exceedsWord_iff {n : Int} : exceedsWord n = true ↔ n < -2 ^ 31 ∨ 2 ^ 31 ≤ n := by
  simp only [exceedsWord, Bool.or_eq_true, decide_eq_true_eq]
  omega

theorem natural?_eq_some_iff {n : Int} {k : Nat} : natural? n = some k ↔ n = k := by
  cases n with
  | ofNat n =>
      simp only [natural?, Option.some.injEq, Int.ofNat_eq_natCast]
      omega
  | negSucc n =>
      refine ⟨nofun, ?_⟩
      intro h
      omega

namespace Fields

variable {f : Fields}

theorem any_exceedsWord_iff :
    f.numbers.any exceedsWord = true ↔ ∃ n ∈ f.numbers, n < -2 ^ 31 ∨ 2 ^ 31 ≤ n := by
  simp only [List.any_eq_true, exceedsWord_iff]

/-! ## The date-time -/

/-- The date-time with these numbers and that offset. -/
def withOffset? (f : Fields) (o : Offset) : Option DateTime := do
  let year ← natural? f.year
  let day ← natural? f.day
  let hour ← natural? f.hour
  let minute ← natural? f.minute
  let second ← natural? f.second
  DateTime.of? year f.month day hour minute second 0 (some o)

theorem OffsetIs.not_exceedsSpan {o : Offset} (ho : f.OffsetIs o) {seconds : Int}
    (hstated : f.offset? = some seconds) : exceedsSpan seconds = false := by
  have hseconds : o.microseconds = seconds * 1000000 := by rw [ho, hstated]; rfl
  have hrange := o.in_range
  rw [← Bool.not_eq_true, exceedsSpan_iff]
  simp only [dayLength] at hrange
  omega

theorem dateTime?_of_offsetIs {o : Offset} (ho : f.OffsetIs o) :
    f.dateTime? =
      if f.numbers.any exceedsWord then .error .overflow else .ok (f.withOffset? o) := by
  cases hstated : f.offset? with
  | none =>
      have hutc : o = .utc := by
        apply Offset.ext
        rw [ho, hstated]
        rfl
      simp only [dateTime?, hstated, hutc]
      rfl
  | some seconds =>
      have hseconds : o.microseconds = seconds * 1000000 := by rw [ho, hstated]; rfl
      have hoffset : Offset.of? (seconds * 1000000) = some o := Offset.of?_eq_some_iff.mpr hseconds
      simp only [dateTime?, hstated, ho.not_exceedsSpan hstated, hoffset, Option.any_some, Option.map_some,
        Bool.false_eq_true, if_false]
      rfl

/-- An offset of a day or more belongs to no date-time. -/
theorem dateTime?_of_not_offsetIs (h : ∀ o, ¬f.OffsetIs o) :
    ∃ seconds, f.offset? = some seconds ∧
      f.dateTime? = if exceedsSpan seconds then .error .overflow else .ok none := by
  cases hstated : f.offset? with
  | none =>
      refine absurd ?_ (h .utc)
      rw [OffsetIs, hstated]
      rfl
  | some seconds =>
      have hoffset : Offset.of? (seconds * 1000000) = none := by
        cases hof : Offset.of? (seconds * 1000000) with
        | none => rfl
        | some o =>
            refine absurd ?_ (h o)
            rw [OffsetIs, hstated]
            exact Offset.of?_eq_some_iff.mp hof
      refine ⟨seconds, rfl, ?_⟩
      simp only [dateTime?, hstated, hoffset, Option.any_some, Option.map_some, if_true]

theorem withOffset?_eq_some_iff {o : Offset} {t : DateTime} (ho : f.OffsetIs o) :
    f.withOffset? o = some t ↔ f.Denotes t ∧ t.offset? = some o := by
  simp only [withOffset?, Option.bind_eq_bind, Option.bind_eq_some_iff, natural?_eq_some_iff,
    DateTime.of?_eq_some_iff]
  constructor
  · rintro ⟨_, hyear, _, hday, _, hhour, _, hminute, _, hsecond, ⟨rfl, hmonth, rfl⟩,
      ⟨rfl, rfl, rfl, hmicrosecond⟩, hoffset⟩
    exact ⟨⟨hyear, hmonth.symm, hday, hhour, hminute, hsecond, hmicrosecond, o, hoffset, ho⟩,
      hoffset⟩
  · rintro ⟨h, hoffset⟩
    exact ⟨_, h.year, _, h.day, _, h.hour, _, h.minute, _, h.second, ⟨rfl, h.month.symm, rfl⟩,
      ⟨rfl, rfl, rfl, h.microsecond⟩, hoffset⟩

/-- The numbers of a date-time are small. -/
theorem Denotes.not_exceedsWord {t : DateTime} (h : f.Denotes t) :
    f.numbers.any exceedsWord = false := by
  obtain ⟨-, hyear, -, -, -, hday⟩ := t.date.exists_day
  obtain ⟨hhour, hminute, hsecond, -⟩ := t.clock.in_range
  have hmonthLength := daysInMonth_le t.date.year t.date.month
  rw [← Bool.not_eq_true, any_exceedsWord_iff]
  simp only [numbers, h.year, h.day, h.hour, h.minute, h.second, List.mem_cons, List.not_mem_nil,
    or_false]
  rintro ⟨n, rfl | rfl | rfl | rfl | rfl, hn⟩ <;> omega

theorem dateTime?_eq_some_iff {t : DateTime} : f.dateTime? = .ok (some t) ↔ f.Denotes t := by
  constructor
  · intro h
    by_cases hoffset : ∃ o, f.OffsetIs o
    · obtain ⟨o, ho⟩ := hoffset
      rw [dateTime?_of_offsetIs ho] at h
      split at h
      · cases h
      · exact ((withOffset?_eq_some_iff ho).mp (Except.ok.inj h)).1
    · obtain ⟨seconds, -, hdateTime⟩ := dateTime?_of_not_offsetIs (not_exists.mp hoffset)
      rw [hdateTime] at h
      split at h <;> cases h
  · intro h
    obtain ⟨o, hoffset, ho⟩ := h.offset
    rw [dateTime?_of_offsetIs ho, h.not_exceedsWord, (withOffset?_eq_some_iff ho).mpr ⟨h, hoffset⟩]
    rfl

theorem dateTime?_eq_error_iff {e : Failure} :
    f.dateTime? = .error e ↔ e = .overflow ∧ f.Immense := by
  constructor
  · intro h
    by_cases hoffset : ∃ o, f.OffsetIs o
    · obtain ⟨o, ho⟩ := hoffset
      rw [dateTime?_of_offsetIs ho] at h
      split at h
      · rename_i hany
        obtain ⟨n, hmem, hn⟩ := any_exceedsWord_iff.mp hany
        cases h
        exact ⟨rfl, .number ho hmem hn⟩
      · cases h
    · obtain ⟨seconds, hstated, hdateTime⟩ := dateTime?_of_not_offsetIs (not_exists.mp hoffset)
      rw [hdateTime] at h
      split at h
      · rename_i hspan
        cases h
        exact ⟨rfl, .offset hstated (exceedsSpan_iff.mp hspan)⟩
      · cases h
  · rintro ⟨rfl, himmense⟩
    cases himmense with
    | offset hstated hspan =>
        rw [dateTime?, hstated, Option.any_some, exceedsSpan_iff.mpr hspan]
        rfl
    | number ho hmem hn =>
        rw [dateTime?_of_offsetIs ho, any_exceedsWord_iff.mpr ⟨_, hmem, hn⟩]
        rfl

end Fields

end BucketStore.Time.HttpDate
