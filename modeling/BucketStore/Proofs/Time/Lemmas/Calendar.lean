import BucketStore.Time.Calendar
import Mathlib.Algebra.Ring.Nat
import Mathlib.Data.List.Range

/-!
# Days and their numbers

Every day has the number that it is found by. A year is told apart by its place in the cycles of 400,
100 and 4 years, and a day of it by the months before.
-/

namespace BucketStore.Time

/-! ## Years -/

def daysInYear (year : Nat) : Nat :=
  if isLeap year then 366 else 365

theorem isLeap_iff {year : Nat} :
    isLeap year = true ↔ year % 4 = 0 ∧ (year % 100 ≠ 0 ∨ year % 400 = 0) := by
  simp [isLeap]

theorem lt_daysInYear_iff {year n : Nat} :
    n < daysInYear year ↔
      n < 365 ∨ n = 365 ∧ year % 4 = 0 ∧ (year % 100 ≠ 0 ∨ year % 400 = 0) := by
  rw [daysInYear]
  split
  · rename_i hleap
    rw [isLeap_iff] at hleap
    omega
  · rename_i hleap
    rw [isLeap_iff] at hleap
    omega

/-- A year by its place in the cycles of 400, 100 and 4 years. -/
def yearAt (a b c d : Nat) : Nat :=
  400 * a + 100 * b + 4 * c + d + 1

/-- The days before the year at a place in the cycles. -/
def daysBefore (a b c d : Nat) : Nat :=
  146097 * a + 36524 * b + 1461 * c + 365 * d

section

variable {a b c d n : Nat} (hb : b < 4) (hc : c < 25) (hd : d < 4)
include hb hc hd

theorem daysBeforeYear_yearAt : daysBeforeYear (yearAt a b c d) = daysBefore a b c d := by
  simp only [daysBeforeYear, yearAt, daysBefore]
  omega

/-- Only the last year of a cycle of four may have another day. -/
theorem lt_daysInYear_yearAt_iff :
    n < daysInYear (yearAt a b c d) ↔ n < 365 ∨ n = 365 ∧ d = 3 ∧ (c ≠ 24 ∨ b = 3) := by
  rw [lt_daysInYear_iff, yearAt]
  omega

theorem yearOfNumber_daysBefore (hn : n < daysInYear (yearAt a b c d)) :
    Date.yearOfNumber (daysBefore a b c d + n) = (yearAt a b c d, n) := by
  rw [lt_daysInYear_yearAt_iff hb hc hd] at hn
  -- The cycles are taken off one after the other, the longest first.
  have hcycle : (daysBefore a b c d + n) / 146097 = a := by
    rw [daysBefore]
    omega
  have hinCycle : (daysBefore a b c d + n) % 146097 = daysBefore 0 b c d + n := by
    rw [daysBefore, daysBefore]
    omega
  have hcentury : min ((daysBefore 0 b c d + n) / 36524) 3 = b := by
    rw [daysBefore]
    omega
  have hinCentury : daysBefore 0 b c d + n - b * 36524 = daysBefore 0 0 c d + n := by
    rw [daysBefore, daysBefore]
    omega
  have hfour : (daysBefore 0 0 c d + n) / 1461 = c := by
    rw [daysBefore]
    omega
  have hinFour : (daysBefore 0 0 c d + n) % 1461 = 365 * d + n := by
    rw [daysBefore]
    omega
  have hyear : min ((365 * d + n) / 365) 3 = d := by omega
  simp only [Date.yearOfNumber, hcycle, hinCycle, hcentury, hinCentury, hfour, hinFour, hyear]
  rw [yearAt, Prod.mk.injEq]
  omega

end

theorem exists_yearAt {year : Nat} (h : 1 ≤ year) :
    ∃ a b c d, b < 4 ∧ c < 25 ∧ d < 4 ∧ year = yearAt a b c d := by
  refine ⟨(year - 1) / 400, (year - 1) % 400 / 100, (year - 1) % 100 / 4, (year - 1) % 4, ?_⟩
  rw [yearAt]
  omega

/-- Every day lies in a year. -/
theorem exists_daysBefore (n : Nat) :
    ∃ a b c d r, b < 4 ∧ c < 25 ∧ d < 4 ∧ n = daysBefore a b c d + r ∧
      r < daysInYear (yearAt a b c d) := by
  obtain ⟨b, hb⟩ : ∃ b, b = min (n % 146097 / 36524) 3 := ⟨_, rfl⟩
  obtain ⟨m, hm⟩ : ∃ m, m = n % 146097 - 36524 * b := ⟨_, rfl⟩
  obtain ⟨d, hd⟩ : ∃ d, d = min (m % 1461 / 365) 3 := ⟨_, rfl⟩
  have hb4 : b < 4 := by omega
  have hc : m / 1461 < 25 := by omega
  have hd4 : d < 4 := by omega
  refine ⟨n / 146097, b, m / 1461, d, m % 1461 - 365 * d, hb4, hc, hd4, ?_, ?_⟩
  · rw [daysBefore]
    omega
  · rw [lt_daysInYear_yearAt_iff hb4 hc hd4]
    omega

theorem yearOfNumber_daysBeforeYear {year n : Nat} (hyear : 1 ≤ year) (hn : n < daysInYear year) :
    Date.yearOfNumber (daysBeforeYear year + n) = (year, n) := by
  obtain ⟨a, b, c, d, hb, hc, hd, rfl⟩ := exists_yearAt hyear
  rw [daysBeforeYear_yearAt hb hc hd, yearOfNumber_daysBefore hb hc hd hn]

theorem daysBeforeYear_yearOfNumber (n : Nat) :
    daysBeforeYear (Date.yearOfNumber n).1 + (Date.yearOfNumber n).2 = n := by
  obtain ⟨a, b, c, d, r, hb, hc, hd, rfl, hr⟩ := exists_daysBefore n
  rw [yearOfNumber_daysBefore hb hc hd hr, daysBeforeYear_yearAt hb hc hd]

/-- The number of days of the calendar. -/
def calendarDays : Nat :=
  daysBeforeYear 10000

theorem daysBefore_add_lt_iff {a b c d n : Nat} (hb : b < 4) (hc : c < 25) (hd : d < 4)
    (hn : n < daysInYear (yearAt a b c d)) :
    daysBefore a b c d + n < calendarDays ↔ yearAt a b c d ≤ 9999 := by
  have hdays : calendarDays = 3652059 := rfl
  rw [lt_daysInYear_yearAt_iff hb hc hd] at hn
  rw [hdays, daysBefore, yearAt]
  omega

/-! ## Months -/

theorem monthAndDay_append {year month n : Nat} (hn : n < daysInMonth year month)
    (before after : List Nat) :
    Date.monthAndDay year (before ++ month :: after) ((before.map (daysInMonth year)).sum + n) =
      some (month, n + 1) := by
  induction before with
  | nil => simp [Date.monthAndDay, hn]
  | cons m before ih =>
      have hlater : ¬ ((m :: before).map (daysInMonth year)).sum + n < daysInMonth year m := by
        rw [List.map_cons, List.sum_cons]
        omega
      have hrest : ((m :: before).map (daysInMonth year)).sum + n - daysInMonth year m =
          (before.map (daysInMonth year)).sum + n := by
        rw [List.map_cons, List.sum_cons]
        omega
      rw [List.cons_append, Date.monthAndDay, if_neg hlater, hrest, ih]

theorem exists_monthAndDay {year : Nat} {months : List Nat} {n : Nat}
    (h : n < (months.map (daysInMonth year)).sum) :
    ∃ month day, Date.monthAndDay year months n = some (month, day) ∧ month ∈ months ∧
      1 ≤ day ∧ day ≤ daysInMonth year month := by
  induction months generalizing n with
  | nil => cases h
  | cons m months ih =>
      rw [Date.monthAndDay]
      by_cases hn : n < daysInMonth year m
      · exact ⟨m, n + 1, if_pos hn, List.mem_cons_self, Nat.le_add_left 1 n, hn⟩
      · rw [List.map_cons, List.sum_cons] at h
        obtain ⟨month, day, hmonths, hmem, hday⟩ := ih (n := n - daysInMonth year m) (by omega)
        exact ⟨month, day, by rw [if_neg hn, hmonths], List.mem_cons_of_mem m hmem, hday⟩

theorem of_monthAndDay {year month day : Nat} {months : List Nat} {n : Nat}
    (h : Date.monthAndDay year months n = some (month, day)) :
    ∃ before after, months = before ++ month :: after ∧
      (before.map (daysInMonth year)).sum + (day - 1) = n := by
  induction months generalizing n with
  | nil => cases h
  | cons m months ih =>
      rw [Date.monthAndDay] at h
      split at h
      · cases h
        exact ⟨[], months, rfl, by simp⟩
      · obtain ⟨before, after, rfl, hsum⟩ := ih h
        refine ⟨m :: before, after, rfl, ?_⟩
        rw [List.map_cons, List.sum_cons]
        omega

theorem sum_map_range' (year k : Nat) :
    ((List.range' 1 k).map (daysInMonth year)).sum = daysBeforeMonth year (k + 1) := by
  rw [daysBeforeMonth, List.range'_eq_map_range, List.map_map, ← List.sum_eq_foldr]
  simp only [Nat.add_sub_cancel, Function.comp_def, Nat.add_comm 1]

/-- The months before one and those after it. -/
theorem months_eq {k : Nat} (hk : k < 12) :
    List.range' 1 12 = List.range' 1 k ++ (k + 1) :: List.range' (k + 2) (11 - k) := by
  have htail : (k + 1) :: List.range' (k + 2) (11 - k) = List.range' (1 + 1 * k) (12 - k) := by
    rw [show 12 - k = (11 - k) + 1 by omega, List.range'_succ, Nat.one_mul, Nat.add_comm 1 k]
  rw [htail, List.range'_append, show k + (12 - k) = 12 by omega]

theorem daysInMonth_le (year month : Nat) : daysInMonth year month ≤ 31 := by
  unfold daysInMonth
  split <;> try decide
  split <;> decide

theorem sum_months (year : Nat) :
    ((List.range' 1 12).map (daysInMonth year)).sum = daysInYear year := by
  rw [daysInYear]
  cases hleap : isLeap year <;> simp [List.range'_succ, daysInMonth, hleap]

theorem daysBeforeMonth_add_lt {year month n : Nat} (hmonth : 1 ≤ month ∧ month ≤ 12)
    (hn : n < daysInMonth year month) : daysBeforeMonth year month + n < daysInYear year := by
  obtain ⟨k, rfl⟩ := Nat.exists_eq_add_of_le' hmonth.1
  have hsum := sum_months year
  rw [months_eq (show k < 12 by omega), List.map_append, List.sum_append, sum_map_range',
    List.map_cons, List.sum_cons] at hsum
  omega

theorem monthAndDay_daysBeforeMonth {year month n : Nat} (hmonth : 1 ≤ month ∧ month ≤ 12)
    (hn : n < daysInMonth year month) :
    Date.monthAndDay year (List.range' 1 12) (daysBeforeMonth year month + n) =
      some (month, n + 1) := by
  obtain ⟨k, rfl⟩ := Nat.exists_eq_add_of_le' hmonth.1
  rw [months_eq (show k < 12 by omega), ← sum_map_range']
  exact monthAndDay_append hn _ _

theorem daysBeforeMonth_of_monthAndDay {year month day n : Nat}
    (h : Date.monthAndDay year (List.range' 1 12) n = some (month, day)) :
    daysBeforeMonth year month + (day - 1) = n := by
  obtain ⟨before, after, hsplit, hsum⟩ := of_monthAndDay h
  obtain ⟨k, -, rfl, hrest⟩ := List.range'_eq_append_iff.mp hsplit
  obtain ⟨hmonth, -, -⟩ := List.range'_eq_cons_iff.mp hrest.symm
  rw [sum_map_range'] at hsum
  rw [show month = k + 1 by omega]
  exact hsum

/-! ## Days -/

namespace Date

theorem ofNumber?_eq (n : Nat) :
    ofNumber? n =
      (monthAndDay (yearOfNumber n).1 (List.range' 1 12) (yearOfNumber n).2).bind fun md =>
        of? (yearOfNumber n).1 md.1 md.2 := by
  have hmonths : List.range' 1 12 = [1, 2, 3, 4, 5, 6, 7, 8, 9, 10, 11, 12] := rfl
  simp only [ofNumber?, hmonths]
  cases monthAndDay (yearOfNumber n).1 [1, 2, 3, 4, 5, 6, 7, 8, 9, 10, 11, 12]
    (yearOfNumber n).2 <;> rfl

theorem of?_eq_some_iff {year month day : Nat} {d : Date} :
    of? year month day = some d ↔ d.year = year ∧ d.month = month ∧ d.day = day := by
  rw [of?]
  split
  · constructor
    · rintro ⟨⟩
      exact ⟨rfl, rfl, rfl⟩
    · rintro ⟨rfl, rfl, rfl⟩
      rfl
  · rename_i hnone
    refine ⟨nofun, ?_⟩
    rintro ⟨rfl, rfl, rfl⟩
    exact absurd d.exists_day hnone

/-- A day is found by its number. -/
theorem ofNumber?_number (d : Date) : ofNumber? d.number = some d := by
  obtain ⟨hyear, -, hmonth, hmonth', hday, hday'⟩ := d.exists_day
  have hlt : d.day - 1 < daysInMonth d.year d.month := by omega
  have hyears : yearOfNumber d.number =
      (d.year, daysBeforeMonth d.year d.month + (d.day - 1)) := by
    rw [number, Nat.add_assoc]
    exact yearOfNumber_daysBeforeYear hyear (daysBeforeMonth_add_lt ⟨hmonth, hmonth'⟩ hlt)
  rw [ofNumber?_eq, hyears]
  simp only
  rw [monthAndDay_daysBeforeMonth ⟨hmonth, hmonth'⟩ hlt, Option.bind_some, of?_eq_some_iff]
  exact ⟨rfl, rfl, by omega⟩

/-- A number finds the day that it is the number of. -/
theorem number_of_ofNumber? {n : Nat} {d : Date} (h : ofNumber? n = some d) : d.number = n := by
  rw [ofNumber?_eq, Option.bind_eq_some_iff] at h
  obtain ⟨⟨month, day⟩, hmonths, hdate⟩ := h
  obtain ⟨hyear, hmonth, hday⟩ := of?_eq_some_iff.mp hdate
  have hdays := daysBeforeMonth_of_monthAndDay hmonths
  have hyears := daysBeforeYear_yearOfNumber n
  rw [number, hyear, hmonth, hday, Nat.add_assoc, hdays, hyears]

/-! ### The last day -/

theorem number_lt (d : Date) : d.number < calendarDays := by
  obtain ⟨hyear, hyear', hmonth, hmonth', hday, hday'⟩ := d.exists_day
  have hlt : d.day - 1 < daysInMonth d.year d.month := by omega
  have hinYear := daysBeforeMonth_add_lt ⟨hmonth, hmonth'⟩ hlt
  rw [number, Nat.add_assoc]
  obtain ⟨a, b, c, e, hb, hc, he, hplace⟩ := exists_yearAt hyear
  rw [hplace] at hyear' hinYear ⊢
  rw [daysBeforeYear_yearAt hb hc he]
  exact (daysBefore_add_lt_iff hb hc he hinYear).mpr hyear'

/-- The numbers of the days are those before the end of the calendar. -/
theorem exists_ofNumber?_iff {n : Nat} : (∃ d, ofNumber? n = some d) ↔ n < calendarDays := by
  constructor
  · rintro ⟨d, hd⟩
    rw [← number_of_ofNumber? hd]
    exact d.number_lt
  · intro hn
    obtain ⟨a, b, c, d, r, hb, hc, hd, rfl, hr⟩ := exists_daysBefore n
    have hyear := (daysBefore_add_lt_iff hb hc hd hr).mp hn
    have hpos : 1 ≤ yearAt a b c d := Nat.le_add_left 1 _
    have hyears := yearOfNumber_daysBefore hb hc hd hr
    rw [← sum_months] at hr
    obtain ⟨month, day, hmonths, hmem, hday, hday'⟩ := exists_monthAndDay hr
    rw [List.mem_range'_1] at hmem
    rw [ofNumber?_eq, hyears]
    simp only [hmonths, Option.bind_some]
    exact ⟨_, dif_pos ⟨hpos, hyear, hmem.1, by omega, hday, hday'⟩⟩

theorem number_injective {d e : Date} (h : d.number = e.number) : d = e :=
  Option.some.inj (by rw [← ofNumber?_number, h, ofNumber?_number])

end Date

end BucketStore.Time
