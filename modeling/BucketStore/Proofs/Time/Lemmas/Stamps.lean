import BucketStore.Proofs.Time.Lemmas.Instants
import BucketStore.Proofs.Time.Lemmas.Padded
import BucketStore.Proofs.Time.Written
import BucketStore.Time.Rfc3339

/-!
# Reading a written time stamp

Each reader takes its field off the front of a written time stamp and leaves the rest. The cut
leaves a time stamp with the first six digits of its fraction.
-/

namespace BucketStore.Time.Rfc3339

open BucketStore.Text

/-! ## Fields of two digits -/

theorem digitIn?_digitChar {low high d : Nat} (hd : d < 10) :
    digitIn? low high d.digitChar = if low ≤ d ∧ d ≤ high then some d else none := by
  have hdigit : d.digitChar.isDigit = true := by rw [Nat.isDigit_digitChar, decide_eq_true hd]
  rw [digitIn?, Nat.toNat_digitChar_sub_48_of_lt_ten hd]
  simp only [hdigit, true_and]

theorem digitIn?_digitChar_of_mem {low high d : Nat} (hd : d < 10) (h : low ≤ d ∧ d ≤ high) :
    digitIn? low high d.digitChar = some d := by
  rw [digitIn?_digitChar hd, if_pos h]

section

variable {n : Nat} (hn : n < 100)
include hn

theorem two_padded {first second : Char → Option Nat}
    (hfirst : first (n / 10).digitChar = some (n / 10))
    (hsecond : second (n % 10).digitChar = some (n % 10)) (rest : List Char) :
    two first second ((DateTime.padded 2 n).toList ++ rest) = some (n, rest) := by
  have hvalue : 10 * (n / 10) + n % 10 = n := Nat.div_add_mod n 10
  rw [toList_padded_two hn]
  simp only [List.cons_append, List.nil_append, two, hfirst, hsecond, Option.bind_eq_bind,
    Option.bind_some, hvalue]
  rfl

/-- A reader with bounds on the first digit takes a number of which it is the tens. -/
theorem two_digitIn_padded {low high : Nat} {second : Char → Option Nat}
    (htens : low ≤ n / 10 ∧ n / 10 ≤ high)
    (hsecond : second (n % 10).digitChar = some (n % 10)) (rest : List Char) :
    two (digitIn? low high) second ((DateTime.padded 2 n).toList ++ rest) = some (n, rest) := by
  have hlt : n / 10 < 10 := by omega
  exact two_padded hn (digitIn?_digitChar_of_mem hlt htens) hsecond rest

theorem two_digitIn_padded_of_not {low high : Nat} (second : Char → Option Nat)
    (htens : ¬(low ≤ n / 10 ∧ n / 10 ≤ high)) (rest : List Char) :
    two (digitIn? low high) second ((DateTime.padded 2 n).toList ++ rest) = none := by
  have hlt : n / 10 < 10 := by omega
  rw [toList_padded_two hn]
  simp only [List.cons_append, two, digitIn?_digitChar hlt, if_neg htens, Option.bind_eq_bind,
    Option.bind_none]

end

section

variable {reader : List Char → Option (Nat × List Char)} {cs : List Char}
  (readers : List (List Char → Option (Nat × List Char)))

theorem firstOf_of_some {r : Nat × List Char} (h : reader cs = some r) :
    firstOf (reader :: readers) cs = some r := by
  rw [firstOf, List.findSome?_cons, h]

theorem firstOf_of_none (h : reader cs = none) :
    firstOf (reader :: readers) cs = firstOf readers cs := by
  rw [firstOf, List.findSome?_cons, h, firstOf]

end

theorem year_padded {n : Nat} (hn : n < 10000) (rest : List Char) :
    year ((DateTime.padded 4 n).toList ++ rest) = some (n, rest) := by
  have hhigh : n / 100 < 100 := by omega
  have hlow : n % 100 < 100 := by omega
  have hvalue : 100 * (n / 100) + n % 100 = n := Nat.div_add_mod n 100
  have hdigit {d : Nat} (hd : d < 10) := decimalDigit?_digitChar hd
  have hcentury := two_padded hhigh (hdigit (by omega)) (hdigit (by omega))
  have hyear := two_padded hlow (hdigit (by omega)) (hdigit (by omega)) rest
  rw [toList_padded_four, List.append_assoc, year]
  simp only [hcentury, hyear, Option.bind_eq_bind, Option.bind_some, hvalue]
  rfl

section

variable {n : Nat} (rest : List Char)

theorem month_padded (hn : 1 ≤ n ∧ n ≤ 12) :
    month ((DateTime.padded 2 n).toList ++ rest) = some (n, rest) := by
  have hlt : n < 100 := by omega
  have hlow : n % 10 < 10 := by omega
  rw [month]
  by_cases htens : 1 ≤ n / 10 ∧ n / 10 ≤ 1
  · apply firstOf_of_some
    exact two_digitIn_padded hlt htens (digitIn?_digitChar_of_mem hlow (by omega)) rest
  · rw [firstOf_of_none _ (two_digitIn_padded_of_not hlt _ htens rest)]
    apply firstOf_of_some
    exact two_digitIn_padded hlt (by omega) (digitIn?_digitChar_of_mem hlow (by omega)) rest

theorem day_padded (hn : 1 ≤ n ∧ n ≤ 31) :
    day ((DateTime.padded 2 n).toList ++ rest) = some (n, rest) := by
  have hlt : n < 100 := by omega
  have hlow : n % 10 < 10 := by omega
  rw [day]
  by_cases hthirty : 3 ≤ n / 10 ∧ n / 10 ≤ 3
  · apply firstOf_of_some
    exact two_digitIn_padded hlt hthirty (digitIn?_digitChar_of_mem hlow (by omega)) rest
  rw [firstOf_of_none _ (two_digitIn_padded_of_not hlt _ hthirty rest)]
  by_cases hten : 1 ≤ n / 10 ∧ n / 10 ≤ 2
  · apply firstOf_of_some
    exact two_digitIn_padded hlt hten (decimalDigit?_digitChar hlow) rest
  rw [firstOf_of_none _ (two_digitIn_padded_of_not hlt _ hten rest)]
  apply firstOf_of_some
  exact two_digitIn_padded hlt (by omega) (digitIn?_digitChar_of_mem hlow (by omega)) rest

theorem hour_padded (hn : n < 24) :
    hour ((DateTime.padded 2 n).toList ++ rest) = some (n, rest) := by
  have hlt : n < 100 := by omega
  have hlow : n % 10 < 10 := by omega
  rw [hour]
  by_cases htwenty : 2 ≤ n / 10 ∧ n / 10 ≤ 2
  · apply firstOf_of_some
    exact two_digitIn_padded hlt htwenty (digitIn?_digitChar_of_mem hlow (by omega)) rest
  · rw [firstOf_of_none _ (two_digitIn_padded_of_not hlt _ htwenty rest)]
    apply firstOf_of_some
    exact two_digitIn_padded hlt (by omega) (decimalDigit?_digitChar hlow) rest

theorem two_sixty_padded (hn : n < 60) :
    two (digitIn? 0 5) decimalDigit? ((DateTime.padded 2 n).toList ++ rest) = some (n, rest) := by
  have hlt : n < 100 := by omega
  have hlow : n % 10 < 10 := by omega
  exact two_digitIn_padded hlt (by omega) (decimalDigit?_digitChar hlow) rest

theorem minute_padded (hn : n < 60) :
    minute ((DateTime.padded 2 n).toList ++ rest) = some (n, rest) := by
  rw [minute]
  apply firstOf_of_some
  exact two_sixty_padded rest hn

theorem second_padded (hn : n < 60) :
    second ((DateTime.padded 2 n).toList ++ rest) = some (n, rest) := by
  have hlt : n < 100 := by omega
  have hsixty : ¬(6 ≤ n / 10 ∧ n / 10 ≤ 6) := by omega
  rw [second, firstOf_of_none _ (two_digitIn_padded_of_not hlt _ hsixty rest)]
  apply firstOf_of_some
  exact two_sixty_padded rest hn

end

/-! ## Zones and fractions -/

theorem offsetLength_written (o : SignedOffset) :
    offsetLength ((DateTime.padded 2 o.hours).toList ++
      ':' :: (DateTime.padded 2 o.minutes).toList) =
      some ((o.hours * 60 + o.minutes) * 60000000, []) := by
  obtain ⟨hhours, hminutes⟩ := o.in_range
  have hdigit {d : Nat} (hd : d < 10) := decimalDigit?_digitChar hd
  have hhour := two_padded (show o.hours < 100 by omega) (hdigit (by omega)) (hdigit (by omega))
    (':' :: (DateTime.padded 2 o.minutes).toList)
  have hminute := two_sixty_padded [] hminutes
  rw [List.append_nil] at hminute
  rw [offsetLength]
  simp only [hhour, colon, hminute, Option.bind_eq_bind, Option.bind_some]
  rfl

theorem toList_text (o : SignedOffset) :
    (o.text ":").toList = (if o.west then '-' else '+') ::
      ((DateTime.padded 2 o.hours).toList ++ ':' :: (DateTime.padded 2 o.minutes).toList) := by
  cases hwest : o.west <;> simp [SignedOffset.text, hwest]

theorem zone_text (z : Zone) : zone z.text.toList = some (z.offset.microseconds, []) := by
  cases z with
  | universal => rfl
  | signed o =>
      rw [Zone.text, toList_text]
      cases hwest : o.west with
      | false =>
          simp [zone, offsetLength_written, Zone.offset, SignedOffset.offset, SignedOffset.seconds,
            hwest]
          omega
      | true =>
          simp [zone, offsetLength_written, Zone.offset, SignedOffset.offset, SignedOffset.seconds,
            hwest]
          omega

theorem zone_point (cs : List Char) : zone ('.' :: cs) = none :=
  rfl

theorem exists_text_eq_cons (z : Zone) :
    ∃ c cs, z.text.toList = c :: cs ∧ c.isDigit = false ∧ isDecimal c = false := by
  cases z with
  | universal => exact ⟨'Z', [], rfl, rfl, rfl⟩
  | signed o =>
      rw [Zone.text, toList_text]
      cases o.west with
      | false => exact ⟨'+', _, rfl, rfl, rfl⟩
      | true => exact ⟨'-', _, rfl, rfl, rfl⟩

theorem isDigit_point : ('.' : Char).isDigit = false := rfl

theorem point_not_mem_padded (width n : Nat) : '.' ∉ (DateTime.padded width n).toList :=
  fun hc => ne_of_isDigit (isDigit_of_mem_padded hc) isDigit_point rfl

theorem point_not_mem_zone (z : Zone) : '.' ∉ z.text.toList := by
  cases z with
  | universal => decide
  | signed o =>
      rw [Zone.text, toList_text]
      cases o.west <;> simp [point_not_mem_padded]

/-! ## The front -/

/-- What stands before the fraction. -/
def Stamp.front (s : Stamp) : List Char :=
  (DateTime.padded 4 s.date.year).toList ++ '-' :: ((DateTime.padded 2 s.date.month).toList ++
    '-' :: ((DateTime.padded 2 s.date.day).toList ++ 'T' :: ((DateTime.padded 2 s.hour).toList ++
      ':' :: ((DateTime.padded 2 s.minute).toList ++ ':' :: (DateTime.padded 2 s.second).toList))))

theorem Stamp.toList_text (s : Stamp) :
    s.text.toList = s.front ++ (s.fractionText.toList ++ s.zone.text.toList) := by
  simp [Stamp.text, Stamp.front]

/-- The numbers that stand before the fraction. -/
def Stamp.numbers (s : Stamp) : Seconds where
  year := s.date.year
  month := s.date.month
  day := s.date.day
  hour := s.hour
  minute := s.minute
  second := s.second

theorem letter_cons (c : Char) (cs : List Char) : letter c (c :: cs) = some cs :=
  if_pos (.inl rfl)

theorem seconds_front (s : Stamp) (rest : List Char) :
    seconds (s.front ++ rest) = some (s.numbers, rest) := by
  obtain ⟨-, hyear, hmonth, hmonth', hday, hday'⟩ := s.date.exists_day
  obtain ⟨hhour, hminute, hsecond⟩ := s.in_range
  have hmonthLength := daysInMonth_le s.date.year s.date.month
  have hyears {cs} := year_padded (show s.date.year < 10000 by omega) cs
  have hmonths {cs} := month_padded cs ⟨hmonth, hmonth'⟩
  have hdays {cs} := day_padded cs (show 1 ≤ s.date.day ∧ s.date.day ≤ 31 by omega)
  have hhours {cs} := hour_padded cs hhour
  have hminutes {cs} := minute_padded cs hminute
  have hseconds {cs} := second_padded cs hsecond
  simp only [seconds, Stamp.front, List.append_assoc, List.cons_append, hyears, hmonths, hdays,
    hhours, hminutes, hseconds, letter_cons, Option.bind_eq_bind, Option.bind_some]
  rfl

theorem point_not_mem_front (s : Stamp) : '.' ∉ s.front := by
  simp [Stamp.front, point_not_mem_padded]

/-! ## The fraction -/

theorem digitIn?_of_isDigit {c : Char} (h : c.isDigit = true) :
    digitIn? 0 9 c = some (c.toNat - 48) := by
  obtain ⟨hlow, hhigh⟩ := toNat_of_isDigit h
  rw [digitIn?, if_pos ⟨h, by omega, by omega⟩]

theorem digitIn?_of_not_isDigit {c : Char} (h : c.isDigit = false) (low high : Nat) :
    digitIn? low high c = none := by
  rw [digitIn?, if_neg (by simp [h])]

/-- The digits are taken up to the first character that is none. -/
theorem upToSix_append {kept : List Char} (hkept : ∀ c ∈ kept, c.isDigit = true)
    (hlength : kept.length ≤ 6) {c : Char} (hc : c.isDigit = false) (cs : List Char) :
    upToSix (digitIn? 0 9) (kept ++ c :: cs) = (kept.map fun d => d.toNat - 48, c :: cs) := by
  have hdigits : ∀ d ∈ kept, (digitIn? 0 9 d).isSome = true := by
    intro d hd
    rw [digitIn?_of_isDigit (hkept d hd)]
    rfl
  have hstop : ((c :: cs).take (6 - kept.length)).takeWhile (fun d => (digitIn? 0 9 d).isSome) =
      [] := by
    cases 6 - kept.length with
    | zero => rfl
    | succ k =>
        rw [List.take_succ_cons, List.takeWhile_cons_of_neg]
        simp [digitIn?_of_not_isDigit hc]
  have hmap : kept.filterMap (digitIn? 0 9) = kept.map fun d => d.toNat - 48 := by
    rw [← List.filterMap_eq_map]
    apply List.filterMap_congr
    intro d hd
    exact digitIn?_of_isDigit (hkept d hd)
  simp only [upToSix]
  rw [List.take_append, List.take_of_length_le hlength, List.takeWhile_append_of_pos hdigits, hstop,
    List.append_nil, hmap, List.drop_left]

theorem millionths_map {kept : List Char} :
    millionths (kept.map fun c => c.toNat - 48) =
      Nat.ofDigitChars 10 (kept ++ List.replicate (6 - kept.length) '0') 0 := by
  rw [millionths, List.length_map, ← ofDigits_map, List.map_append, List.map_replicate]
  rfl

/-- The first six digits. -/
def keptDigits (fraction : Numeral) : List Char :=
  fraction.digits.take 6

theorem microsecondOf_eq (fraction : Numeral) :
    microsecondOf fraction = millionths ((keptDigits fraction).map fun c => c.toNat - 48) := by
  have hlength : 6 - (keptDigits fraction).length = min (6 - fraction.digits.length) 6 := by
    rw [keptDigits, List.length_take]
    omega
  rw [millionths_map, hlength, ← List.take_replicate, keptDigits, ← List.take_append, microsecondOf]

theorem fraction_kept (fraction : Numeral) {c : Char} (hc : c.isDigit = false) (cs : List Char) :
    Rfc3339.fraction (keptDigits fraction ++ c :: cs) =
      some (microsecondOf fraction, c :: cs) := by
  have hkept : ∀ d ∈ keptDigits fraction, d.isDigit = true :=
    fun d hd => fraction.decimal d (List.mem_of_mem_take hd)
  have hlength : (keptDigits fraction).length ≤ 6 := List.length_take_le 6 fraction.digits
  have hne : ((keptDigits fraction).map fun d => d.toNat - 48).isEmpty = false := by
    rw [keptDigits]
    obtain ⟨d, ds, hdigits⟩ := List.exists_cons_of_ne_nil fraction.nonempty
    rw [hdigits]
    rfl
  rw [Rfc3339.fraction, upToSix_append hkept hlength hc]
  simp only [hne, Bool.false_eq_true, if_false, ← microsecondOf_eq]

/-! ## The cut -/

theorem cutFrom_none_append {cs : List Char} (h : '.' ∉ cs) (rest : List Char) :
    cutFrom none (cs ++ rest) = cs ++ cutFrom none rest := by
  induction cs with
  | nil => rfl
  | cons c cs ih =>
      have hc : c ≠ '.' := (List.ne_of_not_mem_cons h).symm
      rw [List.cons_append, cutFrom, if_neg hc, ih (List.not_mem_of_not_mem_cons h)]
      rfl

theorem cutFrom_none {cs : List Char} (h : '.' ∉ cs) : cutFrom none cs = cs := by
  have hcut := cutFrom_none_append h []
  rwa [List.append_nil, cutFrom, List.append_nil] at hcut

/-- A run ends where no digit follows. -/
theorem cutFrom_cons {c : Char} (hc : isDecimal c = false) (hpoint : c ≠ '.') (run : Option Nat)
    (cs : List Char) : cutFrom run (c :: cs) = c :: cutFrom none cs := by
  cases run with
  | none => rw [cutFrom, if_neg hpoint]
  | some n =>
      rw [cutFrom, if_neg hpoint]
      simp only [hc, Bool.false_eq_true, if_false]

theorem cutFrom_some_append {digits : List Char} (h : ∀ c ∈ digits, c.isDigit = true) (n : Nat)
    {c : Char} (hc : isDecimal c = false) (hpoint : c ≠ '.') (cs : List Char) :
    cutFrom (some n) (digits ++ c :: cs) = digits.take (6 - n) ++ c :: cutFrom none cs := by
  induction digits generalizing n with
  | nil => rw [List.nil_append, List.take_nil, List.nil_append, cutFrom_cons hc hpoint]
  | cons d digits ih =>
      have hd : d.isDigit = true := h d List.mem_cons_self
      have hdecimal : isDecimal d = true := by rw [isDecimal, decimalDigit?_of_isDigit hd]; rfl
      have hrest : ∀ e ∈ digits, e.isDigit = true := fun e he => h e (List.mem_cons_of_mem d he)
      rw [List.cons_append, cutFrom, if_neg (ne_of_isDigit hd isDigit_point)]
      simp only [hdecimal, if_true]
      by_cases hn : n < 6
      · obtain ⟨k, hk⟩ := Nat.exists_eq_add_of_lt hn
        have hleft : 6 - n = (6 - (n + 1)) + 1 := by omega
        rw [if_pos hn, ih hrest, hleft, List.take_succ_cons, List.cons_append]
      · have hleft : 6 - n = 0 := by omega
        rw [if_neg hn, ih hrest, hleft, List.take_zero, List.take_zero]

/-- The fraction with six digits at most. -/
def Stamp.cutText (s : Stamp) : List Char :=
  match s.fraction? with
  | some fraction => '.' :: keptDigits fraction
  | none => []

theorem cutFractions_text (s : Stamp) :
    cutFractions s.text.toList = s.front ++ (s.cutText ++ s.zone.text.toList) := by
  obtain ⟨c, cs, hzone, -, hdecimal⟩ := exists_text_eq_cons s.zone
  have hpoint := point_not_mem_zone s.zone
  rw [hzone] at hpoint
  have hc : c ≠ '.' := (List.ne_of_not_mem_cons hpoint).symm
  have hcs : cutFrom none cs = cs := cutFrom_none (List.not_mem_of_not_mem_cons hpoint)
  rw [cutFractions, Stamp.toList_text, cutFrom_none_append (point_not_mem_front s), hzone]
  cases hfraction : s.fraction? with
  | none =>
      simp only [Stamp.fractionText, Stamp.cutText, hfraction]
      rw [String.toList_empty, List.nil_append, cutFrom_cons hdecimal hc, hcs]
  | some fraction =>
      have htext : ("." ++ fraction.text).toList = '.' :: fraction.digits := by
        simp [Numeral.text]
      simp only [Stamp.fractionText, Stamp.cutText, hfraction, htext]
      rw [List.cons_append, cutFrom, if_pos rfl, cutFrom_some_append fraction.decimal 0 hdecimal hc,
        hcs, List.cons_append]
      rfl

/-! ## The date-time -/

theorem build_numbers (s : Stamp) :
    build s.numbers s.microsecond s.zone.offset.microseconds = some s.dateTime := by
  have hoffset : Offset.of? s.zone.offset.microseconds = some s.zone.offset := by
    rw [Offset.of?, dif_pos s.zone.offset.in_range]
  have hdate : Date.of? s.date.year s.date.month s.date.day = some s.date :=
    Date.of?_eq_some_iff.mpr ⟨rfl, rfl, rfl⟩
  have hclock : Clock.of? s.hour s.minute s.second s.microsecond = some s.dateTime.clock :=
    Clock.of?_eq_some_iff.mpr ⟨rfl, rfl, rfl, rfl⟩
  rw [build, hoffset]
  simp only [Stamp.numbers, DateTime.of?, hdate, hclock, Option.bind_eq_bind, Option.bind_some]
  rfl

end BucketStore.Time.Rfc3339
