import BucketStore.Proofs.Time.Lemmas.Rendered

/-!
# The words of the other layouts

The date of RFC 850 is one word with hyphens. In the layout of asctime the month stands before the
day and the time before the year, and no zone is stated. A signed zone gives its offset.
-/

namespace BucketStore.Time.HttpDate

open BucketStore.Text

/-! ## Names of days -/

theorem isWord_dayName {name : String} (h : name ∈ dayNames) : IsWord name.toList := by
  have hnames : ∀ name ∈ dayNames, IsWord name.toList := by decide
  exact hnames name h

theorem isWord_longDayName {name : String} (h : name ∈ longDayNames) : IsWord name.toList := by
  have hnames : ∀ name ∈ longDayNames, IsWord name.toList := by decide
  exact hnames name h

/-! ## RFC 850 -/

/-- Day, month and year, with hyphens. -/
def dateWord (t : DateTime) : Word :=
  ['-'].intercalate [number 2 t.date.day, monthWord t, number 2 (t.date.year % 100)]

theorem toList_rfc850 (name : String) (t : DateTime) :
    (rfc850 name t).toList =
      [' '].intercalate [nameWord name, dateWord t, timeWord t, "GMT".toList] := by
  simp only [rfc850, nameWord, dateWord, monthName, monthWord, number, String.toList_append,
    toList_timeText, List.intercalate_cons_cons, List.intercalate_singleton, List.append_assoc]
  rfl

theorem hyphen_not_mem_monthWord (t : DateTime) : '-' ∉ monthWord t := by
  have hnames : ∀ i < 12, '-' ∉ (nameAt monthNames i).toList := by decide
  exact hnames _ (month_lt t)

theorem isWord_dateWord (t : DateTime) : IsWord (dateWord t) := by
  apply isWord_intercalate (by decide) (List.cons_ne_nil _ _)
  simp only [List.forall_mem_cons]
  exact ⟨isWord_number 2 _, isWord_monthWord t, isWord_number 2 _, nofun⟩

theorem splitHyphens_dateWord (t : DateTime) (time zone : Word) :
    splitHyphens [dateWord t, time, zone] =
      [number 2 t.date.day, monthWord t, number 2 (t.date.year % 100), time, zone] := by
  have hparts : splitAt '-' (dateWord t) =
      [number 2 t.date.day, monthWord t, number 2 (t.date.year % 100)] := by
    refine splitAt_intercalate (List.cons_ne_nil _ _) ?_
    simp only [List.forall_mem_cons]
    exact ⟨not_mem_number (by decide) _ _, hyphen_not_mem_monthWord t,
      not_mem_number (by decide) _ _, nofun⟩
  simp only [splitHyphens, hparts]

theorem fields?_rfc850 {name : String} (hname : IsWord name.toList) (t : DateTime) :
    fields? (rfc850 name t) =
      some { fieldsOf t with year := completeYear (t.date.year % 100 : Nat) } := by
  obtain ⟨-, -, -, -, -, hday⟩ := t.date.exists_day
  have hmonthLength := daysInMonth_le t.date.year t.date.month
  have hwords : words (rfc850 name t).toList =
      [nameWord name, dateWord t, timeWord t, "GMT".toList] := by
    rw [toList_rfc850]
    apply words_intercalate
    simp only [List.forall_mem_cons]
    exact ⟨isWord_nameWord hname, isWord_dateWord t, isWord_timeWord t, isWord_gmt, nofun⟩
  rw [fields?, hwords, dropDayName_nameWord, splitHyphens_dateWord]
  have hdayWord : IsNumber (number 2 t.date.day) t.date.day := .two (by omega)
  have hyearWord : IsNumber (number 2 (t.date.year % 100)) (t.date.year % 100) :=
    .two (Nat.mod_lt _ (by decide))
  have hread := readWords?_dayFirst hdayWord hyearWord "GMT".toList
  rwa [zoneOffset?_gmt] at hread

/-! ## asctime -/

/-- The day of the month in one digit or two. -/
def dayWord (t : DateTime) : Word :=
  number (if t.date.day < 10 then 1 else 2) t.date.day

theorem isNumber_dayWord (t : DateTime) : IsNumber (dayWord t) t.date.day := by
  obtain ⟨-, -, -, -, -, hday⟩ := t.date.exists_day
  have hmonthLength := daysInMonth_le t.date.year t.date.month
  rw [dayWord]
  split
  · exact ⟨1, by decide, by decide, by omega, rfl⟩
  · exact .two (by omega)

/-- The space in front of a day of one digit stands beside another. -/
theorem words_spacedDay (t : DateTime) : words (spacedDay t.date.day).toList = [dayWord t] := by
  rw [spacedDay, dayWord]
  split
  · have hspace : ∀ c ∈ " ".toList, isBlank c = true := List.forall_mem_singleton.mpr rfl
    have hday : IsWord (number 1 t.date.day) := isWord_number 1 t.date.day
    rw [String.toList_append, words, splitBy_append_of_pos hspace]
    exact splitBy_of_forall hday.1 hday.2
  · exact words_of_isWord (isWord_number 2 t.date.day)

theorem words_asctime {name : String} (hname : IsWord name.toList) (t : DateTime) :
    words (asctime name t).toList =
      [name.toList, monthWord t, dayWord t, timeWord t, number 4 t.date.year] := by
  have htext : (asctime name t).toList = name.toList ++ ' ' :: (monthWord t ++ ' ' ::
      ((spacedDay t.date.day).toList ++ ' ' :: (timeWord t ++ ' ' :: number 4 t.date.year))) := by
    have hspace : " ".toList = [' '] := rfl
    simp only [asctime, monthName, monthWord, number, String.toList_append, toList_timeText, hspace,
      List.append_assoc, List.cons_append, List.nil_append]
  rw [htext, words_append_blank, words_append_blank, words_append_blank, words_append_blank,
    words_spacedDay, words_of_isWord hname, words_of_isWord (isWord_monthWord t),
    words_of_isWord (isWord_timeWord t), words_of_isWord (isWord_number 4 t.date.year)]
  rfl

theorem dropDayName_dayName {name : String} (h : name ∈ dayNames) (ws : List Word) :
    dropDayName (name.toList :: ws) = ws := by
  have hnames : ∀ name ∈ dayNames, Word.isDayName name.toList = true := by decide +kernel
  rw [dropDayName, hnames name h, Bool.or_true, if_pos rfl]

/-- A number has no sign to cut it at. -/
theorem IsNumber.cutAtSign {w : Word} {n : Nat} (h : IsNumber w n) : cutAtSign w = none := by
  have hplus : w.contains '+' = false := by
    rw [List.contains_eq_mem, decide_eq_false (h.not_mem (by decide))]
  have hall : ∀ c ∈ w, (c != '-') = true := by
    intro c hc
    have hminus : c ≠ '-' := ne_of_isDigit (h.isDigit_of_mem hc) (by decide)
    simpa using hminus
  have hafter : w.dropWhile (fun c => c != '-') = [] := List.dropWhile_eq_nil_iff.mpr hall
  simp only [HttpDate.cutAtSign, hplus, hafter, Bool.false_eq_true, if_false, List.isEmpty_nil,
    Bool.or_true, if_true]

theorem IsNumber.lower {w : Word} {n : Nat} (h : IsNumber w n) : w.lower = .ofList w :=
  lower_of_isDigit fun _ hc => h.isDigit_of_mem hc

theorem IsNumber.monthOf? {w : Word} {n : Nat} (h : IsNumber w n) :
    monthOf? (.ofList w) = none := by
  have hmonths : ∀ name ∈ knownMonths, name.toList.all Char.isDigit = false := by decide
  have hdigits : w.all Char.isDigit = true := List.all_eq_true.mpr fun _ hc => h.isDigit_of_mem hc
  have hunknown : String.ofList w ∉ knownMonths := by
    intro hmem
    have hname := hmonths _ hmem
    rw [String.toList_ofList, hdigits] at hname
    cases hname
  rw [HttpDate.monthOf?, List.idxOf?_eq_none_iff.mpr hunknown]
  rfl

theorem isTime_timeWord (t : DateTime) : isTime (timeWord t) = true := by
  obtain ⟨c, cs, hhour⟩ := List.exists_cons_of_ne_nil (number_ne_nil 2 t.clock.hour)
  have hmem : c ∈ number 2 t.clock.hour := by
    rw [hhour]
    exact List.mem_cons_self
  have hc : c ≠ ':' := ne_of_isDigit (isDigit_of_mem_number hmem) (by decide)
  rw [timeWord, hhour, List.intercalate_cons_cons, List.cons_append, List.cons_append, isTime]
  simp [hc]

theorem readWords?_monthFirst {t : DateTime} {day year : Word} {y : Nat}
    (hday : IsNumber day t.date.day) (hyear : IsNumber year y) (zone : Word) :
    readWords? (monthWord t) day (timeWord t) year zone =
      some { fieldsOf t with year := completeYear y, offset? := zoneOffset? zone } := by
  apply readWords?_of _ _ _ hday hyear
  · exact ⟨(isWord_monthWord t).1, hday.isWord.1, (isWord_timeWord t).1⟩
  · simp only [dayAndMonth?, hday.lower, hday.monthOf?, monthOf?_monthWord, String.toList_ofList,
      Option.map_some]
  · rw [isTime_timeWord]
    rfl

theorem fields?_asctime {name : String} (hname : name ∈ dayNames) (t : DateTime) :
    fields? (asctime name t) = some { fieldsOf t with offset? := none } := by
  obtain ⟨-, hyear, -⟩ := t.date.exists_day
  have hyearWord : IsNumber (number 4 t.date.year) t.date.year := .four (by omega)
  have hhyphens : splitHyphens [monthWord t, dayWord t, timeWord t, number 4 t.date.year] =
      [monthWord t, dayWord t, timeWord t, number 4 t.date.year] := rfl
  have hzone : completeZone [monthWord t, dayWord t, timeWord t, number 4 t.date.year] =
      [monthWord t, dayWord t, timeWord t, number 4 t.date.year, []] := by
    rw [completeZone, hyearWord.cutAtSign]
  have hnone : zoneOffset? [] = none := by decide
  have hread := readWords?_monthFirst (isNumber_dayWord t) hyearWord []
  rw [hnone] at hread
  rw [fields?, words_asctime (isWord_dayName hname), dropDayName_dayName hname, hhyphens, hzone]
  exact hread

/-! ## Signed zones -/

/-- Hours and minutes, two digits each, are one number. -/
def zoneNumeral (o : SignedOffset) : Numeral :=
  paddedNumeral 4 (o.hours * 100 + o.minutes)

theorem text_eq_append (o : SignedOffset) :
    o.text "" = (if o.west then "-" else "+") ++ (zoneNumeral o).text := by
  obtain ⟨hhours, hminutes⟩ := o.in_range
  have hhigh : (o.hours * 100 + o.minutes) / 100 = o.hours := by omega
  have hlow : (o.hours * 100 + o.minutes) % 100 = o.minutes := by omega
  have hdigits : (zoneNumeral o).text = DateTime.padded 2 o.hours ++ DateTime.padded 2 o.minutes := by
    apply String.toList_injective
    rw [Numeral.text, zoneNumeral, digits_paddedNumeral, String.toList_ofList, toList_padded_four,
      hhigh, hlow, String.toList_append]
  rw [hdigits, SignedOffset.text, String.append_empty, String.append_assoc]

theorem readInt?_text (o : SignedOffset) :
    readInt? (o.text "") =
      some (if o.west then -((o.hours * 100 + o.minutes : Nat) : Int)
        else (o.hours * 100 + o.minutes : Nat)) := by
  obtain ⟨hhours, hminutes⟩ := o.in_range
  have hnumber : o.hours * 100 + o.minutes < 10 ^ 4 := by omega
  have hlength : (zoneNumeral o).digits.length = 4 := length_paddedNumeral (by decide) hnumber
  have hvalue : (zoneNumeral o).value = o.hours * 100 + o.minutes := value_paddedNumeral _ _
  rw [text_eq_append, Numeral.readInt?_signed, Numeral.readNat?_digits, hlength, if_pos (by decide),
    hvalue]
  rfl

theorem toList_text_eq_cons (o : SignedOffset) :
    (o.text "").toList = (if o.west then '-' else '+') :: (zoneNumeral o).digits := by
  rw [text_eq_append, String.toList_append, Numeral.text, String.toList_ofList]
  cases o.west with
  | false => rfl
  | true => rfl

theorem isWord_text (o : SignedOffset) : IsWord (o.text "").toList := by
  have hdigits : ∀ c ∈ (zoneNumeral o).digits, isBlank c = false :=
    fun c hc => isBlank_of_isDigit ((zoneNumeral o).decimal c hc)
  have hsign : IsWord [if o.west then '-' else '+'] := by
    cases o.west with
    | false => decide
    | true => decide
  rw [toList_text_eq_cons]
  exact isWord_append hsign hdigits

theorem upper_text (o : SignedOffset) : upper (o.text "") = o.text "" := by
  have hdigits := flatMap_upperChar_of_isDigit (zoneNumeral o).decimal
  have hsign : upperChar (if o.west then '-' else '+') = [if o.west then '-' else '+'] := by
    cases o.west with
    | false => decide
    | true => decide
  have hupper : (o.text "").toList.flatMap upperChar = (o.text "").toList := by
    rw [toList_text_eq_cons, List.flatMap_cons, hsign, hdigits]
    rfl
  rw [upper, hupper, String.ofList_toList]

theorem lookup_zones_text (o : SignedOffset) : zones.lookup (o.text "") = none := by
  -- No name has a sign in it.
  have hnames : ∀ zone ∈ zones, '+' ∉ zone.1.toList ∧ '-' ∉ zone.1.toList := by decide
  rw [List.lookup_eq_none_iff]
  intro zone hzone
  rw [bne_iff_ne]
  intro heq
  obtain ⟨hplus, hminus⟩ := hnames zone hzone
  rw [← heq, toList_text_eq_cons] at hplus hminus
  cases hwest : o.west with
  | false => exact hplus (by simp [hwest])
  | true => exact hminus (by simp [hwest])

theorem zoneOffset?_text (o : SignedOffset) :
    zoneOffset? (o.text "").toList = some o.seconds := by
  obtain ⟨hhours, hminutes⟩ := o.in_range
  simp only [zoneOffset?, String.ofList_toList, upper_text, lookup_zones_text, readInt?_text,
    Option.map_some, Option.some.injEq]
  cases hwest : o.west with
  | false =>
      simp only [offsetSeconds, SignedOffset.seconds, hwest, Bool.false_eq_true, if_false]
      split <;> omega
  | true =>
      simp only [offsetSeconds, SignedOffset.seconds, hwest, if_true]
      split <;> omega

end BucketStore.Time.HttpDate
