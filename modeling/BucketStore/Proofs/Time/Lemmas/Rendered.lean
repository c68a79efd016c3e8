import BucketStore.Proofs.Time.Lemmas.Blanks
import BucketStore.Proofs.Time.Lemmas.Fields
import BucketStore.Proofs.Time.Lemmas.Padded
import BucketStore.Proofs.Time.Written

/-!
# The words of a written date

A date in the layout of RFC 1123 has six words. The name of the day is passed over, and the others
give back the numbers that they were written from. Day and month may change places, and so may year
and time.
-/

namespace BucketStore.Time

open BucketStore.Text

namespace HttpDate

/-! ## The words -/

def number (width n : Nat) : Word :=
  (DateTime.padded width n).toList

def monthWord (t : DateTime) : Word :=
  (nameAt monthNames (t.date.month - 1)).toList

def timeWord (t : DateTime) : Word :=
  [':'].intercalate [number 2 t.clock.hour, number 2 t.clock.minute, number 2 t.clock.second]

def nameWord (name : String) : Word :=
  name.toList ++ [',']

theorem toList_timeText (t : DateTime) : (timeText t).toList = timeWord t := by
  simp only [timeText, timeWord, number, String.toList_append, List.intercalate_cons_cons,
    List.intercalate_singleton, List.append_assoc]
  rfl

theorem toList_rfc1123 (name zone : String) (t : DateTime) :
    (rfc1123 name zone t).toList =
      [' '].intercalate [nameWord name, number 2 t.date.day, monthWord t, number 4 t.date.year,
        timeWord t, zone.toList] := by
  simp only [rfc1123, nameWord, monthName, monthWord, number, String.toList_append, toList_timeText,
    List.intercalate_cons_cons, List.intercalate_singleton, List.append_assoc]
  rfl

theorem month_lt (t : DateTime) : t.date.month - 1 < 12 := by
  obtain ⟨-, -, -, hmonth, -⟩ := t.date.exists_day
  omega

theorem isDigit_of_mem_number {width n : Nat} {c : Char} (h : c ∈ number width n) :
    c.isDigit = true := by
  exact isDigit_of_mem_padded h

theorem number_ne_nil (width n : Nat) : number width n ≠ [] := by
  rw [number, ← digits_paddedNumeral]
  exact (paddedNumeral width n).nonempty

theorem not_mem_number {c : Char} (h : c.isDigit = false) (width n : Nat) : c ∉ number width n :=
  fun hc => ne_of_isDigit (isDigit_of_mem_number hc) h rfl

/-! ### They hold no white space -/

/-- A word that is not empty and holds no white space. -/
def IsWord (w : Word) : Prop :=
  w ≠ [] ∧ ∀ c ∈ w, isBlank c = false

instance (w : Word) : Decidable (IsWord w) :=
  decidable_of_iff (w ≠ [] ∧ w.all (fun c => !isBlank c) = true) (by simp [IsWord])

theorem words_of_isWord {w : Word} (h : IsWord w) : words w = [w] :=
  splitBy_of_forall h.1 h.2

theorem isWord_number (width n : Nat) : IsWord (number width n) :=
  ⟨number_ne_nil width n, fun _ hc => isBlank_of_isDigit (isDigit_of_mem_number hc)⟩

theorem isWord_append {v w : Word} (hv : IsWord v) (hw : ∀ c ∈ w, isBlank c = false) :
    IsWord (v ++ w) := by
  refine ⟨List.append_ne_nil_of_left_ne_nil hv.1 w, ?_⟩
  intro c hc
  rcases List.mem_append.mp hc with hfirst | hsecond
  · exact hv.2 c hfirst
  · exact hw c hsecond

theorem isWord_intercalate {sep : Char} (hsep : isBlank sep = false) {ws : List Word}
    (hne : ws ≠ []) (h : ∀ w ∈ ws, IsWord w) : IsWord ([sep].intercalate ws) := by
  induction ws with
  | nil => exact absurd rfl hne
  | cons w ws ih =>
      have hw : IsWord w := h w List.mem_cons_self
      cases ws with
      | nil => rwa [List.intercalate_singleton]
      | cons v ws =>
          have hrest := ih (List.cons_ne_nil v ws) fun u hu => h u (List.mem_cons_of_mem w hu)
          rw [List.intercalate_cons_cons, List.append_assoc]
          exact isWord_append hw (List.forall_mem_cons.mpr ⟨hsep, hrest.2⟩)

theorem isWord_timeWord (t : DateTime) : IsWord (timeWord t) := by
  apply isWord_intercalate (by decide) (List.cons_ne_nil _ _)
  simp only [List.forall_mem_cons]
  exact ⟨isWord_number 2 _, isWord_number 2 _, isWord_number 2 _, nofun⟩

theorem isWord_nameWord {name : String} (h : IsWord name.toList) : IsWord (nameWord name) :=
  isWord_append h (List.forall_mem_singleton.mpr rfl)

theorem isWord_monthWord (t : DateTime) : IsWord (monthWord t) := by
  have hnames : ∀ i < 12, IsWord (nameAt monthNames i).toList := by decide
  exact hnames _ (month_lt t)

theorem isWord_gmt : IsWord "GMT".toList := by
  decide

theorem words_rfc1123 {name zone : String} (hname : IsWord name.toList) (hzone : IsWord zone.toList)
    (t : DateTime) :
    words (rfc1123 name zone t).toList = [nameWord name, number 2 t.date.day, monthWord t,
      number 4 t.date.year, timeWord t, zone.toList] := by
  rw [toList_rfc1123]
  apply words_intercalate
  simp only [List.forall_mem_cons]
  exact ⟨isWord_nameWord hname, isWord_number 2 _, isWord_monthWord t, isWord_number 4 _,
    isWord_timeWord t, hzone, nofun⟩

theorem dropDayName_nameWord (name : String) (ws : List Word) :
    dropDayName (nameWord name :: ws) = ws := by
  have hcomma : (nameWord name).endsInComma = true := by
    rw [Word.endsInComma, nameWord, List.getLast?_concat]
    rfl
  rw [dropDayName, hcomma, Bool.true_or, if_pos rfl]

/-! ## Reading numbers -/

/-- The word writes the number, in up to four digits. -/
def IsNumber (w : Word) (n : Nat) : Prop :=
  ∃ width, 0 < width ∧ width ≤ 4 ∧ n < 10 ^ width ∧ w = number width n

theorem dropComma_append_number (before : Word) (width n : Nat) :
    Word.dropComma (before ++ number width n) = before ++ number width n := by
  refine if_neg ?_
  obtain ⟨digits, c, hnumber⟩ := List.eq_nil_or_concat' (number width n) |>.resolve_left
    (number_ne_nil width n)
  have hmem : c ∈ number width n := by
    rw [hnumber]
    exact List.mem_concat_self
  have hc : c.isDigit = true := isDigit_of_mem_number hmem
  have hcomma : c ≠ ',' := ne_of_isDigit hc (by decide)
  rw [Word.endsInComma, hnumber, ← List.append_assoc, List.getLast?_concat]
  simpa using hcomma

namespace IsNumber

theorem two {n : Nat} (h : n < 100) : IsNumber (number 2 n) n :=
  ⟨2, by decide, by decide, h, rfl⟩

theorem four {n : Nat} (h : n < 10000) : IsNumber (number 4 n) n :=
  ⟨4, by decide, by decide, h, rfl⟩

variable {w : Word} {n : Nat} (h : IsNumber w n)
include h

theorem isWord : IsWord w := by
  obtain ⟨width, -, -, -, hw⟩ := h
  rw [hw]
  exact isWord_number width n

theorem isDigit_of_mem {c : Char} (hc : c ∈ w) : c.isDigit = true := by
  obtain ⟨width, -, -, -, hw⟩ := h
  rw [hw] at hc
  exact isDigit_of_mem_number hc

theorem not_mem {c : Char} (hc : c.isDigit = false) : c ∉ w :=
  fun hmem => ne_of_isDigit (h.isDigit_of_mem hmem) hc rfl

theorem dropComma : Word.dropComma w = w := by
  obtain ⟨width, -, -, -, hw⟩ := h
  have hdrop := dropComma_append_number [] width n
  rwa [List.nil_append, ← hw] at hdrop

theorem not_isTime : isTime w = false := by
  have hcolon : ':' ∉ w.drop 1 := fun hc => h.not_mem (by decide) (List.mem_of_mem_drop hc)
  rw [isTime, List.contains_eq_mem, decide_eq_false hcolon, Bool.false_and]

theorem exists_head? : ∃ c, w.head? = some c ∧ isAnyDigit c = true := by
  obtain ⟨c, cs, rfl⟩ := List.exists_cons_of_ne_nil h.isWord.1
  refine ⟨c, rfl, ?_⟩
  rw [isAnyDigit, isDecimal, decimalDigit?_of_isDigit (h.isDigit_of_mem List.mem_cons_self)]
  rfl

theorem int? : Word.int? w = some (n : Int) := by
  obtain ⟨width, hpos, hmax, hn, hw⟩ := h
  have hdigits : width ≤ maxDigits := Nat.le_trans hmax (by decide)
  rw [hw, Word.int?, number, String.ofList_toList, readInt?_padded hpos hdigits hn]

end IsNumber

/-! ## Reading words -/

theorem dropComma_timeWord (t : DateTime) : Word.dropComma (timeWord t) = timeWord t := by
  rw [timeWord, List.intercalate_cons_cons, List.intercalate_cons_cons, List.intercalate_singleton,
    ← List.append_assoc]
  exact dropComma_append_number _ 2 t.clock.second

theorem timeParts?_timeWord (t : DateTime) :
    timeParts? (timeWord t) =
      some (number 2 t.clock.hour, number 2 t.clock.minute, number 2 t.clock.second) := by
  have hparts : splitAt ':' (timeWord t) =
      [number 2 t.clock.hour, number 2 t.clock.minute, number 2 t.clock.second] := by
    have hcolon : ∀ n, ':' ∉ number 2 n := not_mem_number (by decide) 2
    refine splitAt_intercalate (List.cons_ne_nil _ _) ?_
    simp only [List.forall_mem_cons]
    exact ⟨hcolon _, hcolon _, hcolon _, nofun⟩
  rw [timeParts?, hparts]

theorem monthOf?_monthWord (t : DateTime) :
    monthOf? (Word.lower (monthWord t)) = some t.date.month := by
  have hnames : ∀ i < 12, monthOf? (Word.lower (nameAt monthNames i).toList) = some (i + 1) := by
    decide +kernel
  have hmonth := hnames _ (month_lt t)
  obtain ⟨-, -, hpos, -⟩ := t.date.exists_day
  rwa [Nat.sub_add_cancel hpos] at hmonth

theorem zoneOffset?_gmt : zoneOffset? "GMT".toList = some 0 := by
  decide +kernel

/-- The numbers of a date-time of universal time. -/
def fieldsOf (t : DateTime) : Fields where
  year := completeYear t.date.year
  month := t.date.month
  day := t.date.day
  hour := t.clock.hour
  minute := t.clock.minute
  second := t.clock.second
  offset? := some 0

section

variable {t : DateTime} {day year : Word} {y : Nat}

/-- What is read is told by day and month and by year and time as they come out of the words. -/
theorem readWords?_of {first second third fourth : Word}
    (hwords : first ≠ [] ∧ second ≠ [] ∧ third ≠ [])
    (hdate : dayAndMonth? first second = some (day, t.date.month))
    (htime : (if isTime third then (fourth, third) else (third, fourth)) = (year, timeWord t))
    (hday : IsNumber day t.date.day) (hyear : IsNumber year y) (zone : Word) :
    readWords? first second third fourth zone =
      some { fieldsOf t with year := completeYear y, offset? := zoneOffset? zone } := by
  obtain ⟨hhour, hminute, hsecond, -⟩ := t.clock.in_range
  have hempty : (first.isEmpty || second.isEmpty || third.isEmpty) = false := by
    simp only [Bool.or_eq_false_iff, List.isEmpty_eq_false_iff]
    exact ⟨⟨hwords.1, hwords.2.1⟩, hwords.2.2⟩
  obtain ⟨c, hhead, hdigit⟩ := hyear.exists_head?
  have hhourInt := (IsNumber.two (show t.clock.hour < 100 by omega)).int?
  have hminuteInt := (IsNumber.two (show t.clock.minute < 100 by omega)).int?
  have hsecondInt := (IsNumber.two (show t.clock.second < 100 by omega)).int?
  unfold readWords?
  simp only [hempty, hdate, htime, hday.dropComma, hyear.dropComma, hhead, hdigit,
    dropComma_timeWord, timeParts?_timeWord, hyear.int?, hday.int?, hhourInt, hminuteInt, hsecondInt,
    Option.bind_eq_bind, Option.bind_some, Bool.false_eq_true, if_false, if_true]
  rfl

variable (hday : IsNumber day t.date.day) (hyear : IsNumber year y) (zone : Word)
include hday hyear

theorem readWords?_dayFirst :
    readWords? day (monthWord t) year (timeWord t) zone =
      some { fieldsOf t with year := completeYear y, offset? := zoneOffset? zone } := by
  apply readWords?_of _ _ _ hday hyear
  · exact ⟨hday.isWord.1, (isWord_monthWord t).1, hyear.isWord.1⟩
  · rw [dayAndMonth?, monthOf?_monthWord]
  · rw [hyear.not_isTime]
    rfl

end

/-- The numbers of the layout of RFC 1123 are those it was written from. -/
theorem fields?_rfc1123 {name zone : String} (hname : IsWord name.toList)
    (hzone : IsWord zone.toList) (t : DateTime) :
    fields? (rfc1123 name zone t) = some { fieldsOf t with offset? := zoneOffset? zone.toList } := by
  obtain ⟨-, hyear, -, -, -, hday⟩ := t.date.exists_day
  have hmonthLength := daysInMonth_le t.date.year t.date.month
  rw [fields?, words_rfc1123 hname hzone, dropDayName_nameWord]
  exact readWords?_dayFirst (.two (by omega)) (.four (by omega)) zone.toList

theorem render_eq_rfc1123 (t : DateTime) :
    render t = rfc1123 (nameAt dayNames t.date.weekday) "GMT" t := by
  have hzone : " GMT" = " " ++ "GMT" := rfl
  simp only [render, rfc1123, monthName, timeText, hzone, String.append_assoc]

theorem fields?_render (t : DateTime) : fields? (render t) = some (fieldsOf t) := by
  have hnames : ∀ i < 7, IsWord (nameAt dayNames i).toList := by decide
  have hweekday : t.date.weekday < 7 := Nat.mod_lt _ (by decide)
  rw [render_eq_rfc1123, fields?_rfc1123 (hnames _ hweekday) isWord_gmt, zoneOffset?_gmt]
  rfl

/-! ## The date that they denote -/

/-- The year that a written year is read as: of those below 100, 69 to 99 belong to the twentieth
century and smaller ones to the twenty-first. -/
def readYear (year : Nat) : Nat :=
  if year < 69 then 2000 + year else if year < 100 then 1900 + year else year

theorem readYear_of_le {year : Nat} (h : 100 ≤ year) : readYear year = year := by
  rw [readYear]
  split_ifs <;> omega

theorem readYear_ne {year : Nat} (h : year < 100) : readYear year ≠ year := by
  rw [readYear]
  split_ifs <;> omega

theorem completeYear_natCast (year : Nat) : completeYear year = readYear year := by
  rw [completeYear, readYear]
  split_ifs <;> omega

theorem readYear_le {year : Nat} (h : 1 ≤ year ∧ year ≤ 9999) :
    1 ≤ readYear year ∧ readYear year ≤ 9999 := by
  rw [readYear]
  split_ifs <;> omega

/-- A completed year has as many days as the year that is written. -/
theorem isLeap_readYear {year : Nat} (h : 1 ≤ year) : isLeap (readYear year) = isLeap year := by
  rw [Bool.eq_iff_iff, isLeap_iff, isLeap_iff, readYear]
  split_ifs <;> omega

theorem daysInMonth_readYear {year : Nat} (h : 1 ≤ year) (month : Nat) :
    daysInMonth (readYear year) month = daysInMonth year month := by
  unfold daysInMonth
  rw [isLeap_readYear h]

/-- The date with its year as it is read. -/
def readDate (d : Date) : Date where
  year := readYear d.year
  month := d.month
  day := d.day
  exists_day := by
    obtain ⟨hyear, hyear', hmonth, hmonth', hday, hday'⟩ := d.exists_day
    obtain ⟨hread, hread'⟩ := readYear_le ⟨hyear, hyear'⟩
    refine ⟨hread, hread', hmonth, hmonth', hday, ?_⟩
    rwa [daysInMonth_readYear hyear]

/-- The date-time that is read from the written form. -/
def readBack (t : DateTime) : DateTime where
  date := readDate t.date
  clock := t.clock.whole
  offset? := some .utc

theorem denotes_fieldsOf (t : DateTime) : (fieldsOf t).Denotes (readBack t) where
  year := completeYear_natCast t.date.year
  month := rfl
  day := rfl
  hour := rfl
  minute := rfl
  second := rfl
  microsecond := rfl
  offset := ⟨.utc, rfl, rfl⟩

/-! ## The readers -/

/-- The numbers of a date-time are read as its instant in universal time. -/
theorem parse_of_denotes {s : String} {f : Fields} {t u : DateTime} (hfields : fields? s = some f)
    (hdenotes : f.Denotes t) (hutc : t.toUtc = .ok u) : parse s = .ok u := by
  unfold parse
  rw [fields?_trim, hfields]
  simp only [Fields.dateTime?_eq_some_iff.mpr hdenotes, bind, Except.bind, hutc]

theorem parse_render (t : DateTime) : parse (render t) = .ok (readBack t) :=
  parse_of_denotes (fields?_render t) (denotes_fieldsOf t) (DateTime.toUtc_of_utc rfl)

end HttpDate

theorem Timestamp.parse_render (t : DateTime) :
    Timestamp.parse (HttpDate.render t) = .ok (HttpDate.readBack t) := by
  rw [Timestamp.parse_of_fields? (HttpDate.fields?_render t), HttpDate.parse_render]

end BucketStore.Time
