import BucketStore.Proofs.Time.Lemmas.Blanks
import BucketStore.Proofs.Time.Lemmas.Stamps

/-!
# The order of the layouts

Of the four layouts of a time stamp only the two with a fraction ever fit the same text, and then
both give the same time. So it does not matter in which order they are tried.
-/

namespace BucketStore.Time

open BucketStore.Text

/-! ## Layouts on their own -/

/-- What the reader of HTTP dates makes of a text: nothing if it is none. -/
def HttpDate.read (s : String) : Result (Option DateTime) :=
  match fields? (trim s) with
  | none => .ok none
  | some f => do
    match ← f.dateTime? with
    | some t => t.toUtc.map some
    | none => .ok none

theorem HttpDate.parse_eq_read (s : String) :
    HttpDate.parse s = (HttpDate.read s).map fun t? => t?.getD .zero := by
  unfold HttpDate.parse HttpDate.read
  cases fields? (trim s) with
  | none => rfl
  | some f =>
      simp only [bind, Except.bind]
      cases f.dateTime? with
      | error e => rfl
      | ok t? =>
          cases t? with
          | none => rfl
          | some t =>
              simp only
              cases t.toUtc <;> rfl

namespace Timestamp

/-- The layouts of a time stamp. -/
inductive Layout where
  | wholeSeconds
  | fractional
  | universal
  | httpDate
deriving DecidableEq

/-- What a layout makes of a text without white space around: nothing if it does not fit. -/
def Layout.read (s : String) : Layout → Result (Option DateTime)
  | wholeSeconds => .ok (Rfc3339.wholeSeconds (Rfc3339.cutFractions s.toList))
  | fractional => .ok (Rfc3339.fractional (Rfc3339.cutFractions s.toList))
  | universal => .ok (Rfc3339.universal (Rfc3339.cutFractions s.toList))
  | httpDate => HttpDate.read s

/-- The time by the first of the layouts that fits, the zero time if none does. -/
def readBy (s : String) : List Layout → Result DateTime
  | [] => .ok .zero
  | layout :: layouts => do
    match ← layout.read s with
    | some t => .ok t
    | none => readBy s layouts

end Timestamp

/-! ## Layouts that exclude each other -/

namespace Rfc3339

theorem of_letter {c : Char} {cs rest : List Char} (h : letter c cs = some rest) :
    cs = c :: rest ∨ cs = c.toLower :: rest := by
  cases cs with
  | nil => cases h
  | cons d cs =>
      rw [letter] at h
      split at h
      · rename_i hd
        cases h
        rcases hd with rfl | rfl
        · exact .inl rfl
        · exact .inr rfl
      · cases h

theorem of_letter_point {cs rest : List Char} (h : letter '.' cs = some rest) : cs = '.' :: rest := by
  rcases of_letter h with rfl | rfl
  · rfl
  · rfl

variable {cs : List Char} {t u : DateTime}

/-- After whole seconds a zone follows, and no point. -/
theorem letter_of_wholeSeconds (h : wholeSeconds cs = some t) {s : Seconds} {rest : List Char}
    (hseconds : seconds cs = some (s, rest)) : letter '.' rest = none := by
  cases hpoint : letter '.' rest with
  | none => rfl
  | some after =>
      rw [of_letter_point hpoint] at hseconds
      rw [wholeSeconds, hseconds] at h
      cases h

theorem fractional_of_wholeSeconds (h : wholeSeconds cs = some t) : fractional cs = none := by
  rw [fractional]
  cases hseconds : seconds cs with
  | none => rfl
  | some read =>
      have hpoint := letter_of_wholeSeconds h hseconds
      simp only [hpoint, Option.bind_eq_bind, Option.bind_some, Option.bind_none]

theorem universal_of_wholeSeconds (h : wholeSeconds cs = some t) : universal cs = none := by
  rw [universal]
  cases hseconds : seconds cs with
  | none => rfl
  | some read =>
      have hpoint := letter_of_wholeSeconds h hseconds
      simp only [hpoint, Option.bind_eq_bind, Option.bind_some, Option.bind_none]

/-- A capital Z states the offset zero, and a small one no zone. -/
theorem universal_of_fractional (h : fractional cs = some t) (hu : universal cs = some u) :
    u = t := by
  simp only [fractional, Option.bind_eq_bind, Option.bind_eq_some_iff] at h
  obtain ⟨⟨s, cs₁⟩, hseconds, cs₂, hpoint, ⟨f, cs₃⟩, hfraction, ⟨offset, rest⟩, hzone, h⟩ := h
  simp only [universal, hseconds, hpoint, hfraction, Option.bind_eq_bind, Option.bind_some,
    Option.bind_eq_some_iff] at hu
  obtain ⟨rest', hletter, hu⟩ := hu
  rcases of_letter hletter with hZ | hz
  · rw [hZ] at hzone
    cases hzone
    simp only at h
    split at hu
    · rename_i hempty
      rw [if_pos hempty] at h
      rw [h] at hu
      exact (Option.some.inj hu).symm
    · cases hu
  · rw [hz] at hzone
    cases hzone

end Rfc3339

theorem HttpDate.read_of_rfc3339? {s : String} {t : DateTime}
    (h : Timestamp.rfc3339? s = some t) : HttpDate.read s = .ok none := by
  unfold HttpDate.read
  rw [HttpDate.fields?_trim, Timestamp.fields?_of_rfc3339? h]

theorem HttpDate.read_trim (s : String) : HttpDate.read (trim s) = HttpDate.read s := by
  unfold HttpDate.read
  rw [HttpDate.fields?_trim]

namespace Timestamp

/-- What the layouts make of a text together. -/
def read (s : String) : Result (Option DateTime) :=
  match rfc3339? s with
  | some t => .ok (some t)
  | none => HttpDate.read s

section

variable {s : String} {t : DateTime}

theorem rfc3339?_of_wholeSeconds
    (h : Rfc3339.wholeSeconds (Rfc3339.cutFractions s.toList) = some t) :
    rfc3339? s = some t := by
  simp only [rfc3339?, List.findSome?_cons, h]

theorem rfc3339?_of_fractional
    (h : Rfc3339.fractional (Rfc3339.cutFractions s.toList) = some t) : rfc3339? s = some t := by
  cases hwhole : Rfc3339.wholeSeconds (Rfc3339.cutFractions s.toList) with
  | none => simp only [rfc3339?, List.findSome?_cons, hwhole, h]
  | some u =>
      rw [Rfc3339.fractional_of_wholeSeconds hwhole] at h
      cases h

theorem rfc3339?_of_universal
    (h : Rfc3339.universal (Rfc3339.cutFractions s.toList) = some t) : rfc3339? s = some t := by
  cases hfractional : Rfc3339.fractional (Rfc3339.cutFractions s.toList) with
  | some u =>
      rw [Rfc3339.universal_of_fractional hfractional h]
      exact rfc3339?_of_fractional hfractional
  | none =>
      cases hwhole : Rfc3339.wholeSeconds (Rfc3339.cutFractions s.toList) with
      | none => simp only [rfc3339?, List.findSome?_cons, hwhole, hfractional, h]
      | some u =>
          rw [Rfc3339.universal_of_wholeSeconds hwhole] at h
          cases h

theorem read_of_rfc3339? (h : rfc3339? s = some t) : Timestamp.read s = .ok (some t) := by
  rw [Timestamp.read, h]

end

/-- A layout makes of a text nothing, or what all of them together make of it. -/
theorem Layout.read_eq_none_or (s : String) (layout : Layout) :
    layout.read s = .ok none ∨ layout.read s = Timestamp.read s := by
  cases layout with
  | wholeSeconds =>
      rw [Layout.read]
      cases h : Rfc3339.wholeSeconds (Rfc3339.cutFractions s.toList) with
      | none => exact .inl rfl
      | some t => exact .inr (read_of_rfc3339? (rfc3339?_of_wholeSeconds h)).symm
  | fractional =>
      rw [Layout.read]
      cases h : Rfc3339.fractional (Rfc3339.cutFractions s.toList) with
      | none => exact .inl rfl
      | some t => exact .inr (read_of_rfc3339? (rfc3339?_of_fractional h)).symm
  | universal =>
      rw [Layout.read]
      cases h : Rfc3339.universal (Rfc3339.cutFractions s.toList) with
      | none => exact .inl rfl
      | some t => exact .inr (read_of_rfc3339? (rfc3339?_of_universal h)).symm
  | httpDate =>
      rw [Layout.read]
      cases h : rfc3339? s with
      | none => exact .inr (by rw [Timestamp.read, h])
      | some t => exact .inl (HttpDate.read_of_rfc3339? h)

/-- What they make of it together is what one of them makes of it. -/
theorem exists_layout (s : String) : ∃ layout : Layout, layout.read s = Timestamp.read s := by
  cases h : rfc3339? s with
  | none => exact ⟨.httpDate, by rw [Timestamp.read, h, Layout.read]⟩
  | some t =>
      rw [read_of_rfc3339? h]
      rcases of_rfc3339? h with hread | hread | hread
      · exact ⟨.wholeSeconds, by rw [Layout.read, hread]⟩
      · exact ⟨.fractional, by rw [Layout.read, hread]⟩
      · exact ⟨.universal, by rw [Layout.read, hread]⟩

/-- The time that the layouts give together, the zero time if none fits. -/
def time (s : String) : Result DateTime :=
  (Timestamp.read s).map fun t? => t?.getD .zero

/-- The first layout that fits gives the time, unless none of those that are tried fits. -/
theorem readBy_eq_time_or (s : String) (layouts : List Layout) :
    readBy s layouts = time s ∨
      readBy s layouts = .ok .zero ∧ ∀ layout ∈ layouts, layout.read s = .ok none := by
  induction layouts with
  | nil => exact .inr ⟨rfl, nofun⟩
  | cons first layouts ih =>
      by_cases hfirst : first.read s = .ok none
      · have hrest : readBy s (first :: layouts) = readBy s layouts := by
          rw [readBy, hfirst]
          rfl
        rw [hrest]
        rcases ih with htime | ⟨hzero, hnone⟩
        · exact .inl htime
        · exact .inr ⟨hzero, List.forall_mem_cons.mpr ⟨hfirst, hnone⟩⟩
      · have heq := (first.read_eq_none_or s).resolve_left hfirst
        left
        rw [readBy, time, ← heq]
        cases hread : first.read s with
        | error e => rfl
        | ok t? =>
            cases t? with
            | none => exact absurd hread hfirst
            | some t => rfl

theorem readBy_of_forall_mem (s : String) {layouts : List Layout}
    (h : ∀ layout, layout ∈ layouts) : readBy s layouts = time s := by
  rcases readBy_eq_time_or s layouts with htime | ⟨hzero, hnone⟩
  · exact htime
  · obtain ⟨layout, hread⟩ := exists_layout s
    rw [hzero, time, ← hread, hnone layout (h layout)]
    rfl

/-! ## The reader of time stamps -/

theorem parse_eq_time (s : String) : parse s = time (trim s) := by
  unfold parse
  rw [time, Timestamp.read]
  cases h : rfc3339? (trim s) with
  | some t =>
      simp only [h]
      rfl
  | none => simp only [h, HttpDate.parse_eq_read]

/-- Two layouts that fit a text give the same time, so that their order makes no difference: in
whichever order all of them are tried, the result is the same. A text that reads as an HTTP date
reads as the same time stamp. -/
theorem layouts_agree (s : String) :
    (∀ k l : Layout, ∀ t u, k.read (trim s) = .ok (some t) → l.read (trim s) = .ok (some u) →
      t = u) ∧
    (∀ order : List Layout, (∀ layout, layout ∈ order) → readBy (trim s) order = parse s) ∧
    (HttpDate.parse s ≠ .ok .zero → parse s = HttpDate.parse s) := by
  refine ⟨?_, ?_, ?_⟩
  · intro k l t u hk hl
    have htotal {layout : Layout} {v : DateTime} (h : layout.read (trim s) = .ok (some v)) :
        Timestamp.read (trim s) = .ok (some v) := by
      rcases layout.read_eq_none_or (trim s) with hnone | heq
      · rw [h] at hnone
        cases hnone
      · rw [← heq, h]
    have heq := (htotal hk).symm.trans (htotal hl)
    exact Option.some.inj (Except.ok.inj heq)
  · intro order horder
    rw [readBy_of_forall_mem (trim s) horder, parse_eq_time]
  · intro hne
    rw [HttpDate.parse_eq_read] at hne ⊢
    rcases Layout.read_eq_none_or (trim s) .httpDate with hnone | heq
    · rw [Layout.read, HttpDate.read_trim] at hnone
      rw [hnone] at hne
      exact absurd rfl hne
    · rw [Layout.read, HttpDate.read_trim] at heq
      rw [parse_eq_time, time, heq]

/-- A time with a fraction of three digits, which two of the layouts fit. -/
def sixthMillisecond : DateTime where
  date := ⟨2025, 1, 2, by decide⟩
  clock := ⟨3, 4, 5, 6000, by decide⟩
  offset? := some .utc

theorem layouts_agree_sixth_millisecond :
    Layout.read (trim "2025-01-02T03:04:05.006Z") .fractional = .ok (some sixthMillisecond) ∧
      (∀ u, Layout.read (trim "2025-01-02T03:04:05.006Z") .universal = .ok (some u) →
        sixthMillisecond = u) ∧
      readBy (trim "2025-01-02T03:04:05.006Z")
        [.httpDate, .universal, .fractional, .wholeSeconds] = .ok sixthMillisecond := by
  have hread : Layout.read (trim "2025-01-02T03:04:05.006Z") .fractional =
      .ok (some sixthMillisecond) := rfl
  have hall : ∀ layout, layout ∈ [.httpDate, .universal, .fractional, Layout.wholeSeconds] := by
    intro layout
    cases layout <;> decide
  have hparse : parse "2025-01-02T03:04:05.006Z" = .ok sixthMillisecond := rfl
  obtain ⟨hagree, horder, -⟩ := layouts_agree "2025-01-02T03:04:05.006Z"
  exact ⟨hread, fun u hu => hagree _ _ _ u hread hu, (horder _ hall).trans hparse⟩

end Timestamp

end BucketStore.Time
