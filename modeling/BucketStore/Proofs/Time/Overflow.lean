import BucketStore.Payload
import BucketStore.Proofs.Time.Lemmas.Fields
import BucketStore.Proofs.Time.Order

/-!
# Times that overflow

Reading a time gives a time with an offset, and reading an HTTP date universal time, but for one
fault: the numbers of an HTTP date may overflow. No time stamp of RFC 3339 does.
-/

namespace BucketStore.Time

open BucketStore.Text

/-! ## Offsets are stated -/

namespace Rfc3339

theorem of_build {s : Seconds} {microsecond : Nat} {offset : Int} {t : DateTime}
    (h : build s microsecond offset = some t) : t.offset?.isSome = true := by
  simp only [build, Option.bind_eq_bind, Option.bind_eq_some_iff] at h
  obtain ⟨o, -, hbuilt⟩ := h
  rw [(DateTime.of?_eq_some_iff.mp hbuilt).2.2]
  rfl

variable {cs : List Char} {t : DateTime}

theorem isSome_of_wholeSeconds (h : wholeSeconds cs = some t) : t.offset?.isSome = true := by
  simp only [wholeSeconds, Option.bind_eq_bind, Option.bind_eq_some_iff] at h
  obtain ⟨_, _, _, _, h⟩ := h
  split at h
  · exact of_build h
  · cases h

theorem isSome_of_fractional (h : fractional cs = some t) : t.offset?.isSome = true := by
  simp only [fractional, Option.bind_eq_bind, Option.bind_eq_some_iff] at h
  obtain ⟨_, _, _, _, _, _, _, _, h⟩ := h
  split at h
  · exact of_build h
  · cases h

theorem isSome_of_universal (h : universal cs = some t) : t.offset?.isSome = true := by
  simp only [universal, Option.bind_eq_bind, Option.bind_eq_some_iff] at h
  obtain ⟨_, _, _, _, _, _, _, _, h⟩ := h
  split at h
  · exact of_build h
  · cases h

end Rfc3339

theorem Timestamp.isSome_of_rfc3339? {s : String} {t : DateTime} (h : rfc3339? s = some t) :
    t.offset?.isSome = true := by
  rcases of_rfc3339? h with hread | hread | hread
  · exact Rfc3339.isSome_of_wholeSeconds hread
  · exact Rfc3339.isSome_of_fractional hread
  · exact Rfc3339.isSome_of_universal hread

/-! ## HTTP dates -/

namespace HttpDate

/-- The numbers of an HTTP date overflow. -/
def Overflows (s : String) : Prop :=
  ∃ f, fields? s = some f ∧ f.Overflows

theorem read_of_fields?_none {s : String} (h : fields? s = none) : read s = .ok none := by
  unfold read
  rw [fields?_trim, h]

theorem read_of_fields? {s : String} {f : Fields} (h : fields? s = some f) :
    read s = f.dateTime?.bind fun t? =>
      match t? with
      | some t => t.toUtc.map some
      | none => .ok none := by
  unfold read
  rw [fields?_trim, h]
  rfl

theorem Fields.overflows_iff {f : Fields} {t? : Option DateTime} (h : f.dateTime? = .ok t?) :
    f.Overflows ↔ ∃ t, t? = some t ∧ (t.instant < 0 ∨ DateTime.calendarLength ≤ t.instant) := by
  constructor
  · rintro (himmense | ⟨t, hdenotes, hout⟩)
    · rw [dateTime?_eq_error_iff.mpr ⟨rfl, himmense⟩] at h
      cases h
    · rw [dateTime?_eq_some_iff.mpr hdenotes] at h
      exact ⟨t, (Except.ok.inj h).symm, hout⟩
  · rintro ⟨t, rfl, hout⟩
    exact .inr ⟨t, dateTime?_eq_some_iff.mp h, hout⟩

theorem read_eq_error_iff {s : String} {e : Failure} :
    read s = .error e ↔ e = .overflow ∧ Overflows s := by
  cases hfields : fields? s with
  | none =>
      rw [read_of_fields?_none hfields, Overflows, hfields]
      exact ⟨nofun, nofun⟩
  | some f =>
      have hoverflows : Overflows s ↔ f.Overflows := by simp [Overflows, hfields]
      rw [read_of_fields? hfields, hoverflows]
      cases hdateTime : f.dateTime? with
      | error e' =>
          obtain ⟨rfl, himmense⟩ := Fields.dateTime?_eq_error_iff.mp hdateTime
          constructor
          · rintro ⟨⟩
            exact ⟨rfl, .inl himmense⟩
          · rintro ⟨rfl, -⟩
            rfl
      | ok t? =>
          rw [Fields.overflows_iff hdateTime]
          cases t? with
          | none =>
              refine ⟨nofun, ?_⟩
              rintro ⟨-, t, ⟨⟩, -⟩
          | some t =>
              have hutc : t.toUtc = .error e ↔
                  e = .overflow ∧ (t.instant < 0 ∨ DateTime.calendarLength ≤ t.instant) :=
                DateTime.toUtc_eq_error_iff
              simp only [Option.some.injEq, exists_eq_left']
              rw [← hutc]
              change t.toUtc.map some = _ ↔ _
              cases t.toUtc with
              | error e' => simp [Except.map]
              | ok u => simp [Except.map]

theorem parse_eq_error_iff {s : String} {e : Failure} :
    parse s = .error e ↔ e = .overflow ∧ Overflows s := by
  rw [parse_eq_read, ← read_eq_error_iff]
  cases read s <;> simp [Except.map]

theorem offset?_of_read {s : String} {t : DateTime} (h : read s = .ok (some t)) :
    t.offset? = some .utc := by
  cases hfields : fields? s with
  | none =>
      rw [read_of_fields?_none hfields] at h
      cases h
  | some f =>
      rw [read_of_fields? hfields] at h
      cases hdateTime : f.dateTime? with
      | error e =>
          rw [hdateTime] at h
          cases h
      | ok t? =>
          rw [hdateTime] at h
          cases t? with
          | none => cases h
          | some u =>
              change u.toUtc.map some = .ok (some t) at h
              cases hutc : u.toUtc with
              | error e =>
                  rw [hutc] at h
                  cases h
              | ok v =>
                  rw [hutc] at h
                  cases h
                  exact (DateTime.of_toUtc hutc).1

/-- What is read is in universal time, the zero time too. -/
theorem offset?_of_parse {s : String} {t : DateTime} (h : parse s = .ok t) :
    t.offset? = some .utc := by
  rw [parse_eq_read] at h
  cases hread : read s with
  | error e =>
      rw [hread] at h
      cases h
  | ok t? =>
      rw [hread] at h
      cases t? with
      | none =>
          cases h
          rfl
      | some u =>
          cases h
          exact offset?_of_read hread

end HttpDate

/-! ## The readers -/

namespace Timestamp

theorem parse_of_rfc3339? {s : String} {t : DateTime} (h : rfc3339? (trim s) = some t) :
    parse s = .ok t := by
  rw [parse_eq_time, time, read_of_rfc3339? h]
  rfl

theorem parse_of_rfc3339?_none {s : String} (h : rfc3339? (trim s) = none) :
    parse s = HttpDate.parse s := by
  rw [parse_eq_time, time, Timestamp.read, h, HttpDate.read_trim, HttpDate.parse_eq_read]

theorem isSome_of_parse {s : String} {t : DateTime} (h : parse s = .ok t) :
    t.offset?.isSome = true := by
  cases hread : rfc3339? (trim s) with
  | some u =>
      rw [parse_of_rfc3339? hread] at h
      cases h
      exact isSome_of_rfc3339? hread
  | none =>
      rw [parse_of_rfc3339?_none hread] at h
      rw [HttpDate.offset?_of_parse h]
      rfl

theorem parse_eq_error_iff {s : String} {e : Failure} :
    parse s = .error e ↔ e = .overflow ∧ HttpDate.Overflows s := by
  cases hread : rfc3339? (trim s) with
  | some t =>
      rw [parse_of_rfc3339? hread]
      have hfields : HttpDate.fields? s = none := by
        rw [← HttpDate.fields?_trim]
        exact fields?_of_rfc3339? hread
      rw [HttpDate.Overflows, hfields]
      exact ⟨nofun, nofun⟩
  | none => rw [parse_of_rfc3339?_none hread, HttpDate.parse_eq_error_iff]

theorem parse_of_forall_read {s : String}
    (h : ∀ layout : Layout, layout.read (trim s) = .ok none) : parse s = .ok .zero := by
  obtain ⟨layout, hlayout⟩ := exists_layout (trim s)
  rw [parse_eq_time, time, ← hlayout, h layout]
  rfl

/-- What is absent is read as the zero time, and so is a text that no layout fits. Every time that
is read states its offset, that of an HTTP date universal time. But the readers fail, both at the
same texts: where the numbers of an HTTP date overflow, and nowhere else. -/
theorem parse_outcome (s : String) :
    (Payload.listedTime .null = .ok .zero ∧ Payload.headerTime .null = .ok .zero) ∧
    (∀ t, parse s = .ok t → t.offset?.isSome = true) ∧
    (∀ t, HttpDate.parse s = .ok t → t.offset? = some .utc) ∧
    ((∀ layout : Layout, layout.read (trim s) = .ok none) → parse s = .ok .zero) ∧
    (∀ e, parse s = .error e ↔ e = .overflow ∧ HttpDate.Overflows s) ∧
    (∀ e, HttpDate.parse s = .error e ↔ e = .overflow ∧ HttpDate.Overflows s) := by
  refine ⟨⟨rfl, rfl⟩, ?_, ?_, ?_, ?_, ?_⟩
  · intro t ht
    exact isSome_of_parse ht
  · intro t ht
    exact HttpDate.offset?_of_parse ht
  · intro hnone
    exact parse_of_forall_read hnone
  · intro e
    exact parse_eq_error_iff
  · intro e
    exact HttpDate.parse_eq_error_iff

theorem parse_outcome_no_layout :
    parse "yesterday" = .ok .zero ∧ HttpDate.Overflows "Fri, 31 Dec 9999 23:59:59 -0100" := by
  have hnone : ∀ layout : Layout, layout.read (trim "yesterday") = .ok none := by
    intro layout
    cases layout <;> rfl
  have hfails : parse "Fri, 31 Dec 9999 23:59:59 -0100" = .error .overflow := rfl
  obtain ⟨-, -, -, hzero, -, -⟩ := parse_outcome "yesterday"
  obtain ⟨-, -, -, -, herror, -⟩ := parse_outcome "Fri, 31 Dec 9999 23:59:59 -0100"
  exact ⟨hzero hnone, ((herror _).mp hfails).2⟩

/-- An hour west of universal time, a second before the end of the calendar. -/
theorem parse_end_of_calendar :
    (¬∃ t, parse "Fri, 31 Dec 9999 23:59:59 -0100" = .ok t) ∧
      ¬∃ t, HttpDate.parse "Fri, 31 Dec 9999 23:59:59 -0100" = .ok t := by
  have hstamp : parse "Fri, 31 Dec 9999 23:59:59 -0100" = .error .overflow := rfl
  have hdate : HttpDate.parse "Fri, 31 Dec 9999 23:59:59 -0100" = .error .overflow := rfl
  constructor
  · rintro ⟨t, ht⟩
    rw [hstamp] at ht
    cases ht
  · rintro ⟨t, ht⟩
    rw [hdate] at ht
    cases ht

end Timestamp

end BucketStore.Time
