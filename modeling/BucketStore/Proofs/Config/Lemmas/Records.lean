import BucketStore.Config.Settings

/-!
# Lemmas about records read from fields
-/

namespace BucketStore

namespace Config

variable {α β : Type} {fields : Fields} {name : String}

/-- The record is not read, and the field of that name is one of those to blame. -/
def Refuses (record : Checked α) (name : String) : Prop :=
  ∃ errors, record = .error errors ∧ ∃ e ∈ errors, e.field = name

@[simp]
theorem mapError_ok {ε ε' : Type} (f : ε → ε') (a : α) :
    Except.mapError f (.ok a : Except ε α) = .ok a :=
  rfl

@[simp]
theorem mapError_error {ε ε' : Type} (f : ε → ε') (e : ε) :
    Except.mapError f (.error e : Except ε α) = .error (f e) :=
  rfl

/-- A record with one more field is read if the field and the record are. -/
theorem exists_take_iff {field : Except FieldError α} {record : Checked (α → β)} {P : β → Prop} :
    (∃ b, take field record = .ok b ∧ P b) ↔
      ∃ v, field = .ok v ∧ ∃ f, record = .ok f ∧ P (f v) := by
  cases record <;> cases field <;> simp [take]

theorem refuses_ok {a : α} : ¬ Refuses (.ok a) name := by
  simp [Refuses]

theorem refuses_take {field : Except FieldError α} {record : Checked (α → β)} :
    Refuses (take field record) name ↔
      Refuses record name ∨ ∃ e, field = .error e ∧ e.field = name := by
  cases record <;> cases field <;> simp [Refuses, take, or_and_right, exists_or]

theorem readField_eq_ok_iff {read : Value → Except Cause α} {default a : α} {v : Value}
    (h : Fields.get? fields name = some v) :
    readField fields read name default = .ok a ↔ read v = .ok a := by
  rw [readField, h]
  cases hread : read v <;> simp [hread]

/-- A field is to blame if it is there and cannot be read. -/
theorem readField_blames_iff {read : Value → Except Cause α} {default : α} {other : String} :
    (∃ e, readField fields read name default = .error e ∧ e.field = other) ↔
      name = other ∧ ∃ v cause, Fields.get? fields name = some v ∧ read v = .error cause := by
  simp only [readField]
  cases Fields.get? fields name with
  | none => simp
  | some v => cases hread : read v <;> simp [hread]

/-! ## Positive integers -/

@[ext]
theorem Positive.ext {p q : Positive} (h : p.val = q.val) : p = q := by
  cases p
  cases q
  simp_all

/-- What is read as a positive integer does not depend on the cause that is given otherwise. -/
theorem positive_eq_ok_iff {otherwise : Cause} {v : Value} {p : Positive} :
    positive otherwise v = .ok p ↔ int v = .ok p.val := by
  cases hint : int v with
  | error cause => simp [positive, hint, bind, Except.bind]
  | ok n =>
    have hpos := p.pos
    by_cases hn : 0 < n
    · simp [positive, hint, hn, bind, Except.bind, Positive.ext_iff]
    · simp only [positive, hint, hn, bind, Except.bind]
      constructor
      · simp
      · rintro ⟨⟩
        exact absurd hpos hn

theorem positive_eq_error_iff {otherwise : Cause} {v : Value} :
    (∃ cause, positive otherwise v = .error cause) ↔ ∀ p : Positive, int v ≠ .ok p.val := by
  cases hread : positive otherwise v with
  | ok p =>
    have hint : int v = .ok p.val := positive_eq_ok_iff.mp hread
    refine ⟨fun hrefused => ?_, fun h => absurd hint (h p)⟩
    obtain ⟨_, hcause⟩ := hrefused
    cases hcause
  | error cause =>
    simp only [Except.error.injEq, exists_eq', true_iff]
    intro p hint
    rw [positive_eq_ok_iff.mpr hint] at hread
    cases hread

end Config

/-! ## Settings by their names -/

namespace Settings

/-- A name picked from a list stands for what it is given, and any other name for nothing. -/
theorem get?_filterMap (given : String → Option Value) (name : String) (names : List String) :
    Fields.get? (names.filterMap fun n => (given n).map fun v => (n, v)) name =
      if name ∈ names then given name else none := by
  induction names with
  | nil => rfl
  | cons n names ih =>
    simp only [Fields.get?] at ih
    rw [Fields.get?, List.filterMap_cons]
    by_cases hn : name = n
    · subst hn
      cases hgiven : given name with
      | none => simp [ih, hgiven]
      | some v => simp
    · cases given n with
      | none => simp [ih, hn]
      | some v => simp [ih, hn, List.lookup_cons, beq_eq_false_iff_ne.mpr hn]

theorem get?_merge {env kwargs : Fields} {name : String} (h : name ∈ names) :
    Fields.get? (merge env kwargs) name = source env kwargs name := by
  rw [merge, get?_filterMap, if_pos h]

theorem load_of_loadIn {env kwargs : Fields} {s : Settings} (h : loadIn env kwargs = .ok s) :
    load env kwargs = .ok s := by
  simp only [loadIn] at h
  split at h
  · cases h
  · cases hload : load env kwargs with
    | ok s' => simpa [hload] using h
    | error errors => simp [hload] at h

theorem loadIn_nil_eq_ok_iff {kwargs : Fields} {s : Settings} :
    loadIn [] kwargs = .ok s ↔ load [] kwargs = .ok s := by
  refine ⟨load_of_loadIn, fun h => ?_⟩
  simp only [loadIn, List.findSome?_nil, h]
  rfl

end Settings

end BucketStore
