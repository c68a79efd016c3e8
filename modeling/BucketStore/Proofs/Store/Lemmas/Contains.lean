import BucketStore.Proofs.Store.Lemmas.Reports

/-!
# Whether an object is there

The only failure that says so is the one made of an answer to a call for headers: reading headers
fails with a misreading, and a report is a remote error or a failure of another kind.
-/

namespace BucketStore

/-- The failures of reading what has the wrong type, lacks what is asked of it or lies out of range,
and of writing an integer of too many digits. -/
inductive Failure.IsMisreading : Failure → Prop
  | kind {kind : Fault} {arguments : List Value} :
      kind ∈ [.wrongType, .missingAttribute, .missingKey, .overflow] →
      IsMisreading (.fault kind arguments)
  | tooManyDigits : IsMisreading .tooManyDigits

theorem Failure.IsMisreading.isStorage {e : Failure} (h : e.IsMisreading) : e.isStorage = false := by
  cases h with
  | kind => rfl
  | tooManyDigits => rfl

namespace Store

open BucketStore.Action

variable {σ α : Type}

/-! ## What cannot be read -/

/-- The reader fails with nothing but what a misreading is. -/
def Misreads (r : Result α) : Prop :=
  ∀ e, r = .error e → e.IsMisreading

namespace Misreads

theorem ok (a : α) : Misreads (.ok a) :=
  fun _ h => nomatch h

theorem error {e : Failure} (h : e.IsMisreading) : Misreads (.error e : Result α) := by
  intro e' he
  cases he
  exact h

/-- A fault of one of the kinds that reading leads to. -/
theorem fault {kind : Fault} {arguments : List Value}
    (h : kind ∈ [.wrongType, .missingAttribute, .missingKey, .overflow]) :
    Misreads (.error (.fault kind arguments) : Result α) :=
  error (.kind h)

theorem isStorage {r : Result α} {e : Failure} (h : Misreads r) (he : r = .error e) :
    e.isStorage = false :=
  (h e he).isStorage

theorem bind {β : Type} {r : Result α} {next : α → Result β} (h : Misreads r)
    (hnext : ∀ a, Misreads (next a)) : Misreads (r >>= next) := by
  cases r with
  | ok a => exact hnext a
  | error e => exact error (h e rfl)

theorem answerFields (v : Value) : Misreads (Payload.answerFields v) := by
  unfold Payload.answerFields
  split
  · exact ok _
  · split
    · exact ok _
    · exact fault (by decide)

theorem size (v : Value) : Misreads (Payload.size v) := by
  cases v with
  | real x =>
      simp only [Payload.size]
      split
      · exact ok _
      · split
        · exact ok _
        · exact fault (by decide)
  | _ => exact ok _

theorem dateTime? (f : Time.HttpDate.Fields) : Misreads f.dateTime? := by
  simp only [Time.HttpDate.Fields.dateTime?]
  split
  · exact fault (by decide)
  · split
    · exact ok _
    · split
      · exact fault (by decide)
      · exact ok _

theorem toUtc (t : Time.DateTime) : Misreads t.toUtc := by
  unfold Time.DateTime.toUtc
  split
  · exact ok _
  · exact fault (by decide)

theorem parse (text : String) : Misreads (Time.HttpDate.parse text) := by
  unfold Time.HttpDate.parse
  split
  · exact ok _
  · refine (dateTime? _).bind fun t? => ?_
    cases t? with
    | some t => exact toUtc t
    | none => exact ok _

theorem headerTime (v : Value) : Misreads (Payload.headerTime v) := by
  unfold Payload.headerTime Payload.timeBy
  split
  · exact ok _
  · split
    · exact parse _
    · exact fault (by decide)

theorem entityTag (v : Value) : Misreads (Payload.entityTag v) := by
  unfold Payload.entityTag
  split
  · exact ok _
  · exact fault (by decide)

theorem ofHeaders (key headers : Value) : Misreads (ofHeaders key headers) :=
  (answerFields _).bind fun _ => (size _).bind fun _ => (headerTime _).bind fun _ =>
    (entityTag _).bind fun _ => ok _

end Misreads

theorem isMissing_of_not_isStorage {e : Failure} (h : e.isStorage = false) :
    isMissing e = false := by
  cases e with
  | storage _ => cases h
  | _ => rfl

/-! ## What cannot be written -/

namespace Misreads

theorem write (v : Value) : Misreads v.write := by
  unfold Value.write
  split
  · exact ok _
  · exact error .tooManyDigits

theorem quote (v : Value) : Misreads v.quote := by
  unfold Value.quote
  split
  · exact ok _
  · exact error .tooManyDigits

theorem mapM {β : Type} {f : β → Result α} (h : ∀ b, Misreads (f b)) (bs : List β) :
    Misreads (bs.mapM f) := by
  induction bs with
  | nil => exact ok []
  | cons b bs ih =>
      rw [List.mapM_cons]
      exact (h b).bind fun _ => ih.bind fun _ => ok _

theorem storageText (e : StorageError) : Misreads (Failure.storageText e) := by
  unfold Failure.storageText
  split
  · exact (write _).bind fun _ => (write _).bind fun _ => ok _
  · split
    · exact ok _
    · exact fault (by decide)

theorem argumentsText (vs : List Value) : Misreads (Failure.argumentsText vs) := by
  unfold Failure.argumentsText
  split
  · exact ok _
  · exact write _
  · exact (mapM quote vs).bind fun _ => ok _

theorem systemText (kind : Fault) (vs : List Value) : Misreads (Failure.systemText kind vs) := by
  unfold Failure.systemText
  split
  · exact (mapM quote _).bind fun _ => (write _).bind fun _ => (write _).bind fun _ => ok _
  · exact argumentsText vs

theorem text (e : Failure) : Misreads e.text := by
  unfold Failure.text
  split
  · exact storageText _
  · exact ok _
  · exact ok _
  · exact quote _
  · split
    · exact systemText _ _
    · exact argumentsText _
  · exact ok _

theorem ofFailure (e : Failure) : Misreads (Log.Report.ofFailure e) :=
  (text e).bind fun _ => ok _

end Misreads

/-- A report never says that an object is not there. -/
theorem isMissing_of_report {step : Step} {e told : Failure} {session later : Session σ}
    (h : (report step e : Action σ α).eval session = (.error told, later)) :
    isMissing told = false := by
  rw [eval_report] at h
  split at h
  · split at h
    · cases h
      rfl
    · rename_i huntold
      cases h
      exact isMissing_of_not_isStorage ((Misreads.ofFailure e).isStorage huntold)
  · rename_i hexception
    cases h
    cases e with
    | storage _ => exact absurd rfl hexception
    | _ => rfl

/-! ## Headers by what the service answers -/

variable (s : Store σ) {key : Value} {session : Session σ}

theorem eval_headers_ok {answer : Answer}
    (h : (s.service.answer (.headObject s.bucket key) session.state).1 = .ok answer) :
    (s.headers key).eval session =
      (.ok answer.toValue, session.called s.service (.headObject s.bucket key)) := by
  rw [headers, eval_bind, eval_tryCatch, call, eval_call, h]
  rfl

theorem eval_headers_missing {e : Failure}
    (h : (s.service.answer (.headObject s.bucket key) session.state).1 = .error e)
    (hmissing : e.isNotFound = true) :
    (s.headers key).eval session =
      (.error (.storage (.objectNotFound key [])),
        session.called s.service (.headObject s.bucket key)) := by
  rw [headers, eval_bind, eval_tryCatch, call, eval_call, h]
  simp only [hmissing]
  rfl

theorem eval_headers_report {e told : Failure} {later : Session σ}
    (h : (s.service.answer (.headObject s.bucket key) session.state).1 = .error e)
    (hmissing : e.isNotFound = false)
    (hreport : (report (.head key) e : Action σ Answer).eval
      (session.called s.service (.headObject s.bucket key)) = (.error told, later)) :
    (s.headers key).eval session = (.error told, later) := by
  refine eval_bind_error ?_ _
  rw [eval_tryCatch, call, eval_call, h]
  simp only [hmissing]
  exact hreport

theorem eval_headers_failed {e : Failure}
    (h : (s.service.answer (.headObject s.bucket key) session.state).1 = .error e)
    (hmissing : e.isNotFound = false) :
    ∃ told logged, (s.headers key).eval session =
        (.error told, (session.called s.service (.headObject s.bucket key)).logged logged) ∧
      (Call.headObject s.bucket key).Told e told logged ∧ isMissing told = false := by
  have hnone : (Call.headObject s.bucket key).missing? e = none := by simp [Call.missing?, hmissing]
  obtain ⟨told, logged, heval, htold, -⟩ := @eval_report_told σ Answer _ e hnone
    (session.called s.service (.headObject s.bucket key))
  exact ⟨told, logged, s.eval_headers_report h hmissing heval, htold, isMissing_of_report heval⟩

/-! ## The answer -/

theorem eval_contains (key : Value) (session : Session σ) :
    (s.contains key).eval session =
      match (s.headers key).eval session with
      | (.ok headers, later) =>
        match ofHeaders key headers with
        | .ok _ => (.ok true, later)
        | .error e => if isMissing e then (.ok false, later) else (.error e, later)
      | (.error e, later) => if isMissing e then (.ok false, later) else (.error e, later) := by
  have hhead : s.head key {} = (s.headers key >>= fun headers =>
      Action.ofResult (ofHeaders key headers) >>= fun file =>
        pure { file with tagging := none, url := .null }) :=
    rfl
  rw [contains, eval_tryCatch, eval_bind, hhead, eval_bind]
  cases (s.headers key).eval session with
  | mk outcome later =>
      cases outcome with
      | error e =>
          simp only
          split <;> rfl
      | ok headers =>
          simp only [eval_bind, eval_ofResult]
          cases ofHeaders key headers with
          | ok file => rfl
          | error e =>
              simp only
              split <;> rfl

theorem contains_found (key : Value) (session : Session σ) :
    Found s.service (.headObject s.bucket key) session ((s.contains key).eval session) := by
  rw [eval_contains]
  cases hanswer : (s.service.answer (.headObject s.bucket key) session.state).1 with
  | ok answer =>
      rw [s.eval_headers_ok hanswer]
      simp only
      cases hread : ofHeaders key answer.toValue with
      | ok file => exact .answered hanswer nofun
      | error e =>
          simp only [isMissing_of_not_isStorage ((Misreads.ofHeaders key _).isStorage hread)]
          exact .answered hanswer nofun
  | error e =>
      cases hmissing : e.isNotFound with
      | true =>
          rw [s.eval_headers_missing hanswer hmissing]
          exact .missing hanswer (by simp [Call.missing?, hmissing])
      | false =>
          obtain ⟨told, logged, heval, htold, hfound⟩ := s.eval_headers_failed hanswer hmissing
          rw [heval]
          simp only [hfound]
          exact .failed hanswer (by simp [Call.missing?, hmissing]) htold

end Store

end BucketStore
