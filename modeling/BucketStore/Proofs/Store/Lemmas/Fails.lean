import BucketStore.Proofs.Store.Lemmas.Contains
import BucketStore.Proofs.Store.Lemmas.Walks
import BucketStore.Store.Bucket

/-!
# What actions fail with

`FailsWith` says that whatever an action fails with has a property, construct by construct. A step
fails with a remote error, a misreading or a cancellation, so making sure of a bucket never fails
with an error of the configuration.
-/

namespace BucketStore

/-- What a list of outcomes fails with is one of them. -/
theorem Result.mem_of_mapM_id_error {α : Type} {outcomes : List (Result α)} {e : Failure}
    (h : outcomes.mapM id = .error e) : .error e ∈ outcomes := by
  induction outcomes with
  | nil => cases h
  | cons outcome outcomes ih =>
      rw [List.mapM_cons] at h
      cases outcome with
      | error e' =>
          cases h
          exact List.mem_cons_self
      | ok a =>
          cases hrest : outcomes.mapM id with
          | ok rest =>
              rw [hrest] at h
              cases h
          | error e' =>
              rw [hrest] at h
              cases h
              exact List.mem_cons_of_mem _ (ih hrest)

namespace Action

variable {σ α β : Type} {p : Failure → Prop}

/-- Whatever the action fails with has the property. -/
def FailsWith (p : Failure → Prop) (action : Action σ α) : Prop :=
  ∀ session e, (action.eval session).1 = .error e → p e

theorem FailsWith.mono {q : Failure → Prop} {action : Action σ α} (h : FailsWith p action)
    (hpq : ∀ e, p e → q e) : FailsWith q action :=
  fun session e he => hpq e (h session e he)

theorem FailsWith.pure (a : α) : FailsWith p (Pure.pure a : Action σ α) :=
  fun _ _ h => nomatch h

theorem FailsWith.log (r : Log.Record) : FailsWith p (log r : Action σ Unit) :=
  fun _ _ h => nomatch h

theorem FailsWith.throw {e : Failure} (h : p e) :
    FailsWith p (MonadExcept.throw e : Action σ α) := by
  intro session e' he
  cases he
  exact h

theorem FailsWith.ofResult {r : Result α} (h : ∀ e, r = .error e → p e) :
    FailsWith p (ofResult r : Action σ α) := by
  intro session e he
  rw [eval_ofResult] at he
  exact h e he

theorem FailsWith.bind {action : Action σ α} {next : α → Action σ β} (h : FailsWith p action)
    (hnext : ∀ a, FailsWith p (next a)) : FailsWith p (action >>= next) := by
  intro session e he
  have hfirst := h session e
  rw [eval_bind] at he
  split at he
  · exact hnext _ _ e he
  · rename_i e' later heq
    cases he
    exact hfirst (by rw [heq])

theorem FailsWith.tryCatch {q : Failure → Prop} {action : Action σ α}
    {handle : Failure → Action σ α} (h : FailsWith q action)
    (hhandle : ∀ e, q e → FailsWith p (handle e)) :
    FailsWith p (MonadExcept.tryCatch action handle) := by
  intro session e he
  have hfirst := h session
  rw [eval_tryCatch] at he
  split at he
  · cases he
  · rename_i e' later heq
    exact hhandle e' (hfirst e' (by rw [heq])) _ e he

theorem FailsWith.mapM {f : β → Action σ α} (h : ∀ b, FailsWith p (f b)) (bs : List β) :
    FailsWith p (bs.mapM f) := by
  induction bs with
  | nil => exact .pure []
  | cons b bs ih =>
      rw [List.mapM_cons]
      exact (h b).bind fun _ => ih.bind fun _ => .pure _

/-- Every failure among the outcomes is one that an action fails with. -/
theorem FailsWith.outcomes {f : β → Action σ α} (h : ∀ b, FailsWith p (f b)) (bs : List β)
    (session : Session σ) :
    ∃ outcomes later, (bs.mapM fun b => (f b).outcome).eval session = (.ok outcomes, later) ∧
      ∀ e, .error e ∈ outcomes → p e := by
  induction bs generalizing session with
  | nil => exact ⟨[], session, rfl, nofun⟩
  | cons b bs ih =>
      cases hfirst : (f b).eval session with
      | mk outcome mid =>
          obtain ⟨outcomes, later, hrest, hp⟩ := ih mid
          refine ⟨outcome :: outcomes, later, ?_, fun e he => ?_⟩
          · rw [List.mapM_cons, eval_bind_ok (eval_outcome hfirst), eval_bind_ok hrest]
            rfl
          · rcases List.mem_cons.mp he with rfl | he
            · exact h b session e (congrArg Prod.fst hfirst)
            · exact hp e he

end Action

/-- Whether the failure is an error of the configuration. -/
def Failure.isConfiguration : Failure → Bool
  | .storage ⟨.configuration, _, _, _⟩ => true
  | _ => false

/-- The failures of a step: remote errors, misreadings and cancellations. -/
inductive Failure.IsForeseen : Failure → Prop
  | remote {operation details : Value} {message : String} :
      IsForeseen (.storage ⟨.remote operation, .text message, .text "REMOTE_ERROR", details⟩)
  | misreading {e : Failure} : e.IsMisreading → IsForeseen e
  | cancelled {e : Failure} : e.isException = false → IsForeseen e

theorem Failure.IsForeseen.isConfiguration {e : Failure} (h : e.IsForeseen) :
    e.isConfiguration = false := by
  cases h with
  | remote => rfl
  | misreading h =>
      cases h with
      | kind => rfl
      | tooManyDigits => rfl
  | cancelled h =>
      cases e with
      | storage _ => cases h
      | _ => rfl

/-- A remote error has a text. -/
theorem Failure.IsForeseen.text_of_isStorage {e : Failure} (h : e.IsForeseen)
    (hstorage : e.isStorage = true) : ∃ text, e.text = .ok text := by
  cases h with
  | remote => exact ⟨_, rfl⟩
  | misreading h => exact absurd hstorage (by rw [h.isStorage]; decide)
  | cancelled h =>
    cases e with
    | storage _ => cases h
    | _ => cases hstorage

namespace Store

open BucketStore.Action

variable {σ α : Type}

theorem Misreads.failsWith {r : Result α} (h : Misreads r) :
    FailsWith Failure.IsForeseen (Action.ofResult r : Action σ α) :=
  .ofResult fun e he => .misreading (h e he)

theorem report_failsWith (step : Step) (e : Failure) :
    FailsWith Failure.IsForeseen (report step e : Action σ α) := by
  intro session told htold
  rw [eval_report] at htold
  split at htold
  · split at htold
    · cases htold
      exact .remote
    · rename_i untold heq
      cases htold
      exact .misreading (Misreads.ofFailure e _ heq)
  · rename_i hexception
    cases htold
    exact .cancelled (Bool.eq_false_iff.mpr hexception)

theorem during_failsWith (step : Step) (action : Action σ α) :
    FailsWith Failure.IsForeseen (during step action) := by
  have hany : FailsWith (fun _ => True) action := fun _ _ _ => trivial
  exact hany.tryCatch fun e _ => report_failsWith step e

theorem passOn_failsWith {p : Failure → Prop} {e : Failure} (h : p e)
    (hother : ∀ e', e'.IsMisreading → p e') (logger : String) (message : LogMessage)
    (fields : Fields) : FailsWith p (passOn logger message fields e : Action σ α) := by
  unfold passOn
  split
  · refine (FailsWith.ofResult fun e' he' => hother e' (Misreads.ofFailure e e' he')).bind ?_
    exact fun r => (FailsWith.log _).bind fun _ => .throw h
  · exact .throw h

/-- A storage error is logged and let through. -/
theorem eval_passOn_storage {e : StorageError} {r : Log.Report}
    (h : Log.Report.ofFailure (.storage e) = .ok r) (logger : String) (message : LogMessage)
    (fields : Fields) (session : Session σ) :
    (passOn logger message fields (.storage e) : Action σ α).eval session =
      (.error (.storage e), session.logged [Log.record .error logger message fields (some r)]) := by
  have hstorage : (Failure.storage e).isStorage = true := rfl
  rw [passOn, if_pos hstorage, eval_bind, eval_ofResult, h, Session.logged_singleton]
  rfl

/-- A failure is let through, unless it is a storage error without a text. -/
theorem eval_passOn {e : Failure} (h : e.isStorage = true → ∃ text, e.text = .ok text)
    (logger : String) (message : LogMessage) (fields : Fields) (session : Session σ) :
    ∃ logged, (passOn logger message fields e : Action σ α).eval session =
      (.error e, session.logged logged) := by
  cases e with
  | storage e =>
    obtain ⟨text, htext⟩ := h rfl
    obtain ⟨r, hr, -⟩ := ofFailure_of_text htext
    exact ⟨_, eval_passOn_storage hr logger message fields session⟩
  | _ =>
    refine ⟨[], ?_⟩
    rw [Session.logged_nil]
    rfl

theorem log_failsWith {p : Failure → Prop} (s : Store σ) (level : Log.Level) (message : LogMessage)
    (fields : Fields) : FailsWith p (s.log level message fields) := by
  unfold log
  split
  · exact .pure ()
  · exact .log _

theorem ensureBucket_failsWith (s : Store σ) :
    FailsWith (fun e => e.isConfiguration = false) s.ensureBucket := by
  have hforeseen : FailsWith Failure.IsForeseen s.ensureBucket := by
    refine (during_failsWith _ _).bind fun exists? => ?_
    split
    · refine (s.log_failsWith _ _ _).bind fun _ => ?_
      exact (during_failsWith _ _).bind fun _ => s.log_failsWith _ _ _
    · exact .pure _
  exact hforeseen.mono fun _ h => h.isConfiguration

end Store

end BucketStore
