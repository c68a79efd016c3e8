import BucketStore.Proofs.Store.Lemmas.Fails
import BucketStore.Proofs.Store.Lemmas.Readable
import BucketStore.Proofs.Store.Lemmas.Walks

/-!
# Guarded actions

An action is guarded along its own shape: it reads what it may read, asks with a handler that
reports, and goes on. What is owed is the reading that is still to come.
-/

namespace BucketStore

namespace Action

open Session

variable {σ α β : Type} {service : Service σ} {documented : Failure → Prop} {p q : Prop}
  {session mid later : Session σ}

/-! ## One after the other -/

namespace Guarded

theorem append {a : α} {r : Result β} (h : Guarded service documented p session (.ok a, mid))
    (hnext : Guarded service documented q mid (r, later)) :
    Guarded service documented (p ∧ q) session (r, later) := by
  cases h with
  | returned hmade hreads hp =>
      cases hnext with
      | returned hmade' hreads' hq =>
          refine .returned (hmade.append hmade') ?_ ⟨hp, hq⟩
          rw [hmade.exchanges_append]
          exact List.forall_mem_append.mpr ⟨hreads, hreads'⟩
      | reported hmade' htells hdocumented =>
          obtain ⟨x, hx, htells⟩ := htells
          refine .reported (hmade.append hmade') ⟨x, ?_, htells⟩ hdocumented
          rw [hmade.exchanges_append]
          exact List.mem_append_right _ hx
      | leaked hmade' hforeign hunfit =>
          refine .leaked (hmade.append hmade') hforeign fun howed => ?_
          obtain ⟨x, hx, hunfit⟩ := hunfit howed.2
          refine ⟨x, ?_, hunfit⟩
          rw [hmade.exchanges_append]
          exact List.mem_append_right _ hx

/-- A failure stays one, whatever else is called before it shows. -/
theorem failed {e : Failure} {calls : List Call}
    (h : Guarded service documented p session ((.error e : Result α), mid)) (hqp : q → p)
    (hmade : mid.Made service calls later) :
    Guarded service documented q session ((.error e : Result β), later) := by
  cases h with
  | reported hmade' htells hdocumented =>
      obtain ⟨x, hx, htells⟩ := htells
      refine .reported (hmade'.append hmade) ⟨x, ?_, htells⟩ hdocumented
      rw [hmade'.exchanges_append]
      exact List.mem_append_left _ hx
  | leaked hmade' hforeign hunfit =>
      refine .leaked (hmade'.append hmade) hforeign fun howed => ?_
      obtain ⟨x, hx, hunfit⟩ := hunfit (hqp howed)
      refine ⟨x, ?_, hunfit⟩
      rw [hmade'.exchanges_append]
      exact List.mem_append_left _ hx

theorem map {r : Result α} (h : Guarded service documented p session (r, later)) (f : α → β) :
    Guarded service documented p session (r >>= fun a => Pure.pure (f a), later) := by
  cases h with
  | returned hmade hreads hp => exact .returned hmade hreads hp
  | reported hmade htells hdocumented => exact .reported hmade htells hdocumented
  | leaked hmade hforeign hunfit => exact .leaked hmade hforeign hunfit

theorem made {r : Result α} (h : Guarded service documented p session (r, later)) :
    ∃ calls, session.Made service calls later := by
  cases h with
  | returned hmade _ _ => exact ⟨_, hmade⟩
  | reported hmade _ _ => exact ⟨_, hmade⟩
  | leaked hmade _ _ => exact ⟨_, hmade⟩

/-- What could not be read accounts for whatever follows it, as long as reading it is owed. -/
theorem unread {calls : List Call} {came : Result α × Session σ}
    (h : Guarded service documented q mid came) (hq : ¬ q)
    (hmade : session.Made service calls mid)
    (hunfit : ∃ x ∈ (service.exchanges calls session.state).1, ¬ x.Reads ∧ ¬ x.Raised) :
    Guarded service documented p session came := by
  cases h with
  | returned _ _ howed => exact absurd howed hq
  | reported hmade' htells hdocumented =>
      obtain ⟨x, hx, htells⟩ := htells
      refine .reported (hmade.append hmade') ⟨x, ?_, htells⟩ hdocumented
      rw [hmade.exchanges_append]
      exact List.mem_append_right _ hx
  | leaked hmade' hforeign _ =>
      obtain ⟨x, hx, hunfit⟩ := hunfit
      refine .leaked (hmade.append hmade') hforeign fun _ => ⟨x, ?_, hunfit⟩
      rw [hmade.exchanges_append]
      exact List.mem_append_left _ hx

theorem congr {came : Result α × Session σ} (h : Guarded service documented p session came)
    (hpq : p ↔ q) : Guarded service documented q session came := by
  rwa [← propext hpq]

end Guarded

namespace Guards

theorem pure (h : p) (a : α) : Guards service documented p (Pure.pure a : Action σ α) :=
  fun _ => .returned (.none rfl rfl) (fun _ hx => nomatch hx) h

theorem throw {e : Failure} (hforeign : e.isStorage = false) (h : ¬ p) :
    Guards service documented p (MonadExcept.throw e : Action σ α) :=
  fun _ => .leaked (.none rfl rfl) hforeign fun hp => absurd hp h

theorem bind {action : Action σ α} {next : α → Action σ β}
    (h : Guards service documented p action) (hnext : ∀ a, Guards service documented q (next a)) :
    Guards service documented (p ∧ q) (action >>= next) := by
  intro session
  have hfirst := h session
  rw [eval_bind]
  split
  · rename_i a mid heq
    rw [heq] at hfirst
    exact hfirst.append (hnext a mid)
  · rename_i e mid heq
    rw [heq] at hfirst
    exact hfirst.failed And.left (.none rfl rfl)

theorem congr {action : Action σ α} (h : Guards service documented p action) (hpq : p ↔ q) :
    Guards service documented q action :=
  fun session => (h session).congr hpq

theorem andThen {action : Action σ α} {next : α → Action σ β}
    (h : Guards service documented True action)
    (hnext : ∀ a, Guards service documented p (next a)) :
    Guards service documented p (action >>= next) :=
  (h.bind hnext).congr (iff_of_eq (true_and p))

/-- What follows a reader owes the reading, and whatever it owes of what was read. -/
theorem read {r : Result α} {next : α → Action σ β} {reads : α → Prop}
    (hforeign : Store.Misreads r) (hnext : ∀ a, Guards service documented (reads a) (next a)) :
    Guards service documented (∃ a, r = .ok a ∧ reads a) (ofResult r >>= next) := by
  cases r with
  | ok a => exact (hnext a).congr ⟨fun h => ⟨a, rfl, h⟩, fun ⟨_, heq, h⟩ => by cases heq; exact h⟩
  | error e => exact throw (hforeign.isStorage rfl) nofun

theorem ofResult {r : Result α} (hforeign : Store.Misreads r) :
    Guards service documented (∃ a, r = .ok a) (ofResult r : Action σ α) := by
  cases r with
  | ok a => exact pure ⟨a, rfl⟩ a
  | error e => exact throw (hforeign.isStorage rfl) nofun

theorem mapM {f : β → Action σ α} {reads : β → Prop}
    (h : ∀ b, Guards service documented (reads b) (f b)) (bs : List β) :
    Guards service documented (∀ b ∈ bs, reads b) (bs.mapM f) := by
  induction bs with
  | nil => exact pure (fun _ hb => nomatch hb) []
  | cons b bs ih =>
      rw [List.mapM_cons]
      refine ((h b).bind fun _ => ih.bind fun _ => pure trivial _).congr ?_
      rw [List.forall_mem_cons, and_true]

end Guards

/-! ## Calls -/

/-- How a failure that a call raised is handled: it is reported, with what is documented, or it
cannot be, and what comes of it is no error of the library. -/
inductive Handled (c : Call) (documented : Failure → Prop) (e : Failure) (session : Session σ) :
    Result α × Session σ → Prop
  | told {told : Failure} {text : String} {logged : List Log.Record} :
      e.isException = true → e.text = .ok text → c.Told e told logged → documented told →
      Handled c documented e session (.error told, session.logged logged)
  | untold {leaked : Failure} :
      ¬ (e.isException = true ∧ ∃ text, e.text = .ok text) → leaked.isStorage = false →
      Handled c documented e session (.error leaked, session)

def Handles (c : Call) (documented : Failure → Prop) (handle : Failure → Action σ α) : Prop :=
  ∀ e session, Handled c documented e session ((handle e).eval session)

/-- What is still to be read of an answer is owed by what follows the call. -/
theorem Guards.ask {c : Call} {handle : Failure → Action σ Answer} {next : Answer → Action σ α}
    (hhandle : Handles c documented handle)
    (hnext : ∀ answer : Answer,
      Guards service documented (c.Reads answer.toValue) (next answer)) :
    Guards service documented True (tryCatch (call service c) handle >>= next) := by
  intro session
  have hcall : (call service c).eval session =
      ((service.answer c session.state).1, session.called service c) := eval_call service c session
  have hmade : session.Made service [c] (session.called service c) := .called session service c []
  have hexchanges : (service.exchanges [c] session.state).1 =
      [⟨c, (service.answer c session.state).1⟩] := rfl
  rw [eval_bind, eval_tryCatch, hcall]
  cases hanswer : (service.answer c session.state).1 with
  | ok answer =>
      rw [hanswer] at hexchanges
      -- What cannot be read need not show at once: something else may fail before it is read.
      by_cases hreads : c.Reads answer.toValue
      · have hasked : Guarded service documented True session
            (.ok answer, session.called service c) := by
          refine .returned hmade ?_ trivial
          rw [hexchanges]
          exact List.forall_mem_singleton.mpr ⟨answer, rfl, hreads⟩
        refine (hasked.append (hnext answer _)).congr ?_
        simp [hreads]
      · refine (hnext answer _).unread hreads hmade ?_
        rw [hexchanges]
        refine ⟨_, List.mem_singleton_self _, ?_, nofun⟩
        rintro ⟨answer', heq, h⟩
        cases heq
        exact hreads h
  | error e =>
      rw [hanswer] at hexchanges
      have hhandled := hhandle e (session.called service c)
      simp only
      generalize (handle e).eval (session.called service c) = came at hhandled
      cases hhandled with
      | told hexception htext htold hdocumented =>
          refine .reported (.called session service c _) ⟨⟨c, .error e⟩, ?_, ?_⟩ hdocumented
          · rw [hexchanges]
            exact List.mem_singleton_self _
          · exact ⟨e, _, _, rfl, hexception, htext, htold⟩
      | untold huntold hforeign =>
          refine .leaked hmade hforeign fun _ => ⟨⟨c, .error e⟩, ?_, nofun, ?_⟩
          · rw [hexchanges]
            exact List.mem_singleton_self _
          · rintro ⟨e', text, heq, hexception, htext⟩
            cases heq
            exact huntold ⟨hexception, text, htext⟩

/-! ## Many at once -/

section fetching

variable {fetch : Value → Action σ α}
  (h : ∀ key, Guards service documented True (fetch key))
include h

/-- The first failure of a round is one of its own, though the keys after it are fetched as well. -/
theorem mapM_outcome_guarded (keys : List Value) (session : Session σ) :
    ∃ outcomes later, (keys.mapM fun key => (fetch key).outcome).eval session =
        (.ok outcomes, later) ∧
      Guarded service documented True session (outcomes.mapM id, later) := by
  induction keys generalizing session with
  | nil => exact ⟨[], session, rfl, Guards.pure trivial [] session⟩
  | cons key keys ih =>
      cases hkey : (fetch key).eval session with
      | mk outcome mid =>
          have hfirst := h key session
          rw [hkey] at hfirst
          obtain ⟨outcomes, later, hrest, hguarded⟩ := ih mid
          refine ⟨outcome :: outcomes, later, ?_, ?_⟩
          · rw [List.mapM_cons, eval_bind_ok (eval_outcome hkey), eval_bind_ok hrest]
            rfl
          · rw [List.mapM_cons]
            cases outcome with
            | ok a => exact (hfirst.append (hguarded.map (a :: ·))).congr (and_self_iff)
            | error e =>
                -- This failure is the round's, but the calls for the keys after it are made too.
                obtain ⟨calls, hmade⟩ := hguarded.made
                exact hfirst.failed (fun h => h) hmade

theorem fetchRound_guards (keys : List Value) :
    Guards service documented True (Store.fetchRound fetch keys) := by
  intro session
  obtain ⟨outcomes, later, heval, hguarded⟩ := mapM_outcome_guarded h keys session
  rw [Store.fetchRound, eval_bind_ok heval, eval_ofResult]
  exact hguarded

theorem fetchEach_guards {limit : Int} (pos : 0 < limit) (keys : List Value) :
    Guards service documented True (Store.fetchEach limit fetch keys) := by
  rw [Store.fetchEach, if_neg (Int.not_le.mpr pos)]
  have hrounds := Guards.mapM (fetchRound_guards h) (Store.rounds limit.toNat keys)
  exact (hrounds.congr ⟨fun _ => trivial, fun _ _ _ => trivial⟩).andThen fun _ => .pure trivial _

end fetching

end Action

theorem Failure.isStorage_of_not_isException {e : Failure} (h : e.isException = false) :
    e.isStorage = false := by
  cases e with
  | storage _ => cases h
  | _ => rfl

theorem Failure.of_isNotFound {e : Failure} (h : e.isNotFound = true) :
    e.isException = true ∧ ∃ text, e.text = .ok text := by
  cases e with
  | answered status text => exact ⟨rfl, text, rfl⟩
  | _ => cases h

theorem Failure.IsRemote.text {f : Failure} (h : f.IsRemote) : ∃ text, f.text = .ok text := by
  obtain ⟨c, text, rfl⟩ := h
  exact ⟨_, rfl⟩

namespace Store

open BucketStore.Action Session

variable {σ α : Type} {documented : Failure → Prop} {p : Prop}

/-! ## Handlers -/

theorem eval_report_handled {c : Call} {e : Failure}
    (hdocumented : ∀ text, documented (c.remoteError text)) (hmissing : c.missing? e = none)
    (session : Session σ) :
    Handled c documented e session ((report (stepOf c) e : Action σ α).eval session) := by
  by_cases htext : e.isException = true ∧ ∃ text, e.text = .ok text
  · obtain ⟨hexception, text, htext⟩ := htext
    obtain ⟨told, logged, heval, htold, -⟩ := eval_report_told hmissing session
    rw [heval]
    refine .told hexception htext htold ?_
    rw [(htold.remote hmissing hexception text htext).1]
    exact hdocumented text
  · rw [eval_report]
    cases hexception : e.isException with
    | false => exact .untold htext (Failure.isStorage_of_not_isException hexception)
    | true =>
        cases huntold : e.text with
        | ok text => exact absurd ⟨hexception, text, huntold⟩ htext
        | error untold =>
            have hnone : Log.Report.ofFailure e = .error untold := by
              rw [Log.Report.ofFailure, huntold]
              rfl
            rw [hnone]
            exact .untold htext ((Misreads.ofFailure e).isStorage hnone)

theorem headers_handles (s : Store σ) (key : Value)
    (hdocumented : ∀ text, documented ((Call.headObject s.bucket key).remoteError text))
    (hmissing : documented (.storage (.objectNotFound key []))) :
    Handles (.headObject s.bucket key) documented fun e : Failure =>
      if e.isNotFound then (throw (.storage (.objectNotFound key [])) : Action σ Answer)
      else report (.head key) e := by
  intro e session
  by_cases hfound : e.isNotFound = true
  · simp only [if_pos hfound]
    have htold : (Call.headObject s.bucket key).Told e (.storage (.objectNotFound key [])) [] :=
      .objectNotFound (if_pos hfound)
    obtain ⟨hexception, text, htext⟩ := Failure.of_isNotFound hfound
    exact .told hexception htext htold hmissing
  · simp only [if_neg hfound]
    exact eval_report_handled hdocumented (if_neg hfound) session

theorem passOn_guards {service : Service σ} {action : Action σ α}
    (h : Guards service documented p action)
    (htext : ∀ told, documented told → ∃ text, told.text = .ok text) (logger : String)
    (message : LogMessage) (fields : Fields) :
    Guards service documented p (tryCatch action (passOn logger message fields)) := by
  intro session
  have hfirst := h session
  rw [eval_tryCatch]
  split
  · rename_i a mid heq
    rw [heq] at hfirst
    exact hfirst
  · rename_i e mid heq
    rw [heq] at hfirst
    have hstorage : e.isStorage = true → ∃ text, e.text = .ok text := by
      intro hstorage
      cases hfirst with
      | reported _ _ hdocumented => exact htext e hdocumented
      | leaked _ hforeign _ =>
          rw [hforeign] at hstorage
          cases hstorage
    obtain ⟨logged, hpassed⟩ := eval_passOn hstorage logger message fields mid
    rw [hpassed]
    exact hfirst.failed (fun h => h) (.none rfl rfl)

theorem log_guards (s : Store σ) (level : Log.Level) (message : LogMessage) (fields : Fields) :
    Guards s.service documented True (s.log level message fields) := by
  unfold log
  split
  · exact .pure trivial ()
  · exact fun _ => .returned (.none rfl rfl) (fun _ hx => nomatch hx) trivial

end Store

end BucketStore
