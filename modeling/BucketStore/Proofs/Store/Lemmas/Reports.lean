import BucketStore.Proofs.Store.Lemmas.Effects
import BucketStore.Proofs.Store.Reports

/-!
# Actions that report

Actions that call nothing report, as do those that make one call with a handler that tells what is
to be told of it, and one after the other. So the operations report, along their own shape.
-/

namespace BucketStore

/-! ## Calls one after the other -/

theorem Service.exchanges_append {σ : Type} (service : Service σ) (before after : List Call)
    (state : σ) :
    service.exchanges (before ++ after) state =
      ((service.exchanges before state).1 ++
          (service.exchanges after (service.exchanges before state).2).1,
        (service.exchanges after (service.exchanges before state).2).2) := by
  induction before generalizing state with
  | nil => rfl
  | cons c before ih => simp only [List.cons_append, exchanges, ih]

namespace Session

variable {σ : Type} {service : Service σ} {session mid later : Session σ}

theorem Made.none (hcalls : later.calls = session.calls) (hstate : later.state = session.state) :
    session.Made service [] later :=
  ⟨by rw [hcalls, Array.append_empty], hstate⟩

theorem Made.append {before after : List Call} (h : session.Made service before mid)
    (hafter : mid.Made service after later) : session.Made service (before ++ after) later := by
  constructor
  · simp [hafter.added, h.added]
  · rw [hafter.state, h.state, Service.exchanges_append]

theorem Made.exchanges_append {before after : List Call} (h : session.Made service before mid) :
    (service.exchanges (before ++ after) session.state).1 =
      (service.exchanges before session.state).1 ++ (service.exchanges after mid.state).1 := by
  rw [Service.exchanges_append, h.state]

theorem Made.called (session : Session σ) (service : Service σ) (c : Call)
    (logged : List Log.Record) :
    session.Made service [c] ((session.called service c).logged logged) :=
  ⟨by simp [Session.called, Session.logged], rfl⟩

theorem errors_logged {rs : List Log.Record} (h : ∀ r ∈ rs, r.level = .error) :
    (session.logged rs).errors = session.errors ++ rs := by
  simp only [errors, logged, Array.toList_append, List.filter_append]
  rw [List.filter_eq_self.mpr fun r hr => decide_eq_true (h r hr)]

end Session

namespace Call.Told

variable {c : Call} {e told : Failure}

theorem untold (hmissing : c.missing? e = none)
    (htext : e.isException = true → ∀ text, e.text ≠ .ok text) : c.Told e told [] := by
  constructor
  · intro key hkey
    rw [hmissing] at hkey
    cases hkey
  · exact fun _ hexception text h => absurd h (htext hexception text)

theorem remoteError {r : Log.Report} (hmissing : c.missing? e = none) (htext : e.text = .ok r.text)
    (hr : Log.Report.ofFailure e = .ok r) :
    c.Told e (c.remoteError r.text) [c.errorRecord r] := by
  constructor
  · intro key hkey
    rw [hmissing] at hkey
    cases hkey
  · intro _ _ text h
    cases htext.symm.trans h
    exact ⟨rfl, r, hr, rfl, rfl⟩

theorem objectNotFound {key : Value} (hmissing : c.missing? e = some key) :
    c.Told e (.storage (.objectNotFound key [])) [] := by
  constructor
  · intro key' hkey'
    cases hmissing.symm.trans hkey'
    exact ⟨rfl, rfl⟩
  · intro hnone
    rw [hmissing] at hnone
    cases hnone

end Call.Told

namespace Action

open Session

variable {σ α β : Type} {service : Service σ} {action : Action σ α}

/-! ## One after the other -/

theorem Reports.pure (a : α) : Reports service (Pure.pure a : Action σ α) :=
  fun _ => .quiet (.none rfl rfl) (fun _ h => nomatch h) rfl

theorem Reports.throw (e : Failure) : Reports service (MonadExcept.throw e : Action σ α) :=
  fun _ => .quiet (.none rfl rfl) (fun _ h => nomatch h) rfl

theorem Reports.ofResult (r : Result α) : Reports service (ofResult r : Action σ α) := by
  cases r with
  | ok a => exact .pure a
  | error e => exact .throw e

theorem Reports.bind {next : α → Action σ β} (h : Reports service action)
    (hnext : ∀ a, Reports service (next a)) : Reports service (action >>= next) := by
  intro session
  have hfirst := h session
  rw [eval_bind]
  generalize action.eval session = first at hfirst
  cases hfirst with
  | raised hmade hlast hquiet he htold herrors =>
      exact .raised hmade hlast hquiet he htold herrors
  | @quiet calls outcome mid hmade hquiet herrors =>
      cases outcome with
      | error e => exact .quiet hmade hquiet herrors
      | ok a =>
          have hsecond := hnext a mid
          simp only
          generalize (next a).eval mid = second at hsecond
          cases hsecond with
          | quiet hmade' hquiet' herrors' =>
              refine .quiet (hmade.append hmade') ?_ (herrors'.trans herrors)
              rw [hmade.exchanges_append]
              exact List.forall_mem_append.mpr ⟨hquiet, hquiet'⟩
          | raised hmade' hlast hquiet' he htold herrors' =>
              refine .raised (hmade.append hmade') ?_ (List.forall_mem_append.mpr ⟨hquiet, hquiet'⟩)
                he htold (herrors ▸ herrors')
              rw [hmade.exchanges_append, hlast, List.append_assoc]

/-! ## One call -/

/-- The action makes one call, and fails just if that raises a failure and with it. -/
def Asks (service : Service σ) (c : Call) (action : Action σ α) : Prop :=
  ∀ session, (action.eval session).2 = session.called service c ∧
    ∀ e, (action.eval session).1 = .error e ↔
      Exchange.raised? ⟨c, (service.answer c session.state).1⟩ = some e

/-- The handler fails with what is told of a failure that a call raised, and logs what is logged of
it. -/
def Tells (c : Call) (handle : Failure → Action σ α) : Prop :=
  ∀ e session, ∃ told logged,
    (handle e).eval session = (.error told, session.logged logged) ∧ c.Told e told logged ∧
      ∀ r ∈ logged, r.level = .error

variable {c : Call} {handle : Failure → Action σ α}

theorem Asks.eval_tryCatch_raised (h : Asks service c action) (htells : Tells c handle)
    {session : Session σ} {e : Failure}
    (he : Exchange.raised? ⟨c, (service.answer c session.state).1⟩ = some e) :
    ∃ told logged, (tryCatch action handle).eval session =
        (.error told, (session.called service c).logged logged) ∧
      c.Told e told logged ∧ ∀ r ∈ logged, r.level = .error := by
  obtain ⟨hlater, hfails⟩ := h session
  obtain ⟨told, logged, heval, htold⟩ := htells e (session.called service c)
  refine ⟨told, logged, ?_, htold⟩
  rw [eval_tryCatch]
  have herror := (hfails e).mpr he
  generalize action.eval session = first at hlater herror
  obtain ⟨outcome, later⟩ := first
  cases hlater
  cases herror
  exact heval

theorem Asks.eval_tryCatch_quiet (h : Asks service c action)
    (handle : Failure → Action σ α) {session : Session σ}
    (he : Exchange.raised? ⟨c, (service.answer c session.state).1⟩ = none) :
    ∃ a, (tryCatch action handle).eval session = (.ok a, session.called service c) := by
  obtain ⟨hlater, hfails⟩ := h session
  rw [eval_tryCatch]
  generalize action.eval session = first at hlater hfails
  obtain ⟨outcome, later⟩ := first
  cases hlater
  cases outcome with
  | ok a => exact ⟨a, rfl⟩
  | error e =>
      have := (hfails e).mp rfl
      rw [he] at this
      cases this

theorem Asks.reports (h : Asks service c action) (htells : Tells c handle) :
    Reports service (tryCatch action handle) := by
  intro session
  cases he : Exchange.raised? ⟨c, (service.answer c session.state).1⟩ with
  | none =>
      obtain ⟨a, heval⟩ := h.eval_tryCatch_quiet handle he
      rw [heval]
      exact .quiet (.called session service c []) (List.forall_mem_singleton.mpr he) rfl
  | some e =>
      obtain ⟨told, logged, heval, htold, hlevel⟩ := h.eval_tryCatch_raised htells he
      rw [heval]
      exact .raised (.called session service c logged) (List.nil_append _).symm
        (fun _ h => nomatch h) he htold (errors_logged hlevel)

end Action

namespace Store

open BucketStore.Action Session

variable {σ α : Type} {s : Store σ} {c : Call}

/-! ## Steps -/

theorem log_reports (s : Store σ) {level : Log.Level} (message : LogMessage) (fields : Fields)
    (hlevel : level ≠ .error) : Reports s.service (s.log level message fields) := by
  unfold log
  split
  · exact .pure ()
  · intro session
    refine .quiet (.none rfl rfl) (fun _ h => nomatch h) ?_
    simp [Session.errors, Log.record, hlevel]

theorem asks_call (s : Store σ) (hc : c.isReading = false) : Asks s.service c (s.call c) := by
  intro session
  rw [call, eval_call]
  refine ⟨rfl, fun e => ?_⟩
  cases (s.service.answer c session.state).1 <;> simp [Exchange.raised?, hc]

theorem asks_getObject (s : Store σ) (key : Value) :
    Asks s.service (.getObject s.bucket key)
      (do
        let answer ← s.call (.getObject s.bucket key)
        Action.ofResult answer.content) := by
  intro session
  rw [eval_bind, call, eval_call]
  cases (s.service.answer (.getObject s.bucket key) session.state).1 with
  | error e' => exact ⟨rfl, by simp [Exchange.raised?]⟩
  | ok answer =>
      simp only [eval_ofResult]
      refine ⟨rfl, fun e => ?_⟩
      cases hcontent : answer.content <;> simp [Exchange.raised?, Call.isReading, hcontent]

theorem ofFailure_of_text {e : Failure} {text : String} (h : e.text = .ok text) :
    ∃ r, Log.Report.ofFailure e = .ok r ∧ r.text = text := by
  rw [Log.Report.ofFailure, h]
  exact ⟨_, rfl, rfl⟩

theorem eval_report (step : Step) (e : Failure) (session : Session σ) :
    (report step e : Action σ α).eval session =
      if e.isException then
        match Log.Report.ofFailure e with
        | .ok r => (.error (step.failure r.text), session.logged [step.record r])
        | .error untold => (.error untold, session)
      else (.error e, session) := by
  cases hexception : e.isException with
  | false =>
      rw [report, hexception]
      rfl
  | true =>
      rw [report, hexception]
      simp only [Bool.not_true, Bool.false_eq_true, ↓reduceIte]
      rw [eval_bind, eval_ofResult]
      cases Log.Report.ofFailure e with
      | error untold => rfl
      | ok r =>
          have hlogged : session.logged [step.record r] =
              { session with records := session.records.push (step.record r) } := by
            simp [Session.logged]
          simp only [hlogged]
          rw [eval_bind, eval_log]
          rfl

theorem calls_after_bind {β : Type} {action : Action σ α} {next : α → Action σ β}
    (hnext : ∀ a, Keeps Session.calls (next a)) (session : Session σ) :
    ((action >>= next).eval session).2.calls = (action.eval session).2.calls :=
  Keeps.after_bind hnext session

/-- A call that is made in a step is made once, whether it fails or not. -/
theorem calls_during_call (s : Store σ) (c : Call) (step : Step) (session : Session σ) :
    ((during step (s.call c)).eval session).2.calls = session.calls.push c := by
  rw [during, eval_tryCatch, call, eval_call]
  cases (s.service.answer c session.state).1 with
  | ok answer => rfl
  | error e =>
    simp only [eval_report]
    split
    · split <;> simp [Session.logged]
    · rfl

/-- The step that a call is made in. -/
def stepOf : Call → Step
  | .bucketExists bucket => .checkBucket bucket
  | .createBucket bucket _ => .createBucket bucket
  | .putObject _ key _ _ => .put key
  | .getObject _ key => .fetch key
  | .deleteObject _ key => .delete key
  | .headObject _ key => .head key
  | .listObjects _ keyPrefix _ _ => .list keyPrefix
  | .getObjectTagging _ key => .tagging key
  | .signUrl _ key _ expires => .sign key expires

theorem stepOf_failure (c : Call) (text : String) : (stepOf c).failure text = c.remoteError text := by
  cases c <;> rfl

theorem stepOf_record (c : Call) (r : Log.Report) : (stepOf c).record r = c.errorRecord r := by
  cases c <;> rfl

theorem eval_report_told {e : Failure} (hmissing : c.missing? e = none) (session : Session σ) :
    ∃ told logged, (report (stepOf c) e : Action σ α).eval session =
        (.error told, session.logged logged) ∧
      c.Told e told logged ∧ ∀ r ∈ logged, r.level = .error := by
  rw [eval_report]
  cases hexception : e.isException with
  | false =>
      refine ⟨e, [], rfl, .untold hmissing fun h => ?_, fun _ h => nomatch h⟩
      rw [hexception] at h
      cases h
  | true =>
      cases htext : e.text with
      | error untold =>
          have hnone : Log.Report.ofFailure e = .error untold := by
            rw [Log.Report.ofFailure, htext]
            rfl
          refine ⟨untold, [], by rw [hnone]; rfl, .untold hmissing fun _ text h => ?_,
            fun _ h => nomatch h⟩
          rw [htext] at h
          cases h
      | ok text =>
          obtain ⟨r, hr, rfl⟩ := ofFailure_of_text htext
          refine ⟨c.remoteError r.text, [c.errorRecord r], ?_,
            Call.Told.remoteError hmissing htext hr, List.forall_mem_singleton.mpr rfl⟩
          rw [hr, ← stepOf_failure, ← stepOf_record]
          rfl

theorem report_tells (hmissing : ∀ e, c.missing? e = none) :
    Tells c (report (stepOf c) : Failure → Action σ α) :=
  fun e session => eval_report_told (hmissing e) session

theorem call_reports (s : Store σ) (c : Call) (hreading : c.isReading = false)
    (hmissing : ∀ e, c.missing? e = none) : Reports s.service (during (stepOf c) (s.call c)) :=
  (s.asks_call hreading).reports (report_tells hmissing)

/-! ## Operations -/

variable (s)

theorem putReader_reports (key : Value) (content : ByteArray) (option : PutOption) :
    Reports s.service (s.putReader key content option) :=
  (Reports.ofResult _).bind fun parameters =>
    (s.call_reports (.putObject s.bucket key content parameters) rfl fun _ => rfl).bind fun _ =>
      .pure _

theorem fetch_reports (key : Value) : Reports s.service (s.fetch key) :=
  (s.asks_getObject key).reports (report_tells fun _ => rfl)

theorem delete_reports (key : Value) : Reports s.service (s.delete key) :=
  (s.call_reports (.deleteObject s.bucket key) rfl fun _ => rfl).bind fun _ =>
    s.log_reports _ _ (by decide)

theorem signUrl_reports (key : Value) (option : GetOption) :
    Reports s.service (s.signUrl key option) :=
  (Reports.ofResult _).bind fun expires =>
    (s.call_reports (.signUrl s.bucket key "GET" expires) rfl fun _ => rfl).bind fun _ => .pure _

theorem tagging_reports (key : Value) : Reports s.service (s.tagging key) :=
  (s.call_reports (.getObjectTagging s.bucket key) rfl fun _ => rfl).bind fun _ =>
    (Reports.ofResult _).bind fun _ => .ofResult _

theorem headers_tells (key : Value) :
    Tells (.headObject s.bucket key) fun e : Failure =>
      if e.isNotFound then (throw (.storage (.objectNotFound key [])) : Action σ Answer)
      else report (.head key) e := by
  intro e session
  by_cases hmissing : e.isNotFound = true
  · refine ⟨.storage (.objectNotFound key []), [], ?_, .objectNotFound (if_pos hmissing),
      fun _ h => nomatch h⟩
    simp only [if_pos hmissing]
    rfl
  · have hnone : (Call.headObject s.bucket key).missing? e = none := if_neg hmissing
    simp only [if_neg hmissing]
    exact eval_report_told hnone session

theorem headers_reports (key : Value) : Reports s.service (s.headers key) :=
  ((s.asks_call rfl).reports (s.headers_tells key)).bind fun _ => .pure _

theorem head_reports (key : Value) (option : GetOption) :
    Reports s.service (s.head key option) := by
  -- The calls for the tags and for the URL are there or not, each for itself.
  have hsigned : ∀ headers tags, Reports s.service (do
      let url ← if option.withUrl then s.signUrl key option else pure .null
      let file ← Action.ofResult (ofHeaders key headers)
      return { file with tagging := tags, url }) := by
    intro headers tags
    cases option.withUrl with
    | false =>
        exact (Reports.pure _).bind fun _ => (Reports.ofResult _).bind fun _ => .pure _
    | true =>
        exact (s.signUrl_reports key _).bind fun _ => (Reports.ofResult _).bind fun _ => .pure _
  refine (s.headers_reports key).bind fun headers => ?_
  cases option.withTagging with
  | false => exact (Reports.pure _).bind fun _ => hsigned headers _
  | true => exact (s.tagging_reports key).bind fun _ => hsigned headers _

theorem ensureBucket_reports : Reports s.service s.ensureBucket := by
  refine (s.call_reports (.bucketExists s.bucket) rfl fun _ => rfl).bind fun exists? => ?_
  split
  · refine (s.log_reports _ _ (by decide)).bind fun _ => ?_
    refine (s.call_reports (.createBucket s.bucket bucketAccess) rfl fun _ => rfl).bind fun _ => ?_
    exact s.log_reports _ _ (by decide)
  · exact .pure _

theorem service_of_make {service : Service σ} {debug : Bool} {config : BucketConfig}
    (h : make service debug config = .ok s) : s.service = service := by
  rw [make] at h
  split at h
  · cases h
    rfl
  · cases h

theorem openWith_reports (service : Service σ) (debug : Bool) (config : BucketConfig) :
    Reports service (openWith service debug config) := by
  rw [openWith]
  cases hmake : make service debug config with
  | error e => exact Reports.throw e
  | ok s =>
      obtain rfl := service_of_make s hmake
      have hopen : Reports s.service (do s.ensureBucket; return s) :=
        s.ensureBucket_reports.bind fun _ => .pure s
      exact hopen

/-! ## Pages -/

/-- If asking for a page fails, so does the page, and nothing else is called. -/
theorem eval_listPage_raised {request : PageRequest} (option : GetOption)
    (hsize : checkPageSize request.pageSize = .ok ()) {session : Session σ} {e : Failure}
    (he : (s.service.answer (s.pageCall request) session.state).1 = .error e) :
    ∃ told logged, (s.listPage request option).eval session =
        (.error told, (session.called s.service (s.pageCall request)).logged logged) ∧
      (s.pageCall request).Told e told logged := by
  have hraised : Exchange.raised?
      ⟨s.pageCall request, (s.service.answer (s.pageCall request) session.state).1⟩ = some e := by
    rw [he]
    rfl
  obtain ⟨told, logged, heval, htold, -⟩ :=
    (s.asks_call rfl).eval_tryCatch_raised (report_tells fun _ => rfl) hraised
  refine ⟨told, logged, ?_, htold⟩
  rw [s.listPage_eq option hsize]
  exact eval_bind_error heval _

end Store

end BucketStore
