import BucketStore.Proofs.Store.Lemmas.Reports

/-!
# Runs of actions

What an action comes to in a state of the service, whatever was called and logged before. Every
construct runs as its parts do, one after the other, and there is one run from a state.
-/

namespace BucketStore

variable {σ α β : Type}

/-- The session with more calls and records, in a later state of the service. -/
def Session.extended (session : Session σ) (calls : List Call) (logged : List Log.Record)
    (later : σ) : Session σ where
  state := later
  calls := session.calls ++ calls.toArray
  records := session.records ++ logged.toArray

theorem Session.extended_nil (session : Session σ) :
    session.extended [] [] session.state = session := by
  rw [extended, Array.append_empty, Array.append_empty]

theorem Session.extended_extended (session : Session σ) (calls more : List Call)
    (logged moreLogged : List Log.Record) (mid later : σ) :
    (session.extended calls logged mid).extended more moreLogged later =
      session.extended (calls ++ more) (logged ++ moreLogged) later := by
  simp [extended]

namespace Action

/-- From this state of the service the action comes to `r`, makes these calls, logs these records and
leaves the later state, whatever was called and logged before. -/
def Runs (action : Action σ α) (state : σ) (r : Result α) (calls : List Call)
    (logged : List Log.Record) (later : σ) : Prop :=
  ∀ session : Session σ, session.state = state →
    action.eval session = (r, session.extended calls logged later)

namespace Runs

variable {action : Action σ α} {state mid later : σ} {r : Result α} {a : α} {e : Failure}
  {calls more : List Call} {logged moreLogged : List Log.Record}

theorem pure (a : α) (state : σ) : Runs (Pure.pure a : Action σ α) state (.ok a) [] [] state := by
  rintro session rfl
  rw [session.extended_nil]
  rfl

theorem ofResult (r : Result α) (state : σ) :
    Runs (ofResult r : Action σ α) state r [] [] state := by
  rintro session rfl
  rw [eval_ofResult, session.extended_nil]

theorem throw (e : Failure) (state : σ) :
    Runs (MonadExcept.throw e : Action σ α) state (.error e) [] [] state :=
  ofResult (.error e) state

theorem log (record : Log.Record) (state : σ) :
    Runs (log record : Action σ Unit) state (.ok ()) [] [record] state := by
  rintro session rfl
  rw [eval_log]
  simp [Session.extended]

theorem call (service : Service σ) (c : Call) (state : σ) :
    Runs (call service c) state (service.answer c state).1 [c] [] (service.answer c state).2 := by
  rintro session rfl
  rw [eval_call]
  simp [Session.extended]

theorem bind {next : α → Action σ β} {r : Result β} (h : Runs action state (.ok a) calls logged mid)
    (hnext : Runs (next a) mid r more moreLogged later) :
    Runs (action >>= next) state r (calls ++ more) (logged ++ moreLogged) later := by
  intro session hstate
  rw [eval_bind, h session hstate]
  simp only
  rw [hnext _ rfl, Session.extended_extended]

theorem bind_error (h : Runs action state (.error e) calls logged later)
    (next : α → Action σ β) : Runs (action >>= next) state (.error e) calls logged later := by
  intro session hstate
  rw [eval_bind, h session hstate]

theorem ofResult_bind {result : Result α} {next : α → Action σ β} {r : Result β}
    (h : result = .ok a) (hnext : Runs (next a) state r calls logged later) :
    Runs (Action.ofResult result >>= next) state r calls logged later := by
  rw [h]
  exact (ofResult (.ok a) state).bind hnext

theorem bind_pure (h : Runs action state r calls logged later) (f : α → β) :
    Runs (action >>= fun a => Pure.pure (f a)) state (r.map f) calls logged later := by
  cases r with
  | error e => exact h.bind_error _
  | ok a =>
      have hbind : Runs (action >>= fun a => Pure.pure (f a)) state (.ok (f a)) (calls ++ [])
          (logged ++ []) later := h.bind (.pure (f a) later)
      rwa [List.append_nil, List.append_nil] at hbind

theorem tryCatch_ok (h : Runs action state (.ok a) calls logged later)
    (handle : Failure → Action σ α) :
    Runs (MonadExcept.tryCatch action handle) state (.ok a) calls logged later := by
  intro session hstate
  rw [eval_tryCatch, h session hstate]

theorem tryCatch_error {handle : Failure → Action σ α}
    (h : Runs action state (.error e) calls logged mid)
    (hhandle : Runs (handle e) mid r more moreLogged later) :
    Runs (MonadExcept.tryCatch action handle) state r (calls ++ more) (logged ++ moreLogged)
      later := by
  intro session hstate
  rw [eval_tryCatch, h session hstate]
  simp only
  rw [hhandle _ rfl, Session.extended_extended]

theorem outcome (h : Runs action state r calls logged later) :
    Runs action.outcome state (.ok r) calls logged later := by
  intro session hstate
  exact eval_outcome (h session hstate)

theorem unique (h : Runs action state r calls logged later) {r' : Result α} {calls' : List Call}
    {logged' : List Log.Record} {later' : σ} (h' : Runs action state r' calls' logged' later') :
    r = r' ∧ calls = calls' ∧ logged = logged' ∧ later = later' := by
  have hsame := (h { state } rfl).symm.trans (h' { state } rfl)
  simp only [Session.extended, Prod.mk.injEq, Session.mk.injEq] at hsame
  obtain ⟨hr, hstate, hcalls, hlogged⟩ := hsame
  exact ⟨hr, by simpa using hcalls, by simpa using hlogged, hstate⟩

end Runs

/-! ## Actions that make certain calls -/

/-- The calls that were made are some of these, in their order, and nothing but errors was logged.
Unless the action failed, all of the calls were made, and nothing was logged. -/
structure Within (calls : List Call) (r : Result α) (made : List Call)
    (logged : List Log.Record) : Prop where
  sublist : made.Sublist calls
  errors : ∀ record ∈ logged, record.level = .error
  complete : ∀ a, r = .ok a → made = calls
  quiet : ∀ a, r = .ok a → logged = []

/-- From every state the action makes these calls, or some of them if it fails, and logs nothing but
errors. -/
def Works (action : Action σ α) (calls : List Call) : Prop :=
  ∀ state, ∃ r made logged later, Runs action state r made logged later ∧
    Within calls r made logged

/-- The action calls nothing, logs nothing but errors and fails. -/
def FailsAgain (action : Action σ α) : Prop :=
  ∀ state, ∃ e logged, Runs action state (.error e) [] logged state ∧
    ∀ record ∈ logged, record.level = .error

theorem forall_mem_append_errors {logged more : List Log.Record}
    (h : ∀ record ∈ logged, record.level = .error) (hmore : ∀ record ∈ more, record.level = .error) :
    ∀ record ∈ logged ++ more, record.level = .error := by
  intro record hrecord
  rcases List.mem_append.mp hrecord with hrecord | hrecord
  · exact h record hrecord
  · exact hmore record hrecord

namespace Works

variable {action : Action σ α} {calls more : List Call}

theorem pure (a : α) : Works (Pure.pure a : Action σ α) [] :=
  fun state => ⟨.ok a, [], [], state, .pure a state, .refl [], nofun, fun _ _ => rfl, fun _ _ => rfl⟩

theorem ofResult (r : Result α) : Works (ofResult r : Action σ α) [] :=
  fun state => ⟨r, [], [], state, .ofResult r state, .refl [], nofun, fun _ _ => rfl, fun _ _ => rfl⟩

/-- What fails at once makes none of the calls. -/
theorem throw (e : Failure) (calls : List Call) :
    Works (MonadExcept.throw e : Action σ α) calls :=
  fun state => ⟨.error e, [], [], state, .throw e state, List.nil_sublist calls, nofun, nofun, nofun⟩

theorem call (service : Service σ) (c : Call) : Works (call service c) [c] :=
  fun state => ⟨_, [c], [], _, .call service c state, .refl [c], nofun, fun _ _ => rfl, fun _ _ => rfl⟩

theorem bind {next : α → Action σ β} (h : Works action calls)
    (hnext : ∀ a, Works (next a) more) : Works (action >>= next) (calls ++ more) := by
  intro state
  obtain ⟨r, made, logged, mid, hruns, hwithin⟩ := h state
  cases r with
  | error e =>
      refine ⟨.error e, made, logged, mid, hruns.bind_error next, ?_, hwithin.errors, nofun, nofun⟩
      exact hwithin.sublist.trans (List.sublist_append_left calls more)
  | ok a =>
      obtain ⟨r, made', logged', later, hruns', hwithin'⟩ := hnext a mid
      refine ⟨r, made ++ made', logged ++ logged', later, hruns.bind hruns',
        hwithin.sublist.append hwithin'.sublist,
        forall_mem_append_errors hwithin.errors hwithin'.errors, fun b hb => ?_, fun b hb => ?_⟩
      · rw [hwithin.complete a rfl, hwithin'.complete b hb]
      · rw [hwithin.quiet a rfl, hwithin'.quiet b hb, List.append_nil]

theorem bind_nil {next : α → Action σ β} (h : Works action calls)
    (hnext : ∀ a, Works (next a) []) : Works (action >>= next) calls := by
  have hbind := h.bind hnext
  rwa [List.append_nil] at hbind

theorem tryCatch {handle : Failure → Action σ α} (h : Works action calls)
    (hhandle : ∀ e, FailsAgain (handle e)) :
    Works (MonadExcept.tryCatch action handle) calls := by
  intro state
  obtain ⟨r, made, logged, mid, hruns, hwithin⟩ := h state
  cases r with
  | ok a => exact ⟨.ok a, made, logged, mid, hruns.tryCatch_ok handle, hwithin⟩
  | error e =>
      obtain ⟨e', logged', hruns', herrors⟩ := hhandle e mid
      refine ⟨.error e', made ++ [], logged ++ logged', mid, hruns.tryCatch_error hruns', ?_,
        forall_mem_append_errors hwithin.errors herrors, nofun, nofun⟩
      rw [List.append_nil]
      exact hwithin.sublist

end Works

/-! ## Actions that succeed from a state -/

/-- From this state the action answers `a` and leaves the later state. -/
def Gets (action : Action σ α) (state : σ) (a : α) (later : σ) : Prop :=
  ∃ made logged, Runs action state (.ok a) made logged later

namespace Gets

variable {action : Action σ α} {calls more : List Call} {state mid later : σ} {a b : α}

/-- What an action comes to from a state, if that is known, is all that it gets. -/
theorem iff_of_runs {r : Result α} {made : List Call} {logged : List Log.Record}
    (h : Runs action state r made logged mid) :
    Gets action state a later ↔ r = .ok a ∧ mid = later := by
  constructor
  · rintro ⟨made', logged', h'⟩
    obtain ⟨hr, -, -, hlater⟩ := h.unique h'
    exact ⟨hr, hlater⟩
  · rintro ⟨rfl, rfl⟩
    exact ⟨made, logged, h⟩

theorem pure_iff : Gets (Pure.pure a : Action σ α) state b later ↔ a = b ∧ state = later := by
  rw [iff_of_runs (Runs.pure a state), Except.ok.injEq]

theorem ofResult_iff {r : Result α} :
    Gets (ofResult r : Action σ α) state a later ↔ r = .ok a ∧ state = later :=
  iff_of_runs (Runs.ofResult r state)

theorem call_iff {service : Service σ} {c : Call} {answer : Answer} :
    Gets (call service c) state answer later ↔ service.answer c state = (.ok answer, later) := by
  rw [iff_of_runs (Runs.call service c state), Prod.ext_iff]

theorem bind_iff {next : α → Action σ β} {b : β} (h : Works action calls)
    (hnext : ∀ a, Works (next a) more) :
    Gets (action >>= next) state b later ↔
      ∃ a mid, Gets action state a mid ∧ Gets (next a) mid b later := by
  constructor
  · intro hgets
    obtain ⟨r, made, logged, mid, hruns, -⟩ := h state
    cases r with
    | error e =>
        obtain ⟨hr, -⟩ := (iff_of_runs (hruns.bind_error next)).mp hgets
        cases hr
    | ok a =>
        obtain ⟨r, made', logged', last, hruns', -⟩ := hnext a mid
        obtain ⟨rfl, rfl⟩ := (iff_of_runs (hruns.bind hruns')).mp hgets
        exact ⟨a, mid, ⟨made, logged, hruns⟩, made', logged', hruns'⟩
  · rintro ⟨a, mid, ⟨made, logged, hruns⟩, made', logged', hruns'⟩
    exact ⟨made ++ made', logged ++ logged', hruns.bind hruns'⟩

/-- A handler that fails adds nothing to what is got. -/
theorem tryCatch_iff {handle : Failure → Action σ α} (h : Works action calls)
    (hhandle : ∀ e, FailsAgain (handle e)) :
    Gets (MonadExcept.tryCatch action handle) state a later ↔ Gets action state a later := by
  constructor
  · intro hgets
    obtain ⟨r, made, logged, mid, hruns, -⟩ := h state
    cases r with
    | ok b =>
        rw [iff_of_runs (hruns.tryCatch_ok handle)] at hgets
        exact (iff_of_runs hruns).mpr hgets
    | error e =>
        obtain ⟨e', logged', hruns', -⟩ := hhandle e mid
        obtain ⟨hr, -⟩ := (iff_of_runs (hruns.tryCatch_error hruns')).mp hgets
        cases hr
  · rintro ⟨made, logged, hruns⟩
    exact ⟨made, logged, hruns.tryCatch_ok handle⟩

end Gets

end Action

end BucketStore
