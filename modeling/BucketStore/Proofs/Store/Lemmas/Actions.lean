import BucketStore.Store.Basic

/-!
# Running actions

What an action answers in a session, construct by construct, and what it leaves as it was: `Keeps`
says that a view of the session is the same afterwards, whatever the outcome.
-/

namespace BucketStore.Action

variable {σ α β γ : Type}

/-- What an action answers in a session, and the session after it. -/
def eval (action : Action σ α) (session : Session σ) : Result α × Session σ :=
  StateT.run (ExceptT.run action) session

/-! ## Construct by construct -/

theorem eval_bind (action : Action σ α) (next : α → Action σ β) (session : Session σ) :
    (action >>= next).eval session =
      match action.eval session with
      | (.ok a, later) => (next a).eval later
      | (.error e, later) => (.error e, later) := by
  simp only [eval, ExceptT.run_bind, StateT.run_bind]
  cases StateT.run (ExceptT.run action) session with
  | mk r later => cases r <;> rfl

theorem eval_bind_ok {action : Action σ α} {session later : Session σ} {a : α}
    (h : action.eval session = (.ok a, later)) (next : α → Action σ β) :
    (action >>= next).eval session = (next a).eval later := by
  rw [eval_bind, h]

theorem eval_bind_error {action : Action σ α} {session later : Session σ} {e : Failure}
    (h : action.eval session = (.error e, later)) (next : α → Action σ β) :
    (action >>= next).eval session = (.error e, later) := by
  rw [eval_bind, h]

theorem eval_tryCatch (action : Action σ α) (handle : Failure → Action σ α)
    (session : Session σ) :
    (tryCatch action handle).eval session =
      match action.eval session with
      | (.ok a, later) => (.ok a, later)
      | (.error e, later) => (handle e).eval later := by
  simp only [eval, ExceptT.run_tryCatch, StateT.run_bind]
  cases StateT.run (ExceptT.run action) session with
  | mk r later => cases r <;> rfl

@[simp]
theorem eval_ofResult (r : Result α) (session : Session σ) :
    (ofResult r : Action σ α).eval session = (r, session) := by
  cases r <;> rfl

@[simp]
theorem eval_log (r : Log.Record) (session : Session σ) :
    (log r : Action σ Unit).eval session =
      (.ok (), { session with records := session.records.push r }) :=
  rfl

theorem eval_outcome {action : Action σ α} {session later : Session σ} {r : Result α}
    (h : action.eval session = (r, later)) :
    action.outcome.eval session = (.ok r, later) :=
  congrArg (fun came => (Except.ok came.1, came.2)) h

theorem eval_call (service : Service σ) (c : Call) (session : Session σ) :
    (call service c).eval session =
      ((service.answer c session.state).1,
        { session with
          state := (service.answer c session.state).2
          calls := session.calls.push c }) := by
  change (ofResult (service.answer c session.state).1 : Action σ Answer).eval _ = _
  rw [eval_ofResult]
  rfl

/-! ## Actions that succeed -/

theorem of_eval_bind_ok {action : Action σ α} {next : α → Action σ β} {session later : Session σ}
    {b : β} (h : (action >>= next).eval session = (.ok b, later)) :
    ∃ a mid, action.eval session = (.ok a, mid) ∧ (next a).eval mid = (.ok b, later) := by
  rw [eval_bind] at h
  split at h
  · rename_i a mid heq
    exact ⟨a, mid, heq, h⟩
  · cases h

theorem of_eval_ofResult_bind_ok {r : Result α} {next : α → Action σ β}
    {session later : Session σ} {b : β}
    (h : (ofResult r >>= next).eval session = (.ok b, later)) :
    ∃ a, r = .ok a ∧ (next a).eval session = (.ok b, later) := by
  rw [eval_bind, eval_ofResult] at h
  cases r with
  | error e => cases h
  | ok a => exact ⟨a, rfl, h⟩

/-- What succeeds although it is handled by something that fails has not been handled. -/
theorem of_eval_tryCatch_ok {action : Action σ α} {handle : Failure → Action σ α}
    {session later : Session σ} {a : α}
    (hhandle : ∀ e session, ∃ e', ((handle e).eval session).1 = .error e')
    (hok : (tryCatch action handle).eval session = (.ok a, later)) :
    action.eval session = (.ok a, later) := by
  rw [eval_tryCatch] at hok
  split at hok
  · rename_i heq
    rw [heq, hok]
  · rename_i e mid heq
    obtain ⟨e', he'⟩ := hhandle e mid
    rw [hok] at he'
    cases he'

/-! ## What stays as it was -/

/-- The view of a session is the same after the action. -/
def Keeps (view : Session σ → γ) (action : Action σ α) : Prop :=
  ∀ session, view (action.eval session).2 = view session

variable {view : Session σ → γ}

theorem Keeps.of_eval {action : Action σ α} {r : Result α} {session later : Session σ}
    (h : Keeps view action) (heval : action.eval session = (r, later)) :
    view later = view session := by
  have hs := h session
  rwa [heval] at hs

theorem Keeps.pure (a : α) : Keeps view (Pure.pure a : Action σ α) :=
  fun _ => rfl

theorem Keeps.throw (e : Failure) : Keeps view (MonadExcept.throw e : Action σ α) :=
  fun _ => rfl

theorem Keeps.ofResult (r : Result α) : Keeps view (ofResult r : Action σ α) := by
  intro session
  rw [eval_ofResult]

theorem Keeps.bind {action : Action σ α} {next : α → Action σ β} (h : Keeps view action)
    (hnext : ∀ a, Keeps view (next a)) : Keeps view (action >>= next) := by
  intro session
  rw [eval_bind]
  split
  · rename_i a later heq
    exact (hnext a later).trans (h.of_eval heq)
  · rename_i e later heq
    exact h.of_eval heq

theorem Keeps.tryCatch {action : Action σ α} {handle : Failure → Action σ α}
    (h : Keeps view action) (hhandle : ∀ e, Keeps view (handle e)) :
    Keeps view (MonadExcept.tryCatch action handle) := by
  intro session
  rw [eval_tryCatch]
  split
  · rename_i a later heq
    exact h.of_eval heq
  · rename_i e later heq
    exact (hhandle e later).trans (h.of_eval heq)

theorem Keeps.outcome {action : Action σ α} (h : Keeps view action) :
    Keeps view action.outcome :=
  fun session => h session

theorem Keeps.mapM {f : β → Action σ α} (h : ∀ b, Keeps view (f b)) (bs : List β) :
    Keeps view (bs.mapM f) := by
  induction bs with
  | nil => exact .pure []
  | cons b bs ih =>
      rw [List.mapM_cons]
      exact (h b).bind fun _ => ih.bind fun _ => .pure _

/-- What follows an action changes nothing more. -/
theorem Keeps.after_bind {action : Action σ α} {next : α → Action σ β}
    (hnext : ∀ a, Keeps view (next a)) (session : Session σ) :
    view ((action >>= next).eval session).2 = view (action.eval session).2 := by
  rw [eval_bind]
  split
  · rename_i a later heq
    rw [heq]
    exact hnext a later
  · rename_i e later heq
    rw [heq]

/-! ## What is answered everywhere -/

/-- The action answers the same in every session. -/
def Yields (action : Action σ α) (a : α) : Prop :=
  ∀ session, ∃ later, action.eval session = (.ok a, later)

theorem Yields.pure (a : α) : Yields (Pure.pure a : Action σ α) a :=
  fun session => ⟨session, rfl⟩

theorem Yields.ofResult {r : Result α} {a : α} (h : r = .ok a) :
    Yields (ofResult r : Action σ α) a := by
  intro session
  rw [eval_ofResult, h]
  exact ⟨session, rfl⟩

theorem Yields.bind {action : Action σ α} {a : α} {next : α → Action σ β} {b : β}
    (h : Yields action a) (hnext : Yields (next a) b) : Yields (action >>= next) b := by
  intro session
  obtain ⟨mid, hmid⟩ := h session
  obtain ⟨later, hlater⟩ := hnext mid
  exact ⟨later, by rw [eval_bind_ok hmid, hlater]⟩

theorem Yields.tryCatch {action : Action σ α} {a : α} (h : Yields action a)
    (handle : Failure → Action σ α) : Yields (MonadExcept.tryCatch action handle) a := by
  intro session
  obtain ⟨later, hlater⟩ := h session
  exact ⟨later, by rw [eval_tryCatch, hlater]⟩

theorem Yields.mapM_map {δ : Type} {f : β → Action σ α} {wrap : δ → β} {g : δ → α}
    {ds : List δ} (h : ∀ d ∈ ds, Yields (f (wrap d)) (g d)) :
    Yields ((ds.map wrap).mapM f) (ds.map g) := by
  induction ds with
  | nil => exact .pure []
  | cons d ds ih =>
      rw [List.map_cons, List.mapM_cons]
      refine (h d List.mem_cons_self).bind ?_
      exact (ih fun e he => h e (List.mem_cons_of_mem d he)).bind (.pure _)

end BucketStore.Action
