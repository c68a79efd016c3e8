import BucketStore.Proofs.TaskGroup.Lemmas.History

/-!
# Ways out of a task group

A wait that answers, fails or runs out of time, and a scope that is left in either way, leave only
settled tasks behind, with every permit free.
-/

namespace BucketStore.TaskGroup

variable {α : Type}

/-! ## Nothing is left open -/

theorem isSettled_of_result? {t : Task α} {v : α} (h : t.result? = some v) :
    t.phase.isSettled = true := by
  unfold Task.result? at h
  split at h
  · rename_i start _ hp _
    rw [hp]
    rfl
  · cases h

/-- Results are there only when every task has settled. -/
theorem isSettled_of_mapM_result? {ts : List (Task α)} {vs : List α}
    (h : ts.mapM Task.result? = some vs) : ∀ t ∈ ts, t.phase.isSettled = true := by
  induction ts generalizing vs with
  | nil => simp
  | cons t ts ih =>
      simp only [List.mapM_cons, Option.pure_def, Option.bind_eq_bind, Option.bind_eq_some_iff] at h
      obtain ⟨v, hv, us, hus, _⟩ := h
      intro u hu
      rcases List.mem_cons.mp hu with rfl | hu
      · exact isSettled_of_result? hv
      · exact ih hus u hu

theorem conclude_isSettled (deadline? : Option Nat) (g : TaskGroup α) :
    ∀ t ∈ (conclude deadline? g).2.tasks, t.phase.isSettled = true := by
  unfold conclude
  split
  · exact fun _ => cancelAll_isSettled
  · rename_i hr
    exact isSettled_of_mapM_result? hr
  · split
    · exact fun _ => cancelAll_isSettled
    · exact fun _ => cancelAll_isSettled

/-! ## What a way out leaves -/

/-- What a way out of a group leaves: every task has settled, those that had settled before are as
they were, all permits are free, and of the jobs submitted next as many run at once as the limit
allows. -/
structure Settles (g h : TaskGroup α) : Prop where
  settled : ∀ t ∈ h.tasks, t.phase ≠ .pending ∧ t.phase.isRunning = false
  continues : g.Continues h
  kept : ∀ (i : Nat) (t : Task α), g.tasks[i]? = some t → t.phase.isSettled = true →
    h.tasks[i]? = some t
  free : Task.runningCount h.tasks = 0
  refill : ∀ jobs : List (Job α), (∀ job ∈ jobs, job.delay ≠ 0) →
    Task.runningCount (jobs.foldl submit h).start.tasks = min g.limit jobs.length

theorem Settles.of_isSettled {g h : TaskGroup α} (hc : g.Continues h)
    (hs : ∀ t ∈ h.tasks, t.phase.isSettled = true) : g.Settles h := by
  have hfree := runningCount_eq_zero hs
  refine ⟨fun t ht => Phase.isSettled_iff.mp (hs t ht), hc, ?_, hfree, ?_⟩
  · intro i t ht hsettled
    obtain ⟨u, hu, hjob, hphase⟩ := hc.task i t ht
    have heq : u = t := by
      cases t
      cases u
      simp only [Task.mk.injEq]
      exact ⟨hjob, hphase.eq_of_isSettled hsettled⟩
    rw [hu, heq]
  · intro jobs hjobs
    have hfresh : ∀ t ∈ jobs.map (fun job => ({ job } : Task α)),
        t.phase = .pending ∧ t.job.delay ≠ 0 := by
      intro t ht
      obtain ⟨job, hjob, rfl⟩ := List.mem_map.mp ht
      exact ⟨rfl, hjobs job hjob⟩
    have hcount : Task.runningCount (h.tasks ++ jobs.map fun job => ({ job } : Task α)) = 0 := by
      rw [Task.runningCount_append, hfree, Nat.zero_add]
      refine List.countP_eq_zero.mpr fun t ht hr => ?_
      rw [(hfresh t ht).1] at hr
      cases hr
    rw [foldl_submit]
    simp only [start, hcount]
    rw [Task.runningCount_startReady_fresh hs hfresh, List.length_map, hc.limit]

theorem settleAll_settles {deadline? : Option Nat} {g : TaskGroup α} (hs : g.Sound)
    (hd : ∀ deadline, deadline? = some deadline → g.clock ≤ deadline) :
    g.Settles (settleAll deadline? g.start.eventBound g.start).2 := by
  refine .of_isSettled (waitEvents_path hs hd).continues ?_
  rw [settleAll_eq_conclude (openCount_lt_eventBound g.start)]
  exact conclude_isSettled deadline? _

theorem wait_settles {g : TaskGroup α} (hs : g.Sound) : g.Settles g.wait.2 :=
  settleAll_settles hs fun _ h => nomatch h

theorem waitFor_settles {g : TaskGroup α} (hs : g.Sound) {timeout : Int} (ht : 0 < timeout) :
    g.Settles (g.waitFor timeout).2 := by
  have hw : g.waitFor timeout =
      settleAll (some (g.clock + timeout.toNat)) g.start.eventBound g.start := by
    simp only [waitFor, if_neg (Int.not_le.mpr ht)]
    rfl
  rw [hw]
  refine settleAll_settles hs ?_
  intro deadline hd
  cases hd
  exact Nat.le_add_right _ _

theorem leave_settles {g : TaskGroup α} (hs : g.Sound) (failure? : Option Failure) :
    g.Settles (g.leave failure?).2 := by
  cases failure? with
  | none => exact wait_settles hs
  | some e => exact .of_isSettled (continues_cancelAll g) fun _ => cancelAll_isSettled

/-! ## Bodies of scopes -/

def firstFailure? (answers : List (Answer α × TaskGroup α)) : Option Failure :=
  answers.findSome? fun seen =>
    match seen.1 with
    | .ok _ => none
    | .error e => some e

/-- A body fails with the first failure of its steps. -/
theorem runBody_failure (g : TaskGroup α) (body : List (Step α)) :
    (g.runBody body).2 = firstFailure? (g.run body) := by
  induction body generalizing g with
  | nil => rfl
  | cons s ss ih =>
      cases hstep : g.step s with
      | mk answer h =>
          cases answer with
          | ok r =>
              simp only [runBody, run, hstep, firstFailure?, List.findSome?_cons] at ih ⊢
              exact ih h
          | error e => simp only [runBody, run, hstep, firstFailure?, List.findSome?_cons]

/-- A body that does not fail takes all its steps. -/
theorem runBody_taken {g : TaskGroup α} {body : List (Step α)}
    (h : firstFailure? (g.run body) = none) : (g.runBody body).1 = body := by
  induction body generalizing g with
  | nil => rfl
  | cons s ss ih =>
      cases hstep : g.step s with
      | mk answer k =>
          cases answer with
          | ok r =>
              simp only [run, hstep, firstFailure?, List.findSome?_cons] at h
              simp only [runBody, hstep, ih h]
          | error e =>
              simp [run, hstep, firstFailure?] at h

end BucketStore.TaskGroup
