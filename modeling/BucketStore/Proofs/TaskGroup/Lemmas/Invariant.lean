import BucketStore.Proofs.TaskGroup.Lemmas.Start

/-!
# The invariant of a task group

`Sound` is what holds of a group at any time: the permits in use are within the peak and the peak
within the limit, tasks have started in order and not in the future, and none is overdue. `Busy` is
what starting adds: something waits only while every permit is in use. Each operation is shown to
keep `Sound`, and to carry every task on its way (`Continues`).
-/

namespace BucketStore

namespace Task

variable {α : Type}

/-! ## What settling does to a task -/

theorem finish?_begin {t : Task α} {now time : Nat} (h : (t.begin now).finish? = some time) :
    now < time := by
  obtain ⟨start, hp, rfl⟩ := finish?_eq_some h
  have hs := start?_begin t now
  have hr := isRunning_begin t now
  simp only [hp, Phase.start?, Option.some.injEq] at hs
  simp only [hp, Phase.isRunning, ne_eq, Bool.true_eq, decide_eq_true_eq] at hr
  have hj : (t.begin now).job = t.job := rfl
  rw [hs, hj]
  omega

theorem start?_settle (now : Nat) (t : Task α) :
    (t.settle now).phase.start? = t.phase.start? := by
  unfold settle
  split
  · rename_i start hp
    split
    · rw [hp]
      exact start?_settledPhase t.job start
    · rfl
  · rfl

theorem settle_pending_iff (now : Nat) (t : Task α) :
    (t.settle now).phase = .pending ↔ t.phase = .pending := by
  unfold settle
  split
  · rename_i start hp
    split
    · have hs := settledPhase_isSettled t.job start
      constructor
      · intro he
        simp only at he
        rw [he] at hs
        cases hs
      · intro he
        rw [hp] at he
        cases he
    · rfl
  · rfl

/-- What still runs after settling is due later. -/
theorem finish?_settle {t : Task α} {now time : Nat} (h : (t.settle now).finish? = some time) :
    t.finish? = some time ∧ now < time := by
  unfold settle at h
  split at h
  · rename_i start hp
    split at h
    · obtain ⟨s, hs, _⟩ := finish?_eq_some h
      have hset := settledPhase_isSettled t.job start
      simp only at hs
      rw [hs] at hset
      cases hset
    · rename_i hlate
      obtain ⟨s, hs, rfl⟩ := finish?_eq_some h
      rw [hp] at hs
      cases hs
      exact ⟨h, by omega⟩
  · rename_i hno
    obtain ⟨s, hs, _⟩ := finish?_eq_some h
    exact (hno s hs).elim

theorem settle_isSettled {t : Task α} {now time : Nat} (h : t.finish? = some time)
    (hle : time ≤ now) : (t.settle now).phase.isSettled = true := by
  obtain ⟨start, hp, rfl⟩ := finish?_eq_some h
  simp only [settle, hp, if_pos hle]
  exact settledPhase_isSettled t.job start

theorem isSettled_settle {t : Task α} (now : Nat) (h : t.phase.isSettled = true) :
    (t.settle now).phase.isSettled = true := by
  rw [settle_eq_of_not_running now (Phase.isSettled_iff.mp h).2]
  exact h

theorem isRunning_of_isRunning_settle {t : Task α} {now : Nat}
    (h : (t.settle now).phase.isRunning = true) : t.phase.isRunning = true := by
  rw [← finish?_isSome_iff] at h ⊢
  obtain ⟨time, ht⟩ := Option.isSome_iff_exists.mp h
  rw [(finish?_settle ht).1]
  rfl

theorem runningCount_map_settle_le (now : Nat) (ts : List (Task α)) :
    runningCount (ts.map (settle now)) ≤ runningCount ts := by
  unfold runningCount
  rw [List.countP_map]
  exact List.countP_mono_left fun t _ h => isRunning_of_isRunning_settle h

/-! ## How much is left to do -/

/-- How many tasks have not settled. -/
def openCount (ts : List (Task α)) : Nat :=
  ts.countP fun t => !t.phase.isSettled

theorem openCount_map_settle_le (now : Nat) (ts : List (Task α)) :
    openCount (ts.map (settle now)) ≤ openCount ts := by
  unfold openCount
  rw [List.countP_map]
  refine List.countP_mono_left fun t _ h => ?_
  cases hs : t.phase.isSettled with
  | false => rfl
  | true =>
      simp only [Function.comp_apply, isSettled_settle now hs] at h
      cases h

theorem openCount_map_settle_lt {now : Nat} {ts : List (Task α)} {t : Task α} (ht : t ∈ ts)
    (h : t.finish? = some now) : openCount (ts.map (settle now)) < openCount ts := by
  obtain ⟨before, after, rfl⟩ := List.append_of_mem ht
  have hbefore := openCount_map_settle_le now before
  have hafter := openCount_map_settle_le now after
  have hopen : t.phase.isSettled = false := by
    obtain ⟨start, hp, _⟩ := finish?_eq_some h
    rw [hp]
    rfl
  have hset := settle_isSettled h (Nat.le_refl now)
  simp only [openCount, List.map_append, List.map_cons, List.countP_append, List.countP_cons, hset,
    hopen, Bool.not_true, Bool.not_false, Bool.false_eq_true, ↓reduceIte] at hbefore hafter ⊢
  omega

theorem openCount_startReady_le (limit now running : Nat) (ts : List (Task α)) :
    openCount (startReady limit now running ts) ≤ openCount ts := by
  unfold openCount
  induction ts generalizing running with
  | nil => exact Nat.le_refl _
  | cons t ts ih =>
      simp only [startReady]
      split
      · rename_i ht
        have hi := ih (if t.job.delay = 0 then running else running + 1)
        have hopen : t.phase.isSettled = false := by rw [ht.1]; rfl
        simp only [List.countP_cons, hopen, Bool.not_false, ↓reduceIte]
        exact Nat.add_le_add hi (by split <;> omega)
      · simp only [List.countP_cons]
        exact Nat.add_le_add_right (ih running) _

end Task

namespace TaskGroup

variable {α : Type}

/-! ## The invariant -/

/-- What holds of a group at any time. -/
structure Sound (g : TaskGroup α) : Prop where
  within : Task.runningCount g.tasks ≤ g.peak
  peak : g.peak ≤ g.limit
  order : Task.InOrder g.tasks
  started : ∀ t ∈ g.tasks, ∀ start, t.phase.start? = some start → start ≤ g.clock
  due : ∀ t ∈ g.tasks, ∀ time, t.finish? = some time → g.clock < time

/-- A task waits only while all permits are in use. -/
def Busy (g : TaskGroup α) : Prop :=
  ∀ t ∈ g.tasks, t.phase = .pending → Task.runningCount g.tasks = g.limit

/-- The same group, further on its way: every task is still there. -/
structure Continues (g h : TaskGroup α) : Prop where
  limit : h.limit = g.limit
  clock : g.clock ≤ h.clock
  task : ∀ (i : Nat) (t : Task α), g.tasks[i]? = some t →
    ∃ u, h.tasks[i]? = some u ∧ t.Becomes u

theorem Continues.refl (g : TaskGroup α) : g.Continues g :=
  ⟨rfl, Nat.le_refl _, fun _ t ht => ⟨t, ht, .refl t⟩⟩

theorem Continues.trans {g h k : TaskGroup α} (hgh : g.Continues h) (hhk : h.Continues k) :
    g.Continues k := by
  refine ⟨hhk.limit.trans hgh.limit, Nat.le_trans hgh.clock hhk.clock, ?_⟩
  intro i t ht
  obtain ⟨u, hu, htu⟩ := hgh.task i t ht
  obtain ⟨v, hv, huv⟩ := hhk.task i u hu
  exact ⟨v, hv, htu.trans huv⟩

/-- A group whose tasks all move on by one function. -/
theorem Continues.of_map {g h : TaskGroup α} {f : Task α → Task α} (hlimit : h.limit = g.limit)
    (hclock : g.clock ≤ h.clock) (htasks : h.tasks = g.tasks.map f)
    (hf : ∀ t, Task.Becomes t (f t)) :
    g.Continues h := by
  refine ⟨hlimit, hclock, ?_⟩
  intro i t ht
  refine ⟨f t, ?_, hf t⟩
  rw [htasks, List.getElem?_map, ht]
  rfl

/-! ## Submitting -/

theorem Sound.submit {g : TaskGroup α} (h : g.Sound) (job : Job α) : (g.submit job).Sound := by
  have hfresh : ∀ t ∈ (g.submit job).tasks, t ∈ g.tasks ∨ t = { job } := by
    intro t ht
    rcases List.mem_append.mp ht with ht | ht
    · exact Or.inl ht
    · exact Or.inr (List.mem_singleton.mp ht)
  refine ⟨?_, h.peak, h.order.append_pending (by simp), ?_, ?_⟩
  · have hcount : Task.runningCount (g.submit job).tasks = Task.runningCount g.tasks :=
      Task.runningCount_append g.tasks [{ job }]
    exact hcount ▸ h.within
  · intro t ht start hs
    rcases hfresh t ht with ht | rfl
    · exact h.started t ht start hs
    · cases hs
  · intro t ht time hd
    rcases hfresh t ht with ht | rfl
    · exact h.due t ht time hd
    · cases hd

theorem continues_submit (g : TaskGroup α) (job : Job α) : g.Continues (g.submit job) := by
  refine ⟨rfl, Nat.le_refl _, ?_⟩
  intro i t ht
  refine ⟨t, ?_, .refl t⟩
  simp only [submit]
  rw [List.getElem?_append_left (List.getElem?_eq_some_iff.mp ht).1, ht]

theorem foldl_submit (g : TaskGroup α) (jobs : List (Job α)) :
    jobs.foldl submit g = { g with tasks := g.tasks ++ jobs.map fun job => { job } } := by
  induction jobs generalizing g with
  | nil => simp
  | cons job jobs ih =>
      rw [List.foldl_cons, ih]
      simp [submit]

/-! ## Starting -/

theorem Sound.start {g : TaskGroup α} (h : g.Sound) : g.start.Sound := by
  obtain ⟨used, hcount, hused, hpeak, _⟩ :=
    Task.startReady_permits g.clock g.tasks (Nat.le_trans h.within h.peak)
  refine ⟨?_, Nat.max_le.mpr ⟨h.peak, hpeak⟩, h.order.startReady _ _ _, ?_, ?_⟩
  · refine Nat.le_trans ?_ (Nat.le_max_right _ _)
    simp only [TaskGroup.start]
    omega
  · intro u hu start hs
    obtain ⟨t, ht, rfl | ⟨_, rfl⟩⟩ := Task.mem_startReady hu
    · exact h.started u ht start hs
    · rw [Task.start?_begin] at hs
      exact Nat.le_of_eq (Option.some.inj hs).symm
  · intro u hu time hd
    obtain ⟨t, ht, rfl | ⟨_, rfl⟩⟩ := Task.mem_startReady hu
    · exact h.due u ht time hd
    · exact Task.finish?_begin hd

theorem Sound.busy_start {g : TaskGroup α} (h : g.Sound) : g.start.Busy := by
  obtain ⟨used, hcount, _, _, hleft⟩ :=
    Task.startReady_permits g.clock g.tasks (Nat.le_trans h.within h.peak)
  intro u hu hp
  have hfull := hleft u hu hp
  simp only [TaskGroup.start]
  omega

theorem continues_start (g : TaskGroup α) : g.Continues g.start := by
  refine ⟨rfl, Nat.le_refl _, ?_⟩
  intro i t ht
  obtain ⟨u, hu, rfl | ⟨hp, rfl⟩⟩ := Task.startReady_getElem? g.limit g.clock
    (Task.runningCount g.tasks) ht
  · exact ⟨u, hu, .refl u⟩
  · exact ⟨_, hu, Task.begin_becomes hp _⟩

/-! ## Passing time -/

theorem nextFinish?_eq_some {g : TaskGroup α} {now : Nat} (h : g.nextFinish? = some now) :
    (∃ t ∈ g.tasks, t.finish? = some now) ∧
      ∀ t ∈ g.tasks, ∀ time, t.finish? = some time → now ≤ time := by
  obtain ⟨hmem, hmin⟩ := List.min?_eq_some_iff.mp h
  refine ⟨List.mem_filterMap.mp hmem, ?_⟩
  intro t ht time hd
  exact hmin time (List.mem_filterMap.mpr ⟨t, ht, hd⟩)

theorem nextFinish?_eq_none {g : TaskGroup α} (h : g.nextFinish? = none) :
    ∀ t ∈ g.tasks, t.finish? = none :=
  List.filterMap_eq_nil_iff.mp (List.min?_eq_none_iff.mp h)

/-- The group with what is due at a time settled. -/
def settleDue (g : TaskGroup α) (now : Nat) : TaskGroup α :=
  { g with clock := now, tasks := g.tasks.map (Task.settle now) }

theorem Sound.settleDue {g : TaskGroup α} (h : g.Sound) {now : Nat} (hnow : g.clock ≤ now) :
    (g.settleDue now).Sound := by
  refine ⟨?_, h.peak, h.order.map (Task.settle_pending_iff now), ?_, ?_⟩
  · exact Nat.le_trans (Task.runningCount_map_settle_le now g.tasks) h.within
  · intro u hu start hs
    obtain ⟨t, ht, rfl⟩ := List.mem_map.mp hu
    rw [Task.start?_settle] at hs
    exact Nat.le_trans (h.started t ht start hs) hnow
  · intro u hu time hd
    obtain ⟨t, _, rfl⟩ := List.mem_map.mp hu
    exact (Task.finish?_settle hd).2

theorem Sound.advance {g : TaskGroup α} (h : g.Sound) {now : Nat} (hnow : g.clock ≤ now) :
    (g.advance now).Sound :=
  (h.settleDue hnow).start

theorem Sound.busy_advance {g : TaskGroup α} (h : g.Sound) {now : Nat} (hnow : g.clock ≤ now) :
    (g.advance now).Busy :=
  (h.settleDue hnow).busy_start

theorem continues_advance (g : TaskGroup α) {now : Nat} (hnow : g.clock ≤ now) :
    g.Continues (g.advance now) := by
  have hsettle : g.Continues (g.settleDue now) :=
    .of_map rfl hnow rfl (Task.settle_becomes now)
  exact hsettle.trans (continues_start _)

/-- The next event is not in the past. -/
theorem Sound.clock_le_nextFinish? {g : TaskGroup α} (h : g.Sound) {now : Nat}
    (hn : g.nextFinish? = some now) : g.clock ≤ now := by
  obtain ⟨⟨t, ht, hd⟩, _⟩ := nextFinish?_eq_some hn
  exact Nat.le_of_lt (h.due t ht now hd)

/-- An event settles a task. -/
theorem openCount_advance_lt {g : TaskGroup α} {now : Nat} (hn : g.nextFinish? = some now) :
    Task.openCount (g.advance now).tasks < Task.openCount g.tasks := by
  obtain ⟨⟨t, ht, hd⟩, _⟩ := nextFinish?_eq_some hn
  exact Nat.lt_of_le_of_lt (Task.openCount_startReady_le _ _ _ _)
    (Task.openCount_map_settle_lt ht hd)

theorem openCount_lt_eventBound (g : TaskGroup α) : Task.openCount g.tasks < g.eventBound :=
  Nat.lt_succ_of_le List.countP_le_length

/-- Time passes without an event. -/
theorem Sound.wait {g : TaskGroup α} (h : g.Sound) {time : Nat} (htime : g.clock ≤ time)
    (hnext : ∀ now, g.nextFinish? = some now → time < now) :
    Sound { g with clock := time } := by
  refine ⟨h.within, h.peak, h.order, ?_, ?_⟩
  · intro t ht start hs
    exact Nat.le_trans (h.started t ht start hs) htime
  · intro t ht finish hd
    cases hn : g.nextFinish? with
    | none =>
        rw [nextFinish?_eq_none hn t ht] at hd
        cases hd
    | some now => exact Nat.lt_of_lt_of_le (hnext now hn) ((nextFinish?_eq_some hn).2 t ht finish hd)

/-! ## Cancelling -/

theorem cancelAll_isSettled {g : TaskGroup α} {t : Task α} (ht : t ∈ g.cancelAll.tasks) :
    t.phase.isSettled = true := by
  obtain ⟨s, _, rfl⟩ := List.mem_map.mp ht
  exact Phase.cancel_isSettled s.phase

theorem continues_cancelAll (g : TaskGroup α) : g.Continues g.cancelAll :=
  .of_map rfl (Nat.le_refl _) rfl Task.cancel_becomes

theorem runningCount_eq_zero {ts : List (Task α)} (h : ∀ t ∈ ts, t.phase.isSettled = true) :
    Task.runningCount ts = 0 := by
  refine List.countP_eq_zero.mpr fun t ht hr => ?_
  rw [(Phase.isSettled_iff.mp (h t ht)).2] at hr
  cases hr

theorem Sound.cancelAll {g : TaskGroup α} (h : g.Sound) : g.cancelAll.Sound := by
  have hsettled : ∀ t ∈ g.cancelAll.tasks, t.phase.isSettled = true := fun _ => cancelAll_isSettled
  refine ⟨?_, h.peak, ?_, ?_, ?_⟩
  · rw [runningCount_eq_zero hsettled]
    exact Nat.zero_le _
  · exact List.pairwise_of_forall_mem_list fun t ht _ _ hp =>
      ((Phase.isSettled_iff.mp (hsettled t ht)).1 hp).elim
  · intro u hu start hs
    obtain ⟨t, ht, rfl⟩ := List.mem_map.mp hu
    have hkeep : t.phase.cancel.start? = t.phase.start? := by cases t.phase <;> rfl
    exact h.started t ht start (hkeep ▸ hs)
  · intro u hu time hd
    have hr := (Phase.isSettled_iff.mp (hsettled u hu)).2
    rw [← Task.finish?_isSome_iff, hd] at hr
    cases hr

end TaskGroup

end BucketStore
