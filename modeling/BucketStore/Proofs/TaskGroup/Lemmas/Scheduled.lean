import BucketStore.Proofs.TaskGroup.Lemmas.Greedy
import BucketStore.Proofs.TaskGroup.Lemmas.Invariant
import Mathlib.Data.List.Basic

/-!
# Groups on schedule

A group is on schedule if each of its tasks is where a greedy schedule has it at the time of the
clock. Starting and advancing keep a group on schedule; so a wait for new tasks ends with all of
them done, or at the first time at which one fails.
-/

namespace BucketStore

/-! ## Tasks of slots -/

namespace Slot

variable {α : Type} {s : Slot α} {now next : Nat}

theorem taskAt_of_lt (h : now < s.start) : s.taskAt now = { job := s.job } := by
  rw [taskAt, if_pos h]

theorem taskAt_of_le (h : s.start ≤ now) :
    s.taskAt now =
      { job := s.job
        phase := if now < s.stop then .running s.start else Task.settledPhase s.job s.start } := by
  rw [taskAt, if_neg (Nat.not_lt_of_le h)]

theorem begin_eq_taskAt (s : Slot α) :
    ({ job := s.job } : Task α).begin s.start = s.taskAt s.start := by
  rw [taskAt_of_le (Nat.le_refl _), Task.begin, stop]
  by_cases hd : s.job.delay = 0
  · rw [if_pos hd, if_neg (by omega)]
  · rw [if_neg hd, if_pos (by omega)]

theorem start?_taskAt (h : s.start ≤ now) : (s.taskAt now).phase.start? = some s.start := by
  rw [taskAt_of_le h]
  by_cases hrun : now < s.stop
  · simp [hrun, Phase.start?]
  · simpa [hrun] using Task.start?_settledPhase s.job s.start

theorem isRunning_taskAt (s : Slot α) (now : Nat) :
    (s.taskAt now).phase.isRunning = decide (s.start ≤ now ∧ now < s.stop) := by
  by_cases hs : s.start ≤ now
  · rw [taskAt_of_le hs]
    by_cases hrun : now < s.stop
    · simp [hs, hrun, Phase.isRunning]
    · simpa [hs, hrun] using
        (Phase.isSettled_iff.mp (Task.settledPhase_isSettled s.job s.start)).2
  · rw [taskAt_of_lt (Nat.lt_of_not_le hs)]
    simp [hs, Phase.isRunning]

theorem isSettled_taskAt (s : Slot α) (now : Nat) :
    (s.taskAt now).phase.isSettled = decide (s.stop ≤ now) := by
  by_cases hs : s.start ≤ now
  · rw [taskAt_of_le hs]
    by_cases hrun : now < s.stop
    · simp [hrun, Phase.isSettled]
    · have hend : s.stop ≤ now := Nat.le_of_not_lt hrun
      simpa [hrun, hend] using Task.settledPhase_isSettled s.job s.start
  · have hstop := s.start_le_stop
    rw [taskAt_of_lt (Nat.lt_of_not_le hs), decide_eq_false (by omega)]
    rfl

theorem finish?_taskAt (s : Slot α) (now : Nat) :
    (s.taskAt now).finish? = if s.start ≤ now ∧ now < s.stop then some s.stop else none := by
  split
  · rename_i h
    rw [taskAt_of_le h.1, if_pos h.2]
    rfl
  · rename_i h
    rw [← Option.not_isSome_iff_eq_none, Task.finish?_isSome_iff, isRunning_taskAt]
    simpa using h

theorem settle_taskAt (hnext : now ≤ next) (h : s.start ≤ now) :
    (s.taskAt now).settle next = s.taskAt next := by
  by_cases hrun : now < s.stop
  · rw [taskAt_of_le h, taskAt_of_le (Nat.le_trans h hnext), if_pos hrun]
    by_cases hend : s.stop ≤ next
    · rw [if_neg (Nat.not_lt_of_le hend)]
      exact if_pos hend
    · rw [if_pos (Nat.lt_of_not_le hend)]
      exact if_neg hend
  · have hidle : (s.taskAt now).phase.isRunning = false := by simp [isRunning_taskAt, hrun]
    rw [Task.settle_eq_of_not_running next hidle, taskAt_of_le h,
      taskAt_of_le (Nat.le_trans h hnext), if_neg hrun, if_neg (by omega)]

theorem failure?_taskAt (s : Slot α) (now : Nat) :
    (s.taskAt now).failure? = if s.stop ≤ now then s.job.failure? else none := by
  by_cases hs : s.start ≤ now
  · rw [taskAt_of_le hs]
    by_cases hend : s.stop ≤ now
    · rw [if_neg (Nat.not_lt_of_le hend), if_pos hend]
      cases ho : s.job.outcome <;> simp [Task.failure?, Task.settledPhase, Job.failure?, ho]
    · rw [if_pos (Nat.lt_of_not_le hend), if_neg hend]
      rfl
  · rw [taskAt_of_lt (Nat.lt_of_not_le hs), if_neg (by have := s.start_le_stop; omega)]
    rfl

theorem result?_taskAt (s : Slot α) (now : Nat) :
    (s.taskAt now).result? = if s.stop ≤ now then s.job.outcome.toOption else none := by
  by_cases hs : s.start ≤ now
  · rw [taskAt_of_le hs]
    by_cases hend : s.stop ≤ now
    · rw [if_neg (Nat.not_lt_of_le hend), if_pos hend]
      cases ho : s.job.outcome <;> simp [Task.result?, Task.settledPhase, ho, Except.toOption]
    · rw [if_pos (Nat.lt_of_not_le hend), if_neg hend]
      rfl
  · rw [taskAt_of_lt (Nat.lt_of_not_le hs), if_neg (by have := s.start_le_stop; omega)]
    rfl

end Slot

namespace Schedule

variable {α : Type} {limit base now : Nat}

/-- What runs of jobs that have all started are those which are unfinished. -/
theorem runningCount_taskAt {slots : List (Slot α)} (h : ∀ s ∈ slots, s.start ≤ now) :
    Task.runningCount (slots.map (Slot.taskAt now)) = unfinished slots now := by
  rw [Task.runningCount, List.countP_map]
  refine List.countP_congr fun s hs => ?_
  simp [Slot.isRunning_taskAt, h s hs]

/-- Waiting jobs start as the schedule says when `running` permits are taken by those before. -/
theorem startReady_waiting {before waiting : List (Slot α)}
    (h : Greedy limit base (before ++ waiting)) (hbase : base ≤ now)
    (hlater : ∀ s ∈ waiting, now ≤ s.start) :
    Task.startReady limit now (unfinished before now) (waiting.map fun s => { job := s.job }) =
      waiting.map (Slot.taskAt now) := by
  induction waiting generalizing before with
  | nil => rfl
  | cons s waiting ih =>
      by_cases hfree : unfinished before now < limit
      · have hleast := h before s waiting rfl
        have hstart : s.start = now :=
          Nat.le_antisymm (hleast.2 ⟨hbase, hfree⟩) (hlater s List.mem_cons_self)
        have hcount : (if s.job.delay = 0 then unfinished before now
            else unfinished before now + 1) = unfinished (before ++ [s]) now := by
          rw [unfinished_append, unfinished_singleton, Slot.stop, hstart]
          by_cases hd : s.job.delay = 0
          · rw [if_pos hd, if_neg (by omega), Nat.add_zero]
          · rw [if_neg hd, if_pos (by omega)]
        have hrest := @ih (before ++ [s]) (by simpa using h)
          fun t ht => hlater t (List.mem_cons_of_mem s ht)
        simp only [List.map_cons, Task.startReady, hfree, and_self, ↓reduceIte, hcount, hrest]
        rw [← hstart, Slot.begin_eq_taskAt]
      · -- No permit is free now, and no more are free to those behind.
        rw [Task.startReady_of_full now (Nat.le_of_not_lt hfree)]
        refine List.map_congr_left fun t ht => ?_
        obtain ⟨first, rest, hsplit⟩ := List.append_of_mem ht
        rw [hsplit, ← List.append_assoc] at h
        have hopen := free_append_subset before first (h _ t rest rfl).1
        have hne : now ≠ t.start := fun heq => hfree (heq ▸ hopen.2)
        exact (Slot.taskAt_of_lt (Nat.lt_of_le_of_ne (hlater t ht) hne)).symm

end Schedule

/-- Tasks that are not pending are passed over. -/
theorem Task.startReady_append {α : Type} (limit now running : Nat) {ts : List (Task α)}
    (h : ∀ t ∈ ts, t.phase ≠ .pending) (us : List (Task α)) :
    startReady limit now running (ts ++ us) = ts ++ startReady limit now running us := by
  induction ts with
  | nil => rfl
  | cons t ts ih =>
      have ht : ¬ (t.phase = .pending ∧ running < limit) := fun hp => h t List.mem_cons_self hp.1
      rw [List.cons_append, startReady, if_neg ht,
        ih fun u hu => h u (List.mem_cons_of_mem t hu), List.cons_append]

theorem Task.exists_mapM_result? {α : Type} {ts : List (Task α)}
    (h : ∀ t ∈ ts, ∃ v, t.result? = some v) : ∃ vs, ts.mapM result? = some vs := by
  induction ts with
  | nil => exact ⟨[], rfl⟩
  | cons t ts ih =>
      obtain ⟨v, hv⟩ := h t List.mem_cons_self
      obtain ⟨vs, hvs⟩ := ih fun u hu => h u (List.mem_cons_of_mem t hu)
      exact ⟨v :: vs, by simp [List.mapM_cons, hv, hvs]⟩

namespace TaskGroup

open Schedule

variable {α : Type} {base : Nat} {slots : List (Slot α)} {g : TaskGroup α}

/-- Every task is where a greedy schedule from a time on has it. -/
structure OnSchedule (base : Nat) (slots : List (Slot α)) (g : TaskGroup α) : Prop where
  greedy : Greedy g.limit base slots
  clock : base ≤ g.clock
  tasks : g.tasks = slots.map (Slot.taskAt g.clock)

namespace OnSchedule

/-! ## Starting and advancing -/

/-- Starting brings a group on schedule if the jobs that should have started before have done so,
and no other job should have. -/
theorem of_start (started waiting : List (Slot α))
    (hgreedy : Greedy g.limit base (started ++ waiting)) (hclock : base ≤ g.clock)
    (hstarted : ∀ s ∈ started, s.start ≤ g.clock) (hwaiting : ∀ s ∈ waiting, g.clock ≤ s.start)
    (htasks : g.tasks =
      started.map (Slot.taskAt g.clock) ++ waiting.map fun s => { job := s.job }) :
    OnSchedule base (started ++ waiting) g.start := by
  refine ⟨hgreedy, hclock, ?_⟩
  have hrunning : Task.runningCount g.tasks = unfinished started g.clock := by
    have hnone : Task.runningCount (waiting.map fun s => ({ job := s.job } : Task α)) = 0 := by
      refine List.countP_eq_zero.mpr fun t ht => ?_
      obtain ⟨s, -, rfl⟩ := List.mem_map.mp ht
      exact Bool.false_ne_true
    rw [htasks, Task.runningCount_append, runningCount_taskAt hstarted, hnone, Nat.add_zero]
  have hpassed : ∀ t ∈ started.map (Slot.taskAt g.clock), t.phase ≠ .pending := by
    intro t ht hp
    obtain ⟨s, hs, rfl⟩ := List.mem_map.mp ht
    have hstart := Slot.start?_taskAt (hstarted s hs)
    rw [hp] at hstart
    cases hstart
  simp only [start, hrunning]
  rw [htasks, Task.startReady_append _ _ _ hpassed, startReady_waiting hgreedy hclock hwaiting,
    List.map_append]

theorem of_pending (hgreedy : Greedy g.limit g.clock slots)
    (htasks : g.tasks = slots.map fun s => { job := s.job }) :
    OnSchedule g.clock slots g.start :=
  of_start [] slots hgreedy (Nat.le_refl _) (fun _ h => nomatch h) (fun _ => hgreedy.base_le)
    htasks

variable (h : OnSchedule base slots g)
include h

/-- The running jobs end at the next event or later. -/
theorem le_stop {now : Nat} (hn : g.nextFinish? = some now) {s : Slot α} (hs : s ∈ slots)
    (hstart : s.start ≤ g.clock) (hrun : g.clock < s.stop) : now ≤ s.stop := by
  refine (nextFinish?_eq_some hn).2 (s.taskAt g.clock) ?_ s.stop ?_
  · rw [h.tasks]
    exact List.mem_map_of_mem hs
  · rw [Slot.finish?_taskAt, if_pos ⟨hstart, hrun⟩]

/-- No job ends between now and the next event. -/
theorem next_le_stop {now : Nat} (hn : g.nextFinish? = some now) {s : Slot α} (hs : s ∈ slots)
    (hrun : g.clock < s.stop) : now ≤ s.stop := by
  by_cases hstart : s.start ≤ g.clock
  · exact h.le_stop hn hs hstart hrun
  · have hlater := h.greedy.le_start h.clock (fun t => h.le_stop hn) s hs (Nat.lt_of_not_le hstart)
    exact Nat.le_trans hlater s.start_le_stop

theorem clock_lt_next {now : Nat} (hn : g.nextFinish? = some now) : g.clock < now := by
  obtain ⟨⟨t, ht, hd⟩, -⟩ := nextFinish?_eq_some hn
  rw [h.tasks] at ht
  obtain ⟨s, -, rfl⟩ := List.mem_map.mp ht
  rw [Slot.finish?_taskAt] at hd
  split at hd
  · rename_i hs
    rw [← Option.some.inj hd]
    exact hs.2
  · cases hd

theorem advance {now : Nat} (hn : g.nextFinish? = some now) :
    OnSchedule base slots (g.advance now) := by
  have hnow := Nat.le_of_lt (h.clock_lt_next hn)
  obtain ⟨started, waiting, rfl, hstarted, hwaiting⟩ := h.greedy.exists_split g.clock
  refine of_start started waiting h.greedy (Nat.le_trans h.clock hnow)
    (fun s hs => Nat.le_trans (hstarted s hs) hnow) ?_ ?_
  · intro s hs
    exact h.greedy.le_start h.clock (fun t => h.le_stop hn) s (List.mem_append_right _ hs)
      (hwaiting s hs)
  · simp only [h.tasks, List.map_append, List.map_map]
    refine congrArg₂ (· ++ ·) ?_ ?_
    · exact List.map_congr_left fun s hs => Slot.settle_taskAt hnow (hstarted s hs)
    · refine List.map_congr_left fun s hs => ?_
      rw [Function.comp_apply, Slot.taskAt_of_lt (hwaiting s hs)]
      rfl

/-- Without a next event all jobs have ended. -/
theorem stop_le_clock (hn : g.nextFinish? = none) : ∀ s ∈ slots, s.stop ≤ g.clock := by
  have hidle : ∀ s ∈ slots, s.start ≤ g.clock → s.stop ≤ g.clock := by
    intro s hs hstart
    refine Nat.le_of_not_lt fun hrun => ?_
    have hnone := nextFinish?_eq_none hn (s.taskAt g.clock)
      (by rw [h.tasks]; exact List.mem_map_of_mem hs)
    rw [Slot.finish?_taskAt, if_pos ⟨hstart, hrun⟩] at hnone
    cases hnone
  intro s hs
  exact hidle s hs (h.greedy.start_le h.clock hidle s hs)

/-! ## The end of a wait -/

theorem of_failure? {e : Failure} (hf : g.failure? = some e) :
    ∃ s ∈ slots, s.stop ≤ g.clock ∧ s.job.failure? = some e := by
  rw [failure?, h.tasks] at hf
  obtain ⟨t, ht, he⟩ := List.exists_of_findSome?_eq_some hf
  obtain ⟨s, hs, rfl⟩ := List.mem_map.mp ht
  rw [Slot.failure?_taskAt] at he
  split at he
  · rename_i hstop
    exact ⟨s, hs, hstop, he⟩
  · cases he

/-- Without a failure no job that fails has ended. -/
theorem clock_lt_stop (hf : g.failure? = none) {s : Slot α} (hs : s ∈ slots)
    (hfails : s.job.failure?.isSome) : g.clock < s.stop := by
  refine Nat.lt_of_not_le fun hstop => ?_
  rw [failure?, List.findSome?_eq_none_iff] at hf
  have hnone := hf (s.taskAt g.clock) (by rw [h.tasks]; exact List.mem_map_of_mem hs)
  rw [Slot.failure?_taskAt, if_pos hstop] at hnone
  rw [hnone] at hfails
  cases hfails

theorem failure?_of_stop_le (hstop : ∀ s ∈ slots, s.stop ≤ g.clock) :
    g.failure? = (slots.map Slot.job).findSome? Job.failure? := by
  rw [failure?, h.tasks, ← List.head?_filterMap, ← List.head?_filterMap, List.filterMap_map,
    List.filterMap_map]
  refine congrArg List.head? (List.filterMap_congr fun s hs => ?_)
  rw [Function.comp_apply, Function.comp_apply, Slot.failure?_taskAt, if_pos (hstop s hs)]

theorem of_results? {vs : List α} (hr : g.results? = some vs) :
    (∀ s ∈ slots, s.stop ≤ g.clock) ∧ slots.map (fun s => s.job.outcome) = vs.map .ok := by
  rw [results?, h.tasks] at hr
  clear h
  induction slots generalizing vs with
  | nil =>
      cases hr
      exact ⟨fun _ hs => (nomatch hs), rfl⟩
  | cons s slots ih =>
      simp only [List.map_cons, List.mapM_cons, Option.pure_def, Option.bind_eq_bind,
        Option.bind_eq_some_iff, Slot.result?_taskAt] at hr
      obtain ⟨v, hv, rest, hrest, hvs⟩ := hr
      cases hvs
      obtain ⟨hstop, houtcome⟩ := ih hrest
      split at hv
      · rename_i hs
        refine ⟨List.forall_mem_cons.mpr ⟨hs, hstop⟩, ?_⟩
        rw [List.map_cons, List.map_cons, houtcome]
        cases ho : s.job.outcome with
        | ok w =>
            rw [ho] at hv
            cases hv
            rfl
        | error e =>
            rw [ho] at hv
            cases hv
      · cases hv

/-- Once all jobs have ended there is a failure, or there are results. -/
theorem isOver_of_stop_le (hstop : ∀ s ∈ slots, s.stop ≤ g.clock) (hf : g.failure? = none) :
    ∃ vs, g.results? = some vs := by
  have hok : ∀ t ∈ g.tasks, ∃ v, t.result? = some v := by
    intro t ht
    rw [h.tasks] at ht
    obtain ⟨s, hs, rfl⟩ := List.mem_map.mp ht
    rw [Slot.result?_taskAt, if_pos (hstop s hs)]
    cases ho : s.job.outcome with
    | ok v => exact ⟨v, rfl⟩
    | error e =>
        have hlate := h.clock_lt_stop hf hs (by simp [Job.failure?, ho])
        exact absurd (hstop s hs) (Nat.not_le_of_lt hlate)
  exact Task.exists_mapM_result? hok

end OnSchedule

/-- How a wait for scheduled jobs ends at a group: with the values of all of them, or with a failure
that comes first. -/
inductive WaitEnds (slots : List (Slot α)) (g : TaskGroup α) : Result (List α) × TaskGroup α → Prop
  | done {vs : List α} : (∀ s ∈ slots, s.stop ≤ g.clock) →
      slots.map (fun s => s.job.outcome) = vs.map .ok → WaitEnds slots g (.ok vs, g)
  | failed {e : Failure} {s : Slot α} : g.failure? = some e → s ∈ slots →
      s.job.failure? = some e →
      (∀ other ∈ slots, other.job.failure?.isSome → s.stop ≤ other.stop) →
      WaitEnds slots g (.error e, g.cancelAll)

/-- While no job that fails has ended before the clock, a wait goes on to its end on schedule. -/
theorem settleAll_ends {fuel : Nat} (h : OnSchedule base slots g)
    (hfuel : Task.openCount g.tasks < fuel)
    (hfails : ∀ s ∈ slots, s.job.failure?.isSome → g.clock ≤ s.stop) :
    ∃ k, OnSchedule base slots k ∧ WaitEnds slots k (settleAll none fuel g) := by
  induction fuel generalizing g with
  | zero => exact (Nat.not_lt_zero _ hfuel).elim
  | succ fuel ih =>
      cases hf : g.failure? with
      | some e =>
          obtain ⟨s, hs, hstop, he⟩ := h.of_failure? hf
          refine ⟨g, h, ?_⟩
          simp only [settleAll, hf]
          exact .failed hf hs he fun other ho hfail => Nat.le_trans hstop (hfails other ho hfail)
      | none =>
          cases hr : g.results? with
          | some vs =>
              obtain ⟨hstop, houtcome⟩ := h.of_results? hr
              refine ⟨g, h, ?_⟩
              simp only [settleAll, hf, hr]
              exact .done hstop houtcome
          | none =>
              cases hn : g.nextFinish? with
              | none =>
                  obtain ⟨vs, hvs⟩ := h.isOver_of_stop_le (h.stop_le_clock hn) hf
                  rw [hr] at hvs
                  cases hvs
              | some now =>
                  have hopen := openCount_advance_lt hn
                  simp only [settleAll, hf, hr, hn]
                  refine ih (h.advance hn) (by omega) fun s hs hfail => ?_
                  exact h.next_le_stop hn hs (h.clock_lt_stop hf hs hfail)

/-- Jobs run in a group without tasks are scheduled greedily, and the wait for them ends on
schedule. -/
theorem runAll_ends (hempty : g.tasks = []) (jobs : List (Job α)) :
    ∃ slots k, slots.map Slot.job = jobs ∧ Greedy g.limit g.clock slots ∧
      OnSchedule g.clock slots k ∧ WaitEnds slots k (g.runAll jobs) := by
  obtain ⟨slots, rfl, hgreedy⟩ := Greedy.exists_slots g.limit_pos g.clock jobs
  have hstart : OnSchedule g.clock slots
      (start { g with tasks := slots.map fun s => { job := s.job } }) :=
    @OnSchedule.of_pending _ _ { g with tasks := slots.map fun s => { job := s.job } } hgreedy rfl
  obtain ⟨k, hk, hends⟩ := settleAll_ends hstart (openCount_lt_eventBound _) fun s hs _ =>
    Nat.le_trans (hgreedy.base_le hs) s.start_le_stop
  refine ⟨slots, k, rfl, hgreedy, hk, ?_⟩
  rw [runAll, foldl_submit, hempty, List.nil_append, List.map_map]
  exact hends

/-- The failure with which a wait ends comes first. -/
theorem WaitEnds.failsFirst {k : TaskGroup α} {e : Failure} (hk : OnSchedule base slots k)
    {limit : Nat} (hgreedy : Greedy limit base slots) {later : TaskGroup α}
    (hends : WaitEnds slots k (.error e, later)) :
    FailsFirst limit base (slots.map Slot.job) e := by
  cases hends with
  | @failed _ s hf hs he hfirst =>
      refine ⟨⟨slots, rfl, hgreedy, s, hs, he, hfirst⟩, ?_, fun hdelay => ?_⟩
      · -- There is one greedy schedule of the jobs, so this is the one on which the wait ran.
        intro others hjobs hothers t ht hlast hfails
        obtain rfl := hothers.unique hgreedy hjobs
        by_cases heq : s = t
        · rw [← heq, he]
        · exact absurd (hfirst t ht hfails) (Nat.not_le_of_lt (hlast s hs (by simp [he]) heq))
      · have hstop : ∀ s ∈ slots, s.stop ≤ k.clock := by
          intro s hs
          have hzero := hdelay s.job (List.mem_map_of_mem hs)
          have hbase := hgreedy.start_eq_base (fun t ht => hdelay t.job (List.mem_map_of_mem ht)) hs
          rw [Slot.stop, hbase, hzero]
          exact hk.clock
        rw [← hk.failure?_of_stop_le hstop, hf]

end TaskGroup

end BucketStore
