import BucketStore.Proofs.TaskGroup.Lemmas.History
import BucketStore.Proofs.TaskGroup.Lemmas.Scheduled

/-!
# Events of a wait on schedule

What advancing keeps holds after every event, and no event passes over a time at which one is due.
So the events of a wait on schedule come at the ends of jobs, and each job starts and ends at one of
the groups that are visited. On the way as many permits are in use as the first start takes, and
never more.
-/

namespace BucketStore

namespace Task

variable {α : Type}

/-- Starting raises the number of running tasks by the pending ones at most. -/
theorem startPeak_le (limit running : Nat) (ts : List (Task α)) :
    startPeak limit running ts ≤ running + ts.countP fun t => decide (t.phase = .pending) := by
  induction ts generalizing running with
  | nil => exact Nat.le_refl _
  | cons t ts ih =>
      rw [List.countP_cons]
      by_cases ht : t.phase = .pending ∧ running < limit
      · have hrest := ih (if t.job.delay = 0 then running else running + 1)
        have hnext : (if t.job.delay = 0 then running else running + 1) ≤ running + 1 := by
          split <;> omega
        have hpending : decide (t.phase = .pending) = true := decide_eq_true ht.1
        simp only [startPeak, if_pos ht, hpending, ↓reduceIte]
        omega
      · have hrest := ih running
        simp only [startPeak, if_neg ht]
        omega

theorem runningCount_add_pending_le (ts : List (Task α)) :
    (runningCount ts + ts.countP fun t => decide (t.phase = .pending)) ≤ ts.length := by
  induction ts with
  | nil => exact Nat.le_refl _
  | cons t ts ih =>
      rw [runningCount_cons, List.countP_cons, List.length_cons]
      cases hp : t.phase <;> simp [Phase.isRunning] <;> omega

end Task

namespace TaskGroup

open Schedule

variable {α : Type} {base : Nat} {slots : List (Slot α)} {g : TaskGroup α}
  {stops : TaskGroup α → Bool} {deadline? : Option Nat} {fuel : Nat} {p : TaskGroup α → Prop}

/-! ## Along events -/

/-- What advancing to the next event keeps holds after every event. -/
theorem events_forall (hnext : ∀ g now, p g → g.nextFinish? = some now → p (g.advance now))
    (h : p g) : ∀ k ∈ events stops deadline? fuel g, p k := by
  induction fuel generalizing g with
  | zero => exact fun _ hk => nomatch hk
  | succ fuel ih =>
      intro k hk
      rw [events] at hk
      split at hk
      · cases hk
      · split at hk
        · rename_i now hn
          split at hk
          · have hadvanced := hnext g now h hn
            rcases List.mem_cons.mp hk with rfl | hk
            · exact hadvanced
            · exact ih hadvanced k hk
          · cases hk
        · cases hk

/-- If no event passes over a time, and the events go on to it, one of them comes then. -/
theorem exists_event_at (hnext : ∀ g now, p g → g.nextFinish? = some now → p (g.advance now))
    {time : Nat}
    (hdue : ∀ g now, p g → g.clock < time → g.nextFinish? = some now → now ≤ time) (h : p g)
    (hbefore : g.clock < time)
    (hafter : time ≤ (lastOf (events stops deadline? fuel g) g).clock) :
    ∃ k ∈ events stops deadline? fuel g, k.clock = time := by
  induction fuel generalizing g with
  | zero => exact absurd hafter (Nat.not_le_of_lt hbefore)
  | succ fuel ih =>
      rw [events] at hafter ⊢
      split
      · rename_i hstop
        rw [if_pos hstop] at hafter
        exact absurd hafter (Nat.not_le_of_lt hbefore)
      · rename_i hgo
        rw [if_neg hgo] at hafter
        cases hn : g.nextFinish? with
        | none =>
            simp only [hn] at hafter
            exact absurd hafter (Nat.not_le_of_lt hbefore)
        | some now =>
            simp only [hn] at hafter ⊢
            split
            · rename_i hintime
              rw [if_pos hintime, lastOf, List.getLastD_cons] at hafter
              have hnow := hdue g now h hbefore hn
              by_cases heq : now = time
              · exact ⟨g.advance now, List.mem_cons_self, heq⟩
              · have hearly : (g.advance now).clock < time := Nat.lt_of_le_of_ne hnow heq
                obtain ⟨k, hk, hclock⟩ := ih (hnext g now h hn) hearly hafter
                exact ⟨k, List.mem_cons_of_mem _ hk, hclock⟩
            · rename_i hlate
              rw [if_neg hlate] at hafter
              exact absurd hafter (Nat.not_le_of_lt hbefore)

theorem lastOf_mem (states : List (TaskGroup α)) (g : TaskGroup α) :
    lastOf states g ∈ g :: states := by
  induction states generalizing g with
  | nil => exact List.mem_cons_self
  | cons k states ih =>
      rw [lastOf, List.getLastD_cons]
      exact List.mem_cons_of_mem g (ih k)

theorem conclude_ok {vs : List α} (h : (conclude deadline? g).1 = .ok vs) :
    (conclude deadline? g).2 = g := by
  unfold conclude at h ⊢
  split at h
  · cases h
  · rfl
  · split at h <;> cases h

/-- A wait that answers values leaves the group as it is after the last event. -/
theorem wait_ok {vs : List α} (h : g.wait.1 = .ok vs) :
    g.wait.2 = lastOf (events isOver none g.start.eventBound g.start) g.start := by
  have hwait : g.wait = conclude none (lastOf (events isOver none g.start.eventBound g.start)
      g.start) := settleAll_eq_conclude (openCount_lt_eventBound g.start)
  rw [hwait] at h ⊢
  exact conclude_ok h

theorem mem_waitEvents_of_visits {vs : List α} (h : g.wait.1 = .ok vs) {k : TaskGroup α}
    (hk : k ∈ g.visits (.step .wait)) : k ∈ g.waitEvents none := by
  rcases List.mem_append.mp hk with hk | hk
  · exact hk
  · have hlast : k = g.wait.2 := List.mem_singleton.mp hk
    rw [hlast, wait_ok h]
    exact lastOf_mem _ _

/-! ## Times of events -/

/-- The group is on schedule, and the time is the first one or the end of a job. -/
structure AtEvent (base : Nat) (slots : List (Slot α)) (g : TaskGroup α) : Prop where
  onSchedule : OnSchedule base slots g
  time : g.clock = base ∨ ∃ s ∈ slots, s.stop = g.clock

theorem AtEvent.advance {now : Nat} (h : AtEvent base slots g) (hn : g.nextFinish? = some now) :
    AtEvent base slots (g.advance now) := by
  refine ⟨h.onSchedule.advance hn, Or.inr ?_⟩
  obtain ⟨⟨t, ht, hd⟩, -⟩ := nextFinish?_eq_some hn
  rw [h.onSchedule.tasks] at ht
  obtain ⟨s, hs, rfl⟩ := List.mem_map.mp ht
  rw [Slot.finish?_taskAt] at hd
  split at hd
  · exact ⟨s, hs, Option.some.inj hd⟩
  · cases hd

/-! ## Permits in use -/

theorem start_peak_le (hpeak : g.peak ≤ g.tasks.length) : g.start.peak ≤ g.start.tasks.length := by
  have hstart := Task.startPeak_le g.limit (Task.runningCount g.tasks) g.tasks
  have hcount := Task.runningCount_add_pending_le g.tasks
  simp only [start, Task.length_startReady]
  omega

theorem advance_peak_le (hpeak : g.peak ≤ g.tasks.length) (now : Nat) :
    (g.advance now).peak ≤ (g.advance now).tasks.length := by
  rw [advance]
  refine start_peak_le ?_
  rw [List.length_map]
  exact hpeak

theorem le_advance_peak (g : TaskGroup α) (now : Nat) : g.peak ≤ (g.advance now).peak :=
  Nat.le_max_left _ _

end TaskGroup

end BucketStore
