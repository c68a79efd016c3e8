import BucketStore.Proofs.TaskGroup.Lemmas.Waits

/-!
# List scheduling

Jobs that are submitted at one time to a group without tasks, and waited for, run by the greedy
schedule: a job starts when the schedule starts it, ends when its time is over, and the wait answers
when the last one ends.
-/

namespace BucketStore.TaskGroup

open Schedule

variable {α : Type} {slots : List (Slot α)} {values : List α} {g : TaskGroup α}

/-- How a wait goes by a schedule of the jobs that were submitted. At every event each task is where
the schedule has it; there are events at the start and at the end of each job; the values come in
the order of submission when the last job ends; and as many jobs run at once as there are permits or
jobs, never more. -/
structure WaitsBy (base : Nat) (slots : List (Slot α)) (values : List α) (g : TaskGroup α) :
    Prop where
  tasks : ∀ k ∈ g.visits (.step .wait), k.tasks = slots.map (Slot.taskAt k.clock)
  starts : ∀ s ∈ slots, ∃ k ∈ g.visits (.step .wait), k.clock = s.start
  stops : ∀ s ∈ slots, ∃ k ∈ g.visits (.step .wait), k.clock = s.stop
  answer : g.wait.1 = .ok values
  clock : IsGreatest (insert base {time | ∃ s ∈ slots, s.stop = time}) g.wait.2.clock
  busiest : IsGreatest {n | ∃ k ∈ g.visits (.step .wait), Task.runningCount k.tasks = n}
    (min g.limit slots.length)
  peak : g.wait.2.peak = min g.limit slots.length

/-! ## Jobs that were submitted -/

/-- The group holds the jobs of a greedy schedule from now on, of which none has started yet. All of
them take time and come to values. -/
structure Submitted (slots : List (Slot α)) (values : List α) (g : TaskGroup α) : Prop where
  sound : g.Sound
  greedy : Greedy g.limit g.clock slots
  tasks : g.tasks = slots.map fun s => { job := s.job }
  peak : g.peak = 0
  delays : ∀ s ∈ slots, 0 < s.job.delay
  outcomes : slots.map (fun s => s.job.outcome) = values.map .ok

namespace Submitted

variable (h : Submitted slots values g)
include h

theorem onSchedule : OnSchedule g.clock slots g.start :=
  .of_pending h.greedy h.tasks

theorem failure?_eq_none {s : Slot α} (hs : s ∈ slots) : s.job.failure? = none := by
  have hmem : s.job.outcome ∈ values.map Except.ok := by
    rw [← h.outcomes]
    exact List.mem_map_of_mem hs
  obtain ⟨v, -, hv⟩ := List.mem_map.mp hmem
  rw [Job.failure?, ← hv]

theorem wait_answers : g.wait.1 = .ok values ∧ ∀ s ∈ slots, s.stop ≤ g.wait.2.clock := by
  obtain ⟨k, -, hends⟩ := settleAll_ends h.onSchedule (openCount_lt_eventBound _)
    fun s hs hfails => by
      rw [h.failure?_eq_none hs] at hfails
      cases hfails
  have hwait : settleAll none g.start.eventBound g.start = g.wait := rfl
  rw [hwait] at hends
  generalize g.wait = answered at hends
  cases hends with
  | done hstop houtcomes =>
      rw [h.outcomes] at houtcomes
      have hvalues := List.map_injective_iff.mpr (fun _ _ => Except.ok.inj) houtcomes
      exact ⟨congrArg _ hvalues.symm, hstop⟩
  | failed _ hs he _ =>
      rw [h.failure?_eq_none hs] at he
      cases he

/-! ## What is visited -/

theorem visits_forall {p : TaskGroup α → Prop}
    (hnext : ∀ g now, p g → g.nextFinish? = some now → p (g.advance now)) (hstart : p g.start) :
    ∀ k ∈ g.visits (.step .wait), p k := by
  intro k hk
  rcases List.mem_cons.mp (mem_waitEvents_of_visits h.wait_answers.1 hk) with rfl | hk
  · exact hstart
  · exact events_forall hnext hstart k hk

theorem atEvent_of_visits : ∀ k ∈ g.visits (.step .wait), AtEvent g.clock slots k :=
  h.visits_forall (fun _ _ => AtEvent.advance) ⟨h.onSchedule, .inl rfl⟩

theorem exists_visit_at {time : Nat} (hfirst : g.clock ≤ time) (hlast : time ≤ g.wait.2.clock)
    (hdue : ∀ k now, OnSchedule g.clock slots k → k.clock < time → k.nextFinish? = some now →
      now ≤ time) :
    ∃ k ∈ g.visits (.step .wait), k.clock = time := by
  by_cases heq : g.clock = time
  · exact ⟨g.start, List.mem_cons_self, heq⟩
  · rw [wait_ok h.wait_answers.1] at hlast
    obtain ⟨k, hk, hclock⟩ := exists_event_at (fun _ _ hk => hk.advance) hdue h.onSchedule
      (Nat.lt_of_le_of_ne hfirst heq) hlast
    exact ⟨k, List.mem_append_left _ (List.mem_cons_of_mem _ hk), hclock⟩

/-! ## Permits -/

theorem runningCount_start : Task.runningCount g.start.tasks = min g.limit slots.length := by
  have hidle : Task.runningCount g.tasks = 0 :=
    Nat.le_zero.mp (h.peak ▸ h.sound.within)
  have hpending : ∀ t ∈ g.tasks, t.phase = .pending ∧ t.job.delay ≠ 0 := by
    intro t ht
    rw [h.tasks] at ht
    obtain ⟨s, hs, rfl⟩ := List.mem_map.mp ht
    exact ⟨rfl, Nat.ne_of_gt (h.delays s hs)⟩
  rw [start, hidle, Task.runningCount_startReady_pending hpending, h.tasks, List.length_map,
    Nat.sub_zero]

theorem peak_le_of_visits : ∀ k ∈ g.visits (.step .wait), k.peak ≤ min g.limit slots.length := by
  intro k hk
  have hpath := perform_path h.sound (.step .wait)
  have hsound := hpath.sound h.sound k (List.mem_cons_of_mem g hk)
  have hlimit := ((List.pairwise_cons.mp hpath.pairwise).1 k hk).limit
  have hlength : k.peak ≤ k.tasks.length :=
    h.visits_forall (p := fun k => k.peak ≤ k.tasks.length)
      (fun _ now hk _ => advance_peak_le hk now) (start_peak_le (h.peak ▸ Nat.zero_le _)) k hk
  rw [(h.atEvent_of_visits k hk).onSchedule.tasks, List.length_map] at hlength
  exact Nat.le_min.mpr ⟨hlimit ▸ hsound.peak, hlength⟩

theorem runningCount_le_of_visits :
    ∀ k ∈ g.visits (.step .wait), Task.runningCount k.tasks ≤ min g.limit slots.length := by
  intro k hk
  have hsound := (perform_path h.sound (.step .wait)).sound h.sound k (List.mem_cons_of_mem g hk)
  exact Nat.le_trans hsound.within (h.peak_le_of_visits k hk)

/-- The first start takes as many permits as are ever in use. -/
theorem wait_peak : g.wait.2.peak = min g.limit slots.length := by
  have hlast := perform_mem_visits g (.step .wait)
  have hleast : Task.runningCount g.start.tasks ≤ g.wait.2.peak :=
    h.visits_forall (p := fun k => Task.runningCount g.start.tasks ≤ k.peak)
      (fun k now hk _ => Nat.le_trans hk (le_advance_peak k now)) h.sound.start.within _ hlast
  rw [h.runningCount_start] at hleast
  exact Nat.le_antisymm (h.peak_le_of_visits _ hlast) hleast

theorem waitsBy : WaitsBy g.clock slots values g := by
  obtain ⟨hanswer, hstops⟩ := h.wait_answers
  have hends := h.atEvent_of_visits _ (perform_mem_visits g (.step .wait))
  refine ⟨fun k hk => (h.atEvent_of_visits k hk).onSchedule.tasks, ?_, ?_, hanswer, ⟨hends.time, ?_⟩,
    ⟨⟨g.start, List.mem_cons_self, h.runningCount_start⟩, ?_⟩, h.wait_peak⟩
  · intro s hs
    refine h.exists_visit_at (h.greedy.base_le hs) (Nat.le_trans s.start_le_stop (hstops s hs)) ?_
    exact fun k now hk hlater hn =>
      hk.greedy.le_start hk.clock (fun t => hk.le_stop hn) s hs hlater
  · intro s hs
    refine h.exists_visit_at (Nat.le_trans (h.greedy.base_le hs) s.start_le_stop) (hstops s hs) ?_
    exact fun k now hk hlater hn => hk.next_le_stop hn hs hlater
  · rintro time (rfl | ⟨s, hs, rfl⟩)
    · exact hends.onSchedule.clock
    · exact hstops s hs
  · rintro n ⟨k, hk, rfl⟩
    exact h.runningCount_le_of_visits k hk

end Submitted

/-! ## Submitting at one time -/

theorem after_submits (g : TaskGroup α) (jobs : List (Job α)) :
    g.after (jobs.map fun job => .step (.submit job)) =
      { g with tasks := g.tasks ++ jobs.map fun job => { job } } := by
  rw [← foldl_submit]
  induction jobs generalizing g with
  | nil => rfl
  | cons job jobs ih => exact ih (g.submit job)

theorem sleep_of_empty (h : g.tasks = []) (duration : Nat) :
    g.sleep duration = { g with clock := g.clock + duration } := by
  obtain ⟨limit, pos, clock, tasks, peak⟩ := g
  cases h
  simp [sleep, start, runUntil, eventBound, nextFinish?, Task.startReady, Task.startPeak,
    Task.runningCount]

theorem clock_of_new {limit : Int} (h : new limit = .ok g) : g.clock = 0 := by
  unfold new at h
  split at h
  · cases h
    rfl
  · cases h

/-- Whenever jobs that take time and do not fail are submitted to a new group of a positive limit,
and waited for, they run by the greedy schedule of the limit from that time on. -/
theorem wait_schedules (limit : Int) (pos : 0 < limit) (idle : Nat) {jobs : List (Job α)}
    {values : List α} (delays : ∀ job ∈ jobs, 0 < job.delay)
    (outcomes : jobs.map Job.outcome = values.map .ok) :
    ∃ (g : TaskGroup α) (slots : List (Slot α)), new limit = .ok g ∧ (g.limit : Int) = limit ∧
      slots.map Slot.job = jobs ∧ Greedy g.limit idle slots ∧
      WaitsBy idle slots values
        (g.after (.step (.sleep idle) :: jobs.map fun job => .step (.submit job))) := by
  obtain ⟨g, hnew, hlimit, htasks, hpeak⟩ := new_of_pos (α := α) pos
  obtain ⟨slots, rfl, hgreedy⟩ := Greedy.exists_slots g.limit_pos idle jobs
  refine ⟨g, slots, hnew, hlimit, rfl, hgreedy, ?_⟩
  have hempty := sound_of_empty htasks hpeak
  have hsound := (history_path hempty
    (.step (.sleep idle) :: (slots.map Slot.job).map fun job => .step (.submit job))).sound_last
    hempty
  have hgroup : g.after
        (.step (.sleep idle) :: (slots.map Slot.job).map fun job => .step (.submit job)) =
      { g with clock := idle, tasks := slots.map fun s => { job := s.job } } := by
    have hslept : (g.perform (.step (.sleep idle))).2 = { g with clock := idle } := by
      rw [perform, step, sleep_of_empty htasks, clock_of_new hnew, Nat.zero_add]
    rw [after, hslept, after_submits, htasks, List.nil_append, List.map_map]
    rfl
  rw [hgroup] at hsound ⊢
  refine Submitted.waitsBy ⟨hsound, hgreedy, rfl, hpeak, fun s hs => ?_, ?_⟩
  · exact delays s.job (List.mem_map_of_mem hs)
  · rw [← outcomes, List.map_map]
    rfl

/-- Two permits and three jobs, the last two of which end together. -/
theorem wait_schedules_two_permits :
    (0 : Int) < 2 ∧ (∀ job ∈ ([⟨1, .ok 7⟩, ⟨3, .ok 8⟩, ⟨2, .ok 9⟩] : List (Job Nat)),
        0 < job.delay) ∧
      ∃ (g : TaskGroup Nat) (slots : List (Slot Nat)), new 2 = .ok g ∧
        slots.map Slot.job = [⟨1, .ok 7⟩, ⟨3, .ok 8⟩, ⟨2, .ok 9⟩] ∧ Greedy g.limit 5 slots ∧
        WaitsBy 5 slots [7, 8, 9] (g.after [.step (.sleep 5), .step (.submit ⟨1, .ok 7⟩),
          .step (.submit ⟨3, .ok 8⟩), .step (.submit ⟨2, .ok 9⟩)]) := by
  have hpos : (0 : Int) < 2 := by decide
  have hdelays : ∀ job ∈ ([⟨1, .ok 7⟩, ⟨3, .ok 8⟩, ⟨2, .ok 9⟩] : List (Job Nat)),
      0 < job.delay := by simp
  have houtcomes : ([⟨1, .ok 7⟩, ⟨3, .ok 8⟩, ⟨2, .ok 9⟩] : List (Job Nat)).map Job.outcome =
      [7, 8, 9].map .ok := rfl
  obtain ⟨g, slots, hnew, -, hjobs, hgreedy, hwaits⟩ := wait_schedules 2 hpos 5 hdelays houtcomes
  exact ⟨hpos, hdelays, g, slots, hnew, hjobs, hgreedy, hwaits⟩

end BucketStore.TaskGroup
