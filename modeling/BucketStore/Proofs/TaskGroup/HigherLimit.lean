import BucketStore.Proofs.TaskGroup.ListScheduling

/-!
# A higher limit

The same jobs, submitted at the same time to a group of a higher limit: while they are waited for,
every one starts and ends no later, and the wait returns no later.
-/

namespace BucketStore.TaskGroup

open Schedule

variable {α : Type} {base : Nat} {slots : List (Slot α)} {values : List α} {g : TaskGroup α}

/-! ## When tasks start and end -/

/-- The times of the events of a wait after which a task, by its number, is in a phase of a kind. -/
def timesIn (g : TaskGroup α) (kind : Phase → Bool) (i : Nat) : Set Nat :=
  {time | ∃ k ∈ g.visits (.step .wait), k.clock = time ∧
    ∃ t, k.tasks[i]? = some t ∧ kind t.phase = true}

/-- While the tasks are waited for, the task starts at the time. -/
def StartsAt (g : TaskGroup α) (i time : Nat) : Prop :=
  IsLeast (g.timesIn (fun phase => phase.start?.isSome) i) time

/-- While the tasks are waited for, the task ends at the time. -/
def EndsAt (g : TaskGroup α) (i time : Nat) : Prop :=
  IsLeast (g.timesIn Phase.isSettled i) time

/-- The first `count` tasks of a group start and end in another one no later, and the same values
are returned no later. -/
structure Outpaces (fast slow : TaskGroup α) (count : Nat) (values : List α) : Prop where
  starts : ∀ i < count, ∃ early late, fast.StartsAt i early ∧ slow.StartsAt i late ∧ early ≤ late
  ends : ∀ i < count, ∃ early late, fast.EndsAt i early ∧ slow.EndsAt i late ∧ early ≤ late
  answer : fast.wait.1 = .ok values ∧ slow.wait.1 = .ok values
  clock : fast.wait.2.clock ≤ slow.wait.2.clock

/-! ## Waits by a schedule -/

namespace WaitsBy

variable (h : WaitsBy base slots values g) {i : Nat} {s : Slot α} (hs : slots[i]? = some s)
include h hs

theorem getElem?_tasks {k : TaskGroup α} (hk : k ∈ g.visits (.step .wait)) :
    k.tasks[i]? = some (s.taskAt k.clock) := by
  rw [h.tasks k hk, List.getElem?_map, hs]
  rfl

theorem startsAt : g.StartsAt i s.start := by
  refine ⟨?_, ?_⟩
  · obtain ⟨k, hk, hclock⟩ := h.starts s (List.mem_of_getElem? hs)
    refine ⟨k, hk, hclock, _, h.getElem?_tasks hs hk, ?_⟩
    rw [hclock]
    exact Option.isSome_iff_exists.mpr ⟨s.start, Slot.start?_taskAt (Nat.le_refl _)⟩
  · rintro time ⟨k, hk, rfl, t, ht, hstarted⟩
    rw [h.getElem?_tasks hs hk] at ht
    cases ht
    refine Nat.le_of_not_lt fun hearly => ?_
    rw [Slot.taskAt_of_lt hearly] at hstarted
    cases hstarted

theorem endsAt : g.EndsAt i s.stop := by
  refine ⟨?_, ?_⟩
  · obtain ⟨k, hk, hclock⟩ := h.stops s (List.mem_of_getElem? hs)
    refine ⟨k, hk, hclock, _, h.getElem?_tasks hs hk, ?_⟩
    rw [hclock, Slot.isSettled_taskAt]
    exact decide_eq_true (Nat.le_refl _)
  · rintro time ⟨k, hk, rfl, t, ht, hsettled⟩
    rw [h.getElem?_tasks hs hk] at ht
    cases ht
    rw [Slot.isSettled_taskAt] at hsettled
    exact of_decide_eq_true hsettled

end WaitsBy

/-- Where the jobs of the one schedule start no later than those of the other, so do the tasks. -/
theorem WaitsBy.outpaces {fast slow : TaskGroup α} {others : List (Slot α)}
    (hslow : WaitsBy base slots values slow) (hfast : WaitsBy base others values fast)
    (h : List.Forall₂ NoLater slots others) : fast.Outpaces slow slots.length values := by
  have hpairs : ∀ i < slots.length,
      ∃ s t, slots[i]? = some s ∧ others[i]? = some t ∧ NoLater s t := by
    intro i hi
    have hi' : i < others.length := h.length_eq ▸ hi
    exact ⟨slots[i], others[i], List.getElem?_eq_getElem hi, List.getElem?_eq_getElem hi',
      h.get hi hi'⟩
  refine ⟨fun i hi => ?_, fun i hi => ?_, ⟨hfast.answer, hslow.answer⟩, ?_⟩
  · obtain ⟨s, t, hs, ht, hst⟩ := hpairs i hi
    exact ⟨t.start, s.start, hfast.startsAt ht, hslow.startsAt hs, hst.2⟩
  · obtain ⟨s, t, hs, ht, hst⟩ := hpairs i hi
    exact ⟨t.stop, s.stop, hfast.endsAt ht, hslow.endsAt hs, hst.stop_le⟩
  · -- The wait returns at the end of its last job, which the other group has ended no later.
    rcases hfast.clock.1 with hbase | ⟨t, ht, hstop⟩
    · rw [hbase]
      exact hslow.clock.2 (.inl rfl)
    · obtain ⟨i, hi, rfl⟩ := List.getElem_of_mem ht
      obtain ⟨s, t, hs, ht, hst⟩ := hpairs i (h.length_eq ▸ hi)
      rw [List.getElem?_eq_getElem hi, Option.some.injEq] at ht
      rw [← hstop, ht]
      exact Nat.le_trans hst.stop_le (hslow.clock.2 (.inr ⟨s, List.mem_of_getElem? hs, rfl⟩))

/-! ## Submitting to an empty group -/

theorem sound_foldl_submit {g : TaskGroup α} (h : g.Sound) (jobs : List (Job α)) :
    (jobs.foldl submit g).Sound := by
  induction jobs generalizing g with
  | nil => exact h
  | cons job jobs ih => exact ih (h.submit job)

theorem Submitted.of_empty {g : TaskGroup α} (htasks : g.tasks = []) (hpeak : g.peak = 0)
    (hgreedy : Greedy g.limit g.clock slots) (delays : ∀ s ∈ slots, 0 < s.job.delay)
    (outcomes : slots.map (fun s => s.job.outcome) = values.map .ok) :
    Submitted slots values ((slots.map Slot.job).foldl submit g) := by
  have hsound := sound_foldl_submit (sound_of_empty htasks hpeak) (slots.map Slot.job)
  rw [foldl_submit, htasks, List.nil_append, List.map_map] at hsound ⊢
  exact ⟨hsound, hgreedy, rfl, hpeak, delays, outcomes⟩

/-- Jobs that take time and do not fail, submitted to a group that has none, run by its schedule. -/
theorem exists_waitsBy {g : TaskGroup α} (htasks : g.tasks = []) (hpeak : g.peak = 0)
    {jobs : List (Job α)} (delays : ∀ job ∈ jobs, 0 < job.delay)
    (outcomes : jobs.map Job.outcome = values.map .ok) :
    ∃ slots : List (Slot α), slots.map Slot.job = jobs ∧ Greedy g.limit g.clock slots ∧
      WaitsBy g.clock slots values (jobs.foldl submit g) := by
  obtain ⟨slots, rfl, hgreedy⟩ := Greedy.exists_slots g.limit_pos g.clock jobs
  have hsubmitted : Submitted slots values ((slots.map Slot.job).foldl submit g) :=
    .of_empty htasks hpeak hgreedy (fun s hs => delays s.job (List.mem_map_of_mem hs))
      (by rw [← outcomes, List.map_map]; rfl)
  have hclock : ((slots.map Slot.job).foldl submit g).clock = g.clock := by rw [foldl_submit]
  exact ⟨slots, rfl, hgreedy, hclock ▸ hsubmitted.waitsBy⟩

/-! ## Two limits -/

/-- Whenever jobs that take time and do not fail are submitted to new groups of two positive limits,
and waited for, every job starts and ends in the group of the higher limit no later than in the
other one, and the wait returns no later. -/
theorem wait_outpaces {limit more : Int} (pos : 0 < limit) (hle : limit ≤ more) (idle : Nat)
    {jobs : List (Job α)} (delays : ∀ job ∈ jobs, 0 < job.delay)
    (outcomes : jobs.map Job.outcome = values.map .ok) :
    ∃ slow fast : TaskGroup α, new limit = .ok slow ∧ new more = .ok fast ∧
      (jobs.foldl submit (fast.sleep idle)).Outpaces (jobs.foldl submit (slow.sleep idle))
        jobs.length values := by
  obtain ⟨slow, hslow, hlimit, hslowTasks, hslowPeak⟩ := new_of_pos (α := α) pos
  obtain ⟨fast, hfast, hmore, hfastTasks, hfastPeak⟩ :=
    new_of_pos (α := α) (Int.lt_of_lt_of_le pos hle)
  refine ⟨slow, fast, hslow, hfast, ?_⟩
  rw [sleep_of_empty hslowTasks, sleep_of_empty hfastTasks, clock_of_new hslow, clock_of_new hfast]
  obtain ⟨slots, hjobs, hgreedy, hwaits⟩ :=
    @exists_waitsBy _ _ { slow with clock := 0 + idle } hslowTasks hslowPeak _ delays outcomes
  obtain ⟨others, hothers, hgreedy', hwaits'⟩ :=
    @exists_waitsBy _ _ { fast with clock := 0 + idle } hfastTasks hfastPeak _ delays outcomes
  have hlimits : slow.limit ≤ fast.limit := by omega
  have houtpaces := hwaits.outpaces hwaits'
    (hgreedy.noLater hgreedy' hlimits (hjobs.trans hothers.symm))
  have hlength : slots.length = jobs.length := by rw [← hjobs, List.length_map]
  rwa [hlength] at houtpaces

/-- One permit and two for three jobs: the second and the third wait for less. -/
theorem wait_outpaces_second_permit :
    (0 : Int) < 1 ∧ (1 : Int) ≤ 2 ∧
      (∀ job ∈ ([⟨4, .ok 7⟩, ⟨1, .ok 8⟩, ⟨2, .ok 9⟩] : List (Job Nat)), 0 < job.delay) ∧
      ∃ slow fast : TaskGroup Nat, new 1 = .ok slow ∧ new 2 = .ok fast ∧
        ([⟨4, .ok 7⟩, ⟨1, .ok 8⟩, ⟨2, .ok 9⟩].foldl submit (fast.sleep 5)).Outpaces
          ([⟨4, .ok 7⟩, ⟨1, .ok 8⟩, ⟨2, .ok 9⟩].foldl submit (slow.sleep 5)) 3 [7, 8, 9] := by
  have hpos : (0 : Int) < 1 := by decide
  have hle : (1 : Int) ≤ 2 := by decide
  have hdelays : ∀ job ∈ ([⟨4, .ok 7⟩, ⟨1, .ok 8⟩, ⟨2, .ok 9⟩] : List (Job Nat)),
      0 < job.delay := by simp
  have houtcomes : ([⟨4, .ok 7⟩, ⟨1, .ok 8⟩, ⟨2, .ok 9⟩] : List (Job Nat)).map Job.outcome =
      [7, 8, 9].map .ok := rfl
  exact ⟨hpos, hle, hdelays, wait_outpaces hpos hle 5 hdelays houtcomes⟩

end BucketStore.TaskGroup
