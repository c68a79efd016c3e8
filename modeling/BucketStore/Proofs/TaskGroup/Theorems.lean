import BucketStore.Proofs.TaskGroup.Lemmas.Exits

/-!
# Theorems on task groups

What holds of every group along every history of a caller: the limit is kept, tasks start in order
and move on only, and no permit idles while a task waits. And what every way out of a group leaves
behind: nothing that is not settled.
-/

namespace BucketStore.TaskGroup

variable {α : Type}

/-! ## Along a history -/

/-- If a task has started, every task submitted before it has started or been cancelled. -/
def StartsInOrder (g : TaskGroup α) : Prop :=
  ∀ (i j : Nat) (t u : Task α), i < j → g.tasks[i]? = some t → g.tasks[j]? = some u →
    u.phase.start?.isSome → t.phase.start?.isSome ∨ ∃ start?, t.phase = .cancelled start?

/-- What is promised of the groups along a history: at most `limit` tasks run, at no event more;
tasks start in order; their phases move on, a settled one and the time of a start staying as they
are; and the clock moves on past a pending task only while exactly `limit` tasks run. -/
structure Orderly (limit : Int) (states : List (TaskGroup α)) : Prop where
  permits : ∀ g ∈ states, (Task.runningCount g.tasks : Int) ≤ limit ∧ (g.peak : Int) ≤ limit
  order : ∀ g ∈ states, g.StartsInOrder
  moves : states.Pairwise fun g h => ∀ (i : Nat) (t : Task α), g.tasks[i]? = some t →
    ∃ u, h.tasks[i]? = some u ∧ u.job = t.job ∧ t.phase.Leads u.phase ∧
      (t.phase.isSettled = true → u.phase = t.phase) ∧
      ∀ start, t.phase.start? = some start → u.phase.start? = some start
  busy : states.IsChain fun g h => g.clock ≤ h.clock ∧
    (g.clock < h.clock → (∃ t ∈ g.tasks, t.phase = .pending) →
      (Task.runningCount g.tasks : Int) = limit)

theorem Sound.startsInOrder {g : TaskGroup α} (h : g.Sound) : g.StartsInOrder := by
  intro i j t u hij ht hu hs
  obtain ⟨hi, rfl⟩ := List.getElem?_eq_some_iff.mp ht
  obtain ⟨hj, rfl⟩ := List.getElem?_eq_some_iff.mp hu
  have hup : g.tasks[j].phase ≠ .pending := by
    intro hp
    rw [hp] at hs
    cases hs
  have htp : g.tasks[i].phase ≠ .pending := fun hp =>
    hup (List.pairwise_iff_getElem.mp h.order i j hi hj hij hp)
  cases hphase : g.tasks[i].phase with
  | pending => exact (htp hphase).elim
  | running _ | done _ | failed _ => exact Or.inl rfl
  | cancelled start? => exact Or.inr ⟨start?, rfl⟩

/-- The promise holds along every path. -/
theorem Path.orderly {g k : TaskGroup α} {states : List (TaskGroup α)} {limit : Int}
    (h : Path g states k) (hg : g.Sound) (hlimit : (g.limit : Int) = limit) :
    Orderly limit (g :: states) := by
  have hall : ∀ s ∈ g :: states, s.Sound ∧ (s.limit : Int) = limit := by
    intro s hs
    refine ⟨h.sound hg s hs, ?_⟩
    rcases List.mem_cons.mp hs with rfl | hs
    · exact hlimit
    · rw [((List.pairwise_cons.mp h.pairwise).1 s hs).limit, hlimit]
  refine ⟨?_, fun s hs => (hall s hs).1.startsInOrder, ?_, ?_⟩
  · intro s hs
    obtain ⟨hsound, hl⟩ := hall s hs
    have hwithin := hsound.within
    have hpeak := hsound.peak
    omega
  · refine h.pairwise.imp ?_
    intro s s' hc i t ht
    obtain ⟨u, hu, htu⟩ := hc.task i t ht
    exact ⟨u, hu, htu.job, htu.phase, htu.phase.eq_of_isSettled,
      fun _ hstart => htu.phase.start?_eq hstart⟩
  · have hchain := List.isChain_iff_getElem.mp h.isChain
    refine List.isChain_iff_getElem.mpr ?_
    intro i hi
    refine ⟨(hchain i hi).continues.clock, ?_⟩
    rintro hlt ⟨t, ht, hp⟩
    rw [(hchain i hi).busy hlt t ht hp]
    exact (hall _ (List.getElem_mem _)).2

/-- Whatever a caller does with a new group of a positive limit, the groups after all events are
orderly. The groups that steps answer, alone or in a scope, are among those of a history. -/
theorem history_orderly (limit : Int) (pos : 0 < limit) (acts : List (Act α)) :
    ∃ g : TaskGroup α, new limit = .ok g ∧ Orderly limit (g :: g.history acts) ∧
      (∀ steps, ∀ seen ∈ (g.after acts).run steps,
        seen.2 ∈ (g.after acts).history (steps.map .step)) ∧
      ∀ body,
        ((g.after acts).runScope body).2.2 =
          (g.after acts).after ((g.after acts).scopeActs body) ∧
        ∀ seen ∈ ((g.after acts).runScope body).1,
          seen.2 ∈ (g.after acts).history ((g.after acts).scopeActs body) := by
  obtain ⟨g, hnew, hlimit, htasks, hpeak⟩ := new_of_pos (α := α) pos
  have hsound := sound_of_empty htasks hpeak
  refine ⟨g, hnew, (history_path hsound acts).orderly hsound hlimit, ?_, ?_⟩
  · exact fun _ _ hseen => run_mem_history hseen
  · intro body
    refine ⟨?_, fun _ hseen => runScope_mem_history hseen⟩
    rw [runScope_exit, scopeActs, after_append]
    rfl

/-- Two permits, three jobs, a sleep, a wait that runs out of time, and one more job in a scope. -/
theorem history_orderly_two_permits :
    (0 : Int) < 2 ∧ ∃ g : TaskGroup Nat, new 2 = .ok g ∧
      Orderly 2 (g :: g.history
        [.step (.submit ⟨3, .ok 1⟩), .step (.submit ⟨0, .error .timedOut⟩),
          .step (.submit ⟨5, .ok 2⟩), .step (.sleep 1), .step (.waitFor 2),
          .step (.submit ⟨1, .ok 3⟩), .leave none]) := by
  have hpos : (0 : Int) < 2 := by decide
  obtain ⟨g, hnew, horderly, _⟩ := history_orderly (α := Nat) 2 hpos
    [.step (.submit ⟨3, .ok 1⟩), .step (.submit ⟨0, .error .timedOut⟩),
      .step (.submit ⟨5, .ok 2⟩), .step (.sleep 1), .step (.waitFor 2),
      .step (.submit ⟨1, .ok 3⟩), .leave none]
  exact ⟨hpos, g, hnew, horderly⟩

/-! ## Ways out -/

/-- What holds of the ways out of a group: a wait, a wait with a positive time, and leaving a scope
with a failure or without one leave nothing that is not settled. A scope whose body fails fails in
the same way, and one whose body does not ends as a wait does. -/
structure SettlesOnExit (g : TaskGroup α) : Prop where
  wait : g.Settles g.wait.2
  waitFor : ∀ timeout, 0 < timeout → g.Settles (g.waitFor timeout).2
  leave : ∀ failure?, g.Settles (g.leave failure?).2
  scope : ∀ body, (g.after ((g.runBody body).1.map .step)).Settles (g.runScope body).2.2
  reraises : ∀ body e, firstFailure? (g.run body) = some e → (g.runScope body).2.1 = .error e
  waits : ∀ body, firstFailure? (g.run body) = none →
    (g.runScope body).2 = (g.after (body.map .step)).wait

theorem Sound.settlesOnExit {g : TaskGroup α} (h : g.Sound) : g.SettlesOnExit := by
  refine ⟨wait_settles h, fun _ => waitFor_settles h, leave_settles h, ?_, ?_, ?_⟩
  · intro body
    have hbody := history_path h ((g.runBody body).1.map .step)
    rw [runScope_exit]
    exact leave_settles (hbody.sound_last h) (g.runBody body).2
  · intro body e he
    rw [runScope_exit, runBody_failure, he]
    rfl
  · intro body hnone
    rw [runScope_exit, runBody_failure, hnone, runBody_taken hnone]
    rfl

/-- Whatever a caller has done with a group of a positive limit before, its ways out leave only
settled tasks and free permits. -/
theorem exits_settle (limit : Int) (pos : 0 < limit) (acts : List (Act α)) :
    ∃ g : TaskGroup α, new limit = .ok g ∧ (g.limit : Int) = limit ∧
      (g.after acts).SettlesOnExit := by
  obtain ⟨g, hnew, hlimit, htasks, hpeak⟩ := new_of_pos (α := α) pos
  have hsound := sound_of_empty htasks hpeak
  exact ⟨g, hnew, hlimit, ((history_path hsound acts).sound_last hsound).settlesOnExit⟩

/-- A failure in the group's past and three open jobs, of which a wait of four units ends none. -/
theorem exits_settle_after_failure :
    (0 : Int) < 2 ∧ (0 : Int) < 4 ∧ ∃ g : TaskGroup Nat, new 2 = .ok g ∧
      (g.after [.step (.submit ⟨1, .error .timedOut⟩), .step .wait, .step (.submit ⟨9, .ok 1⟩),
        .step (.submit ⟨9, .ok 2⟩), .step (.submit ⟨9, .ok 3⟩)]).Settles
        ((g.after [.step (.submit ⟨1, .error .timedOut⟩), .step .wait,
          .step (.submit ⟨9, .ok 1⟩), .step (.submit ⟨9, .ok 2⟩),
          .step (.submit ⟨9, .ok 3⟩)]).waitFor 4).2 := by
  have hpos : (0 : Int) < 2 := by decide
  have htime : (0 : Int) < 4 := by decide
  obtain ⟨g, hnew, _, hexit⟩ := exits_settle (α := Nat) 2 hpos
    [.step (.submit ⟨1, .error .timedOut⟩), .step .wait, .step (.submit ⟨9, .ok 1⟩),
      .step (.submit ⟨9, .ok 2⟩), .step (.submit ⟨9, .ok 3⟩)]
  exact ⟨hpos, htime, g, hnew, hexit.waitFor 4 htime⟩

end BucketStore.TaskGroup
