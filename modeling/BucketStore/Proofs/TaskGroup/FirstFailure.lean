import BucketStore.Proofs.TaskGroup.Lemmas.Failures

/-!
# Which failure a wait reports

While no task of a group has failed or been cancelled, a wait reports the failure that comes first
in time. From then on a wait ends at once with what stands first in the order of submission, be it a
failure that came later, as when the caller slept meanwhile, or that a task was cancelled, as when
the caller waits again.
-/

namespace BucketStore.TaskGroup

variable {α : Type} {timeout? : Option Int} {g k : TaskGroup α} {e : Failure}

/-- Waits for all tasks, for some time at most if one is given. -/
def await (g : TaskGroup α) : Option Int → Result (List α) × TaskGroup α
  | none => g.wait
  | some timeout => g.waitFor timeout

/-- The failure is that of a task that failed, and no task failed at an earlier time. -/
def FailedFirst (g : TaskGroup α) (e : Failure) : Prop :=
  ∃ t ∈ g.tasks, t.failure? = some e ∧ ∃ time, t.failedAt? = some time ∧
    ∀ u ∈ g.tasks, ∀ later, u.failedAt? = some later → time ≤ later

/-- The failure is that of the first task, in the order of submission, that failed or was
cancelled. -/
def FirstInOrder (g : TaskGroup α) (e : Failure) : Prop :=
  ∃ before t after, g.tasks = before ++ t :: after ∧ t.failure? = some e ∧
    ∀ u ∈ before, u.phase.isBroken = false

/-- What a wait with a positive time, or without one, reports. While nothing has failed or been
cancelled, it is the first failure in time, unless the time is over before any task failed.
Otherwise it is at once the first in the order of submission. Every wait after one that failed
reports what is then the first in that order: the same failure, or that a task was cancelled. -/
structure Reports (timeout? : Option Int) (g : TaskGroup α) : Prop where
  first : g.Whole → ∀ e k, g.await timeout? = (.error e, k) →
    k.FailedFirst e ∨ timeout?.isSome ∧ e = .timedOut ∧ ∀ t ∈ k.tasks, t.failedAt? = none
  past : ¬ g.Whole → ∃ e, g.FirstInOrder e ∧ g.await timeout? = (.error e, g.start.cancelAll)
  again : ∀ e k, g.await timeout? = (.error e, k) →
    ∃ e', k.FirstInOrder e' ∧ (e' = e ∨ e' = .cancelled) ∧
      ∀ other? : Option Int, (∀ timeout ∈ other?, 0 < timeout) → k.await other? = (.error e', k)

/-- The time at which a wait is over, if there is one. -/
def deadline? (g : TaskGroup α) (timeout? : Option Int) : Option Nat :=
  timeout?.map fun timeout => g.clock + timeout.toNat

theorem clock_le_deadline? (g : TaskGroup α) (timeout? : Option Int) :
    ∀ deadline, g.deadline? timeout? = some deadline → g.clock ≤ deadline := by
  intro deadline h
  obtain ⟨timeout, -, rfl⟩ := Option.map_eq_some_iff.mp h
  exact Nat.le_add_right _ _

/-- A wait runs through the events up to its deadline. -/
theorem await_eq_settleAll (g : TaskGroup α) (patient : ∀ timeout ∈ timeout?, 0 < timeout) :
    g.await timeout? = settleAll (g.deadline? timeout?) g.start.eventBound g.start := by
  cases timeout? with
  | none => rfl
  | some timeout =>
      have hpositive : ¬ timeout ≤ 0 := Int.not_le.mpr (patient timeout rfl)
      simp only [await, waitFor, if_neg hpositive]
      rfl

theorem firstInOrder_iff (hfits : g.All Task.Fits) : g.FirstInOrder e ↔ g.failure? = some e := by
  rw [failure?, List.findSome?_eq_some_iff]
  refine exists_congr fun before => exists_congr fun t => exists_congr fun after => ?_
  refine and_congr_right fun htasks => and_congr_right fun _ => ?_
  refine forall₂_congr fun u hu => ?_
  have hmem : u ∈ g.tasks := by
    rw [htasks]
    exact List.mem_append_left _ hu
  exact (hfits u hmem).failure?_eq_none_iff.symm

/-- If all that failed has failed now, the failure that a wait ends with is the first in time. -/
theorem FailsNow.failedFirst (h : k.FailsNow) (hfits : k.All Task.Fits) (hf : k.failure? = some e) :
    k.cancelAll.FailedFirst e := by
  obtain ⟨t, ht, hte⟩ := List.exists_of_findSome?_eq_some hf
  have hcancel := Task.cancel_of_isSettled (Task.isSettled_of_failure? hte)
  have hbroken : t.phase.isBroken = true := by
    have hsome : t.failure? ≠ none := by simp [hte]
    rwa [Ne, (hfits t ht).failure?_eq_none_iff, Bool.not_eq_false] at hsome
  refine ⟨t, ?_, hte, k.clock, h t ht hbroken, ?_⟩
  · rw [← hcancel]
    exact List.mem_map_of_mem ht
  · intro u hu later hlater
    obtain ⟨s, hs, rfl⟩ := List.mem_map.mp hu
    rw [Task.failedAt?_cancel] at hlater
    have hnow := h s hs (Task.isBroken_of_failedAt? hlater)
    rw [hlater, Option.some.injEq] at hnow
    exact Nat.le_of_eq hnow.symm

/-- Waiting for a group that has settled with a failure changes nothing. -/
theorem await_of_settled (hs : g.Sound) (hsettled : ∀ t ∈ g.tasks, t.phase.isSettled = true)
    (hf : g.failure? = some e) (patient : ∀ timeout ∈ timeout?, 0 < timeout) :
    g.await timeout? = (.error e, g) := by
  rw [await_eq_settleAll g patient, start_of_settled hs hsettled,
    settleAll_of_failure? hf (eventBound_pos g), cancelAll_of_settled hsettled]

theorem Whole.not_failed (h : k.Whole) : ∀ t ∈ k.cancelAll.tasks, t.failedAt? = none := by
  intro u hu
  obtain ⟨t, ht, rfl⟩ := List.mem_map.mp hu
  rw [Task.failedAt?_cancel]
  cases htime : t.failedAt? with
  | none => rfl
  | some time =>
      have hbroken := Task.isBroken_of_failedAt? htime
      rw [h t ht] at hbroken
      cases hbroken

/-- What a wait reports of any group that keeps the invariant. -/
theorem Sound.reports (hs : g.Sound) (hfits : g.All Task.Fits)
    (patient : ∀ timeout ∈ timeout?, 0 < timeout) : g.Reports timeout? := by
  have hawait := await_eq_settleAll g patient
  obtain ⟨k, hkfits, hnow, hends⟩ := exists_concludes hs hfits (g.deadline? timeout?)
  rw [← hawait] at hends
  refine ⟨fun hwhole e l hwait => ?_, fun hbroken => ?_, fun e l hwait => ?_⟩
  · rw [hwait] at hends
    cases hends with
    | failed hf => exact .inl ((hnow hwhole).failedFirst hkfits hf)
    | late hf _ hd =>
        obtain ⟨timeout, htimeout, -⟩ := Option.map_eq_some_iff.mp hd
        have hfailed := ((whole_iff hkfits).mpr hf).not_failed
        exact .inr ⟨Option.isSome_iff_exists.mpr ⟨timeout, htimeout⟩, rfl, hfailed⟩
  · rw [whole_iff hfits] at hbroken
    obtain ⟨e, he⟩ := Option.ne_none_iff_exists'.mp hbroken
    refine ⟨e, (firstInOrder_iff hfits).mpr he, ?_⟩
    rw [hawait]
    exact settleAll_of_failure? (failure?_start hs he) (eventBound_pos _)
  · have hsound := (waitEvents_path hs (clock_le_deadline? g timeout?)).sound_last hs
    have hlfits := hfits.settleAll Task.fits_lasting (g.deadline? timeout?)
    rw [← hawait, hwait] at hsound hlfits
    rw [hwait] at hends
    obtain ⟨hsettled, e', he', hor⟩ := hends.failure? hkfits
    exact ⟨e', (firstInOrder_iff hlfits).mpr he', hor,
      fun other? hother => await_of_settled hsound hsettled he' hother⟩

/-- Whatever a caller has done with a group of a positive limit before, its next wait reports the
first failure in time if there was none before, and else the first in the order of submission; and
waiting again reports the same failure, or that a task was cancelled. -/
theorem wait_reports (limit : Int) (pos : 0 < limit) (acts : List (Act α)) (timeout? : Option Int)
    (patient : ∀ timeout ∈ timeout?, 0 < timeout) :
    ∃ g : TaskGroup α, new limit = .ok g ∧ (g.after acts).Reports timeout? := by
  obtain ⟨g, hnew, -, htasks, hpeak⟩ := new_of_pos (α := α) pos
  have hsound := sound_of_empty htasks hpeak
  have hfits : g.All Task.Fits := fun t ht => by simp [htasks] at ht
  exact ⟨g, hnew, ((history_path hsound acts).sound_last hsound).reports
    (hfits.after Task.fits_lasting acts) patient⟩

/-- Two jobs run at once, and a wait of four units sees the second one fail. -/
theorem wait_reports_second_failure :
    (0 : Int) < 2 ∧ (∀ timeout ∈ some (4 : Int), 0 < timeout) ∧
      ∃ g : TaskGroup Nat, new 2 = .ok g ∧
        (g.after [.step (.submit ⟨5, .ok 0⟩),
          .step (.submit ⟨1, .error (.invalidValue "early")⟩)]).Reports (some 4) := by
  have hpos : (0 : Int) < 2 := by decide
  have hpatient : ∀ timeout ∈ some (4 : Int), 0 < timeout := by simp
  exact ⟨hpos, hpatient, wait_reports 2 hpos _ (some 4) hpatient⟩

/-- The second job fails first. Waiting once more reports that the other one was cancelled, and
where the caller sleeps until both have failed, the wait reports the later failure. -/
theorem wait_reports_not_first :
    ∃ g : TaskGroup Nat, new 2 = .ok g ∧
      (g.run [.submit ⟨5, .ok 0⟩, .submit ⟨1, .error (.invalidValue "early")⟩, .wait,
          .wait]).map Prod.fst =
        [.ok none, .ok none, .error (.invalidValue "early"), .error .cancelled] ∧
      (g.run [.submit ⟨2, .error (.invalidValue "late")⟩,
          .submit ⟨1, .error (.invalidValue "early")⟩, .sleep 3, .wait]).map Prod.fst =
        [.ok none, .ok none, .ok none, .error (.invalidValue "late")] ∧
      (g.after [.step (.submit ⟨2, .error (.invalidValue "late")⟩),
          .step (.submit ⟨1, .error (.invalidValue "early")⟩),
          .step (.sleep 3)]).tasks.map Task.failedAt? = [some 2, some 1] :=
  ⟨_, rfl, rfl, rfl, rfl⟩

end BucketStore.TaskGroup
