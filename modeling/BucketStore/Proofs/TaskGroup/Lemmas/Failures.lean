import BucketStore.Proofs.TaskGroup.Lemmas.Waits

/-!
# Failures in a group

A task fails at the end of its time. So while none has failed or been cancelled, those that fail at
the next event all fail at the time of it, and a wait ends there. Where one has, a wait ends at
once, and so does every further one.
-/

namespace BucketStore

/-- Whether the task failed or was cancelled. -/
def Phase.isBroken : Phase → Bool
  | .failed _ | .cancelled _ => true
  | _ => false

namespace Task

variable {α : Type} {t : Task α} {p : Task α → Prop}

/-! ## Phases and outcomes -/

/-- The time at which the task failed, if it did. -/
def failedAt? (t : Task α) : Option Nat :=
  match t.phase with
  | .failed start => some (start + t.job.delay)
  | _ => none

/-- The phase of a task that has run its time is the one that the outcome of its job asks for. -/
def Fits (t : Task α) : Prop :=
  match t.phase with
  | .done _ => ∃ v, t.job.outcome = .ok v
  | .failed _ => ∃ e, t.job.outcome = .error e
  | _ => True

/-- A property that new tasks have, and that they keep when they start, settle and are cancelled. -/
structure Lasting (p : Task α → Prop) : Prop where
  fresh : ∀ job, p { job }
  begin : ∀ t now, t.phase = .pending → p t → p (t.begin now)
  settle : ∀ t now, p t → p (t.settle now)
  cancel : ∀ t, p t → p t.cancel

theorem fits_settledPhase (job : Job α) (start : Nat) :
    Fits { job, phase := settledPhase job start } := by
  unfold settledPhase
  cases ho : job.outcome with
  | ok v => exact ⟨v, ho⟩
  | error e => exact ⟨e, ho⟩

theorem fits_lasting : Lasting (Fits (α := α)) where
  fresh _ := trivial
  begin t now _ _ := by
    unfold begin
    split
    · exact fits_settledPhase t.job now
    · trivial
  settle t now h := by
    unfold settle
    split
    · split
      · exact fits_settledPhase _ _
      · exact h
    · exact h
  cancel t h := by
    obtain ⟨job, phase⟩ := t
    cases phase with
    | pending | running _ => trivial
    | done _ | failed _ | cancelled _ => exact h

theorem Fits.failure?_eq_none_iff (h : t.Fits) : t.failure? = none ↔ t.phase.isBroken = false := by
  obtain ⟨job, phase⟩ := t
  cases phase with
  | pending | running _ | done _ => exact ⟨fun _ => rfl, fun _ => rfl⟩
  | failed start =>
      obtain ⟨e, he⟩ := h
      have ho : job.outcome = .error e := he
      simp [failure?, ho, Phase.isBroken]
  | cancelled _ => simp [failure?, Phase.isBroken]

/-- A settled task that has no failure has a result. -/
theorem Fits.exists_result? (h : t.Fits) (hsettled : t.phase.isSettled = true)
    (hfailure : t.failure? = none) : ∃ v, t.result? = some v := by
  rw [h.failure?_eq_none_iff] at hfailure
  obtain ⟨job, phase⟩ := t
  cases phase with
  | done start =>
      obtain ⟨v, hv⟩ := h
      have ho : job.outcome = .ok v := hv
      exact ⟨v, by simp [result?, ho]⟩
  | pending | running _ => cases hsettled
  | failed _ | cancelled _ => cases hfailure

/-! ## When tasks fail -/

theorem failedAt?_settledPhase {job : Job α} {start : Nat}
    (h : (settledPhase job start).isBroken = true) :
    failedAt? { job, phase := settledPhase job start } = some (start + job.delay) := by
  unfold settledPhase at h ⊢
  cases ho : job.outcome with
  | ok v => simp [ho, Phase.isBroken] at h
  | error e => simp [failedAt?]

theorem isBroken_of_failedAt? {time : Nat} (h : t.failedAt? = some time) :
    t.phase.isBroken = true := by
  unfold failedAt? at h
  split at h
  · rename_i start hp
    rw [hp]
    rfl
  · cases h

/-- A task that breaks when a time comes fails then, if it was due no earlier. -/
theorem failedAt?_settle {now : Nat} (hwhole : t.phase.isBroken = false)
    (hdue : ∀ time, t.finish? = some time → now ≤ time)
    (h : (t.settle now).phase.isBroken = true) : (t.settle now).failedAt? = some now := by
  unfold settle at h ⊢
  split at h
  · rename_i start hp
    split at h
    · rename_i hle
      have hnow : start + t.job.delay = now :=
        Nat.le_antisymm hle (hdue _ (by rw [finish?, hp]))
      rw [if_pos hle, failedAt?_settledPhase h, hnow]
    · rw [hwhole] at h
      cases h
  · rw [hwhole] at h
    cases h

theorem failedAt?_begin {now : Nat} (h : (t.begin now).phase.isBroken = true) :
    (t.begin now).failedAt? = some now := by
  unfold begin at h ⊢
  split at h
  · rename_i hd
    rw [if_pos hd, failedAt?_settledPhase h, hd]
    rfl
  · cases h

theorem failedAt?_cancel (t : Task α) : t.cancel.failedAt? = t.failedAt? := by
  obtain ⟨job, phase⟩ := t
  cases phase <;> rfl

theorem cancel_of_isSettled (h : t.phase.isSettled = true) : t.cancel = t := by
  obtain ⟨job, phase⟩ := t
  cases phase with
  | pending | running _ => cases h
  | done _ | failed _ | cancelled _ => rfl

theorem isSettled_of_failure? {e : Failure} (h : t.failure? = some e) :
    t.phase.isSettled = true := by
  obtain ⟨job, phase⟩ := t
  cases phase with
  | pending | running _ => cases h
  | done _ | failed _ | cancelled _ => rfl

/-- The failure of a task that had none before it was cancelled is that it was. -/
theorem failure?_cancel {e : Failure} (h : t.failure? = none) (hc : t.cancel.failure? = some e) :
    e = .cancelled := by
  obtain ⟨job, phase⟩ := t
  cases phase with
  | pending | running _ => exact (Option.some.inj hc).symm
  | done _ | failed _ | cancelled _ =>
      rw [cancel_of_isSettled rfl, h] at hc
      cases hc

theorem isSettled_of_cancel (h : t.cancel.failure? = none) : t.phase.isSettled = true := by
  obtain ⟨job, phase⟩ := t
  cases phase with
  | pending | running _ => cases h
  | done _ | failed _ | cancelled _ => rfl

theorem startReady_of_not_pending {limit now running : Nat} {ts : List (Task α)}
    (h : ∀ t ∈ ts, t.phase ≠ .pending) : startReady limit now running ts = ts := by
  have happend := startReady_append limit now running h []
  rwa [List.append_nil, startReady, List.append_nil] at happend

theorem startPeak_of_not_pending {limit running : Nat} {ts : List (Task α)}
    (h : ∀ t ∈ ts, t.phase ≠ .pending) : startPeak limit running ts = running := by
  induction ts with
  | nil => rfl
  | cons t ts ih =>
      have ht : ¬ (t.phase = .pending ∧ running < limit) := fun hp => h t List.mem_cons_self hp.1
      rw [startPeak, if_neg ht, ih fun u hu => h u (List.mem_cons_of_mem t hu)]

end Task

namespace TaskGroup

variable {α : Type} {p : Task α → Prop} {g : TaskGroup α} {deadline? : Option Nat} {fuel : Nat}

/-! ## Lasting properties -/

/-- All tasks of the group have a property. -/
def All (p : Task α → Prop) (g : TaskGroup α) : Prop :=
  ∀ t ∈ g.tasks, p t

section

variable (hp : Task.Lasting p)
include hp

theorem All.start (h : g.All p) : g.start.All p := by
  intro u hu
  obtain ⟨t, ht, rfl | ⟨hpending, rfl⟩⟩ := Task.mem_startReady hu
  · exact h u ht
  · exact hp.begin t g.clock hpending (h t ht)

theorem All.cancelAll (h : g.All p) : g.cancelAll.All p := by
  intro u hu
  obtain ⟨t, ht, rfl⟩ := List.mem_map.mp hu
  exact hp.cancel t (h t ht)

theorem All.advance (h : g.All p) (now : Nat) : (g.advance now).All p := by
  refine All.start hp fun u hu => ?_
  obtain ⟨t, ht, rfl⟩ := List.mem_map.mp hu
  exact hp.settle t now (h t ht)

theorem All.lastOf_events (h : g.All p) (stops : TaskGroup α → Bool) (deadline? : Option Nat)
    (fuel : Nat) : (lastOf (events stops deadline? fuel g) g).All p := by
  have hevents : ∀ k ∈ events stops deadline? fuel g, k.All p :=
    events_forall (fun g now hg _ => hg.advance hp now) h
  rcases List.mem_cons.mp (lastOf_mem (events stops deadline? fuel g) g) with hlast | hlast
  · rwa [hlast]
  · exact hevents _ hlast

theorem All.conclude (h : g.All p) : (conclude deadline? g).2.All p := by
  unfold TaskGroup.conclude
  split
  · exact h.cancelAll hp
  · exact h
  · split
    · exact @All.cancelAll _ _ { g with clock := _ } hp h
    · exact h.cancelAll hp

theorem All.settleAll (h : g.All p) (deadline? : Option Nat) :
    (settleAll deadline? g.start.eventBound g.start).2.All p := by
  rw [settleAll_eq_conclude (openCount_lt_eventBound g.start)]
  exact ((h.start hp).lastOf_events hp isOver deadline? _).conclude hp

theorem All.perform (h : g.All p) (a : Act α) : (g.perform a).2.All p := by
  cases a with
  | step s =>
      cases s with
      | submit job =>
          intro t ht
          rcases List.mem_append.mp ht with ht | ht
          · exact h t ht
          · rw [List.mem_singleton.mp ht]
            exact hp.fresh job
      | sleep duration =>
          have hlast := (h.start hp).lastOf_events hp (fun _ => false)
            (some (g.clock + duration)) g.start.eventBound
          rw [← runUntil_eq_lastOf] at hlast
          exact hlast
      | wait => exact h.settleAll hp _
      | waitFor timeout =>
          by_cases ht : timeout ≤ 0
          · simp only [TaskGroup.perform, step, waitFor, if_pos ht]
            exact h.start hp
          · simp only [TaskGroup.perform, step, waitFor, if_neg ht]
            exact h.settleAll hp _
      | fail e => exact h
  | leave failure? =>
      cases failure? with
      | none => exact h.settleAll hp _
      | some e => exact h.cancelAll hp

theorem All.after (h : g.All p) (acts : List (Act α)) : (g.after acts).All p := by
  induction acts generalizing g with
  | nil => exact h
  | cons a acts ih => exact ih (h.perform hp a)

end

/-! ## The first failure -/

/-- No task of the group has failed or been cancelled. -/
def Whole (g : TaskGroup α) : Prop :=
  ∀ t ∈ g.tasks, t.phase.isBroken = false

theorem whole_iff (h : g.All Task.Fits) : g.Whole ↔ g.failure? = none := by
  rw [failure?, List.findSome?_eq_none_iff]
  exact forall₂_congr fun t ht => (h t ht).failure?_eq_none_iff.symm

/-- What has failed or been cancelled has failed now. -/
def FailsNow (g : TaskGroup α) : Prop :=
  ∀ t ∈ g.tasks, t.phase.isBroken = true → t.failedAt? = some g.clock

theorem Whole.failsNow_start (h : g.Whole) : g.start.FailsNow := by
  intro u hu hbroken
  obtain ⟨t, ht, rfl | ⟨-, rfl⟩⟩ := Task.mem_startReady hu
  · rw [h _ ht] at hbroken
    cases hbroken
  · exact Task.failedAt?_begin hbroken

theorem Whole.failsNow_advance {now : Nat} (h : g.Whole) (hn : g.nextFinish? = some now) :
    (g.advance now).FailsNow := by
  intro u hu hbroken
  obtain ⟨t, ht, hstarted⟩ := Task.mem_startReady hu
  rcases hstarted with rfl | ⟨-, rfl⟩
  · obtain ⟨s, hs, rfl⟩ := List.mem_map.mp ht
    exact Task.failedAt?_settle (h s hs) ((nextFinish?_eq_some hn).2 s hs) hbroken
  · exact Task.failedAt?_begin hbroken

/-- The events of a wait end at the first failure. -/
theorem failsNow_lastOf (hfits : g.All Task.Fits) (h : g.FailsNow) :
    (lastOf (events isOver deadline? fuel g) g).FailsNow := by
  induction fuel generalizing g with
  | zero => exact h
  | succ fuel ih =>
      rw [events]
      split
      · exact h
      · rename_i hgo
        have hwhole : g.Whole := by
          rw [whole_iff hfits]
          simp only [isOver, Bool.or_eq_true, not_or, Bool.not_eq_true,
            Option.isSome_eq_false_iff, Option.isNone_iff_eq_none] at hgo
          exact hgo.1
        split
        · rename_i now hn
          split
          · rw [lastOf, List.getLastD_cons]
            exact ih (hfits.advance Task.fits_lasting now) (hwhole.failsNow_advance hn)
          · exact h
        · exact h

/-! ## How a wait ends -/

theorem Busy.isSettled (h : g.Busy) (hn : g.nextFinish? = none) :
    ∀ t ∈ g.tasks, t.phase.isSettled = true := by
  have hidle : ∀ t ∈ g.tasks, t.phase.isRunning = false := by
    intro t ht
    rw [← Task.finish?_isSome_iff, nextFinish?_eq_none hn t ht]
    rfl
  have hcount : Task.runningCount g.tasks = 0 :=
    List.countP_eq_zero.mpr fun t ht => by simp [hidle t ht]
  intro t ht
  refine Phase.isSettled_iff.mpr ⟨fun hpending => ?_, hidle t ht⟩
  have hfull := h t ht hpending
  have hpos := g.limit_pos
  omega

/-- How a wait ends at a group: with a failure, with all results, or as the deadline passes. -/
inductive Concludes (deadline? : Option Nat) (g : TaskGroup α) :
    Result (List α) × TaskGroup α → Prop
  | failed {e : Failure} : g.failure? = some e → Concludes deadline? g (.error e, g.cancelAll)
  | done {vs : List α} : g.results? = some vs → Concludes deadline? g (.ok vs, g)
  | late {deadline : Nat} : g.failure? = none → g.results? = none → deadline? = some deadline →
      Concludes deadline? g (.error .timedOut, { g with clock := deadline }.cancelAll)

theorem concludes {k : TaskGroup α} (hend : Ends isOver deadline? k g)
    (hfits : g.All Task.Fits) : Concludes deadline? g (conclude deadline? g) := by
  unfold conclude
  split
  · rename_i hf
    exact .failed hf
  · rename_i hr
    exact .done hr
  · rename_i hf hr
    split
    · exact .late hf hr rfl
    · rename_i hnone
      exfalso
      have hover := hend.ended.resolve_left (by simp [isOver, hf, hr])
      cases hn : g.nextFinish? with
      | some now =>
          obtain ⟨deadline, hd, -⟩ := hover now hn
          exact hnone now deadline hn hd
      | none =>
          -- Nothing runs, so nothing waits for a permit either: all tasks have results.
          have hsettled := hend.busy.isSettled hn
          have hresults : ∀ t ∈ g.tasks, ∃ v, t.result? = some v := fun t ht =>
            (hfits t ht).exists_result? (hsettled t ht) (List.findSome?_eq_none_iff.mp hf t ht)
          obtain ⟨vs, hvs⟩ := Task.exists_mapM_result? hresults
          rw [results?, hvs] at hr
          cases hr

/-- A wait ends at a group to which its events lead. If nothing had failed or been cancelled
before, what has now has failed at the time. -/
theorem exists_concludes (hs : g.Sound) (hfits : g.All Task.Fits) (deadline? : Option Nat) :
    ∃ k : TaskGroup α, k.All Task.Fits ∧ (g.Whole → k.FailsNow) ∧
      Concludes deadline? k (settleAll deadline? g.start.eventBound g.start) := by
  have hfuel := openCount_lt_eventBound g.start
  obtain ⟨-, hend⟩ := events_path isOver deadline? hs.start hs.busy_start hfuel
  have hstart := hfits.start Task.fits_lasting
  have hlast := hstart.lastOf_events Task.fits_lasting isOver deadline? g.start.eventBound
  refine ⟨_, hlast, fun hwhole => failsNow_lastOf hstart hwhole.failsNow_start, ?_⟩
  rw [settleAll_eq_conclude hfuel]
  exact concludes hend hlast

/-! ## Past failures -/

/-- Starting what there are permits for changes no task before one that failed or was cancelled. -/
theorem failure?_start {e : Failure} (hs : g.Sound) (h : g.failure? = some e) :
    g.start.failure? = some e := by
  obtain ⟨before, t, after, htasks, ht, hbefore⟩ := List.findSome?_eq_some_iff.mp h
  have hstarted : t.phase ≠ .pending := fun hp => by simp [Task.failure?, hp] at ht
  have horder := hs.order
  rw [Task.InOrder, htasks, List.pairwise_append] at horder
  have hearlier : ∀ u ∈ before ++ [t], u.phase ≠ .pending := by
    intro u hu
    rcases List.mem_append.mp hu with hu | hu
    · exact fun hp => hstarted (horder.2.2 u hu t List.mem_cons_self hp)
    · rwa [List.mem_singleton.mp hu]
  have htasks' : g.tasks = (before ++ [t]) ++ after := by simp [htasks]
  rw [failure?, start, htasks', Task.startReady_append _ _ _ hearlier, List.findSome?_append,
    List.findSome?_append, List.findSome?_eq_none_iff.mpr hbefore]
  simp [ht]

/-- Where a task has failed or been cancelled, the wait ends at once. -/
theorem settleAll_of_failure? {e : Failure} (h : g.failure? = some e) (hfuel : 0 < fuel) :
    settleAll deadline? fuel g = (.error e, g.cancelAll) := by
  obtain ⟨fuel, rfl⟩ := Nat.exists_eq_succ_of_ne_zero (Nat.ne_of_gt hfuel)
  simp only [settleAll, h]

theorem eventBound_pos (g : TaskGroup α) : 0 < g.eventBound :=
  Nat.succ_pos _

/-! ## Cancelled groups -/

theorem start_of_settled (hs : g.Sound) (h : ∀ t ∈ g.tasks, t.phase.isSettled = true) :
    g.start = g := by
  have hpending : ∀ t ∈ g.tasks, t.phase ≠ .pending := fun t ht =>
    (Phase.isSettled_iff.mp (h t ht)).1
  have hpeak :
      max g.peak (Task.startPeak g.limit (Task.runningCount g.tasks) g.tasks) = g.peak := by
    rw [Task.startPeak_of_not_pending hpending]
    exact Nat.max_eq_left hs.within
  rw [start, Task.startReady_of_not_pending hpending, hpeak]

theorem cancelAll_of_settled (h : ∀ t ∈ g.tasks, t.phase.isSettled = true) : g.cancelAll = g := by
  have htasks : g.tasks.map Task.cancel = g.tasks := by
    rw [List.map_congr_left fun t ht => Task.cancel_of_isSettled (h t ht), List.map_id']
  rw [cancelAll, htasks]

/-- Cancelling the rest hides a failure at most behind tasks that are cancelled. -/
theorem failure?_cancelAll {e : Failure} (h : g.failure? = some e) :
    ∃ e', g.cancelAll.failure? = some e' ∧ (e' = e ∨ e' = .cancelled) := by
  obtain ⟨before, t, after, htasks, ht, hbefore⟩ := List.findSome?_eq_some_iff.mp h
  have hcancel : t.cancel.failure? = some e := by
    rw [Task.cancel_of_isSettled (Task.isSettled_of_failure? ht), ht]
  cases hearlier : (before.map Task.cancel).findSome? Task.failure? with
  | some e' =>
      obtain ⟨u, hu, hue⟩ := List.exists_of_findSome?_eq_some hearlier
      obtain ⟨s, hs, rfl⟩ := List.mem_map.mp hu
      refine ⟨e', ?_, .inr (Task.failure?_cancel (hbefore s hs) hue)⟩
      simp [failure?, cancelAll, htasks, hearlier]
  | none =>
      refine ⟨e, ?_, .inl rfl⟩
      simp [failure?, cancelAll, htasks, hearlier, hcancel]

/-- Where nothing has failed or been cancelled and not all tasks have results, some are
cancelled. -/
theorem failure?_cancelAll_of_open (hfits : g.All Task.Fits) (hf : g.failure? = none)
    (hr : g.results? = none) : g.cancelAll.failure? = some .cancelled := by
  have hnone := List.findSome?_eq_none_iff.mp hf
  cases hc : g.cancelAll.failure? with
  | some e =>
      obtain ⟨u, hu, hue⟩ := List.exists_of_findSome?_eq_some hc
      obtain ⟨s, hs, rfl⟩ := List.mem_map.mp hu
      rw [Task.failure?_cancel (hnone s hs) hue]
  | none =>
      -- Every task would have been settled before, and so have a result.
      exfalso
      have hresults : ∀ t ∈ g.tasks, ∃ v, t.result? = some v := by
        intro t ht
        refine (hfits t ht).exists_result? ?_ (hnone t ht)
        exact Task.isSettled_of_cancel
          (List.findSome?_eq_none_iff.mp hc t.cancel (List.mem_map_of_mem ht))
      obtain ⟨vs, hvs⟩ := Task.exists_mapM_result? hresults
      rw [results?, hvs] at hr
      cases hr

/-- A wait that fails leaves a group that has settled, with a failure: the one that it reports, or
that a task was cancelled. -/
theorem Concludes.failure? {e : Failure} {k : TaskGroup α} (h : Concludes deadline? g (.error e, k))
    (hfits : g.All Task.Fits) :
    (∀ t ∈ k.tasks, t.phase.isSettled = true) ∧
      ∃ e', k.failure? = some e' ∧ (e' = e ∨ e' = .cancelled) := by
  cases h with
  | failed hf => exact ⟨fun _ => cancelAll_isSettled, failure?_cancelAll hf⟩
  | late hf hr _ =>
      have hcancelled := failure?_cancelAll_of_open hfits hf hr
      exact ⟨fun _ => cancelAll_isSettled, .cancelled, hcancelled, .inr rfl⟩

end TaskGroup

end BucketStore
