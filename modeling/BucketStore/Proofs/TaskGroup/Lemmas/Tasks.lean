import BucketStore.TaskGroup.Basic
import Mathlib.Logic.Relation

/-!
# Tasks on their way

How the phase of a task may move, and that starting, settling and cancelling tasks moves it so. Then
what starting the pending tasks of a list does to their order and to the number of running ones.
-/

namespace BucketStore

/-! ## Phases -/

/-- One move of a phase: a pending task starts or is dropped, a running one ends or is stopped. -/
inductive Phase.Move : Phase → Phase → Prop
  | start (now : Nat) : Phase.Move .pending (.running now)
  | finish (start : Nat) : Phase.Move (.running start) (.done start)
  | fail (start : Nat) : Phase.Move (.running start) (.failed start)
  | drop : Phase.Move .pending (.cancelled none)
  | stop (start : Nat) : Phase.Move (.running start) (.cancelled (some start))

/-- Any number of moves. -/
abbrev Phase.Leads : Phase → Phase → Prop :=
  Relation.ReflTransGen Phase.Move

namespace Phase

theorem Leads.eq_of_isSettled {p q : Phase} (h : p.Leads q) (hp : p.isSettled = true) : q = p := by
  cases h.cases_head with
  | inl he => exact he.symm
  | inr hm =>
      obtain ⟨r, hr, _⟩ := hm
      cases hr <;> cases hp

/-- A task that has started keeps its starting time. -/
theorem Leads.start?_eq {p q : Phase} {start : Nat} (h : p.Leads q) (hp : p.start? = some start) :
    q.start? = some start := by
  induction h with
  | refl => exact hp
  | tail _ hm ih =>
      cases hm with
      | start now => cases ih
      | finish _ | fail _ | stop _ => exact ih
      | drop => cases ih

theorem cancel_isSettled (p : Phase) : p.cancel.isSettled = true := by
  cases p <;> rfl

theorem leads_cancel (p : Phase) : p.Leads p.cancel := by
  cases p with
  | pending => exact .single .drop
  | running start => exact .single (.stop start)
  | done _ | failed _ | cancelled _ => exact .refl

theorem isSettled_iff {p : Phase} :
    p.isSettled = true ↔ p ≠ .pending ∧ p.isRunning = false := by
  cases p <;> simp [isSettled, isRunning]

end Phase

/-! ## Single tasks -/

namespace Task

variable {α : Type}

/-- The same job, further on its way. -/
structure Becomes (t u : Task α) : Prop where
  job : u.job = t.job
  phase : t.phase.Leads u.phase

theorem Becomes.refl (t : Task α) : t.Becomes t :=
  ⟨rfl, .refl⟩

theorem Becomes.trans {t u v : Task α} (h : t.Becomes u) (h' : u.Becomes v) : t.Becomes v :=
  ⟨h'.job.trans h.job, h.phase.trans h'.phase⟩

theorem running_leads_settledPhase (job : Job α) (start : Nat) :
    (Phase.running start).Leads (settledPhase job start) := by
  unfold settledPhase
  cases job.outcome with
  | ok v => exact .single (.finish start)
  | error e => exact .single (.fail start)

theorem settledPhase_isSettled (job : Job α) (start : Nat) :
    (settledPhase job start).isSettled = true := by
  unfold settledPhase
  cases job.outcome <;> rfl

theorem start?_settledPhase (job : Job α) (start : Nat) :
    (settledPhase job start).start? = some start := by
  unfold settledPhase
  cases job.outcome <;> rfl

theorem begin_becomes {t : Task α} (h : t.phase = .pending) (now : Nat) :
    t.Becomes (t.begin now) := by
  refine ⟨rfl, ?_⟩
  simp only [begin, h]
  split
  · exact .head (.start now) (running_leads_settledPhase t.job now)
  · exact .single (.start now)

theorem start?_begin (t : Task α) (now : Nat) : (t.begin now).phase.start? = some now := by
  simp only [begin]
  split
  · exact start?_settledPhase t.job now
  · rfl

theorem begin_ne_pending (t : Task α) (now : Nat) : (t.begin now).phase ≠ .pending := by
  intro h
  have hs := start?_begin t now
  rw [h] at hs
  cases hs

/-- Only a job that takes time runs on after its start. -/
theorem isRunning_begin (t : Task α) (now : Nat) :
    (t.begin now).phase.isRunning = decide (t.job.delay ≠ 0) := by
  simp only [begin]
  split
  · rename_i h
    have hs := (Phase.isSettled_iff.mp (settledPhase_isSettled t.job now)).2
    simp [h, hs]
  · rename_i h
    simp [h, Phase.isRunning]

theorem settle_becomes (now : Nat) (t : Task α) : t.Becomes (t.settle now) := by
  unfold settle
  split
  · rename_i start hp
    split
    · exact ⟨rfl, hp ▸ running_leads_settledPhase t.job start⟩
    · exact .refl t
  · exact .refl t

/-- Settling changes nothing but running tasks. -/
theorem settle_eq_of_not_running {t : Task α} (now : Nat) (h : t.phase.isRunning = false) :
    t.settle now = t := by
  unfold settle
  split
  · rename_i start hp
    rw [hp] at h
    cases h
  · rfl

theorem cancel_becomes (t : Task α) : t.Becomes t.cancel :=
  ⟨rfl, Phase.leads_cancel t.phase⟩

theorem finish?_eq_some {t : Task α} {time : Nat} (h : t.finish? = some time) :
    ∃ start, t.phase = .running start ∧ time = start + t.job.delay := by
  unfold finish? at h
  split at h
  · rename_i start hp
    exact ⟨start, hp, (Option.some.inj h).symm⟩
  · cases h

theorem finish?_isSome_iff (t : Task α) : t.finish?.isSome = t.phase.isRunning := by
  unfold finish?
  cases t.phase <;> rfl

end Task

end BucketStore
