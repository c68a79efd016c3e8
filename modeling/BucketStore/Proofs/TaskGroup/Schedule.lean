import BucketStore.TaskGroup.Basic
import Mathlib.Order.Bounds.Basic

/-!
# Schedules of jobs

A schedule says when each of some jobs starts. It is greedy if every job starts at the earliest time
at which fewer than `limit` of the jobs before it are unfinished. A group of tasks is compared with
this: `Greedy` knows nothing of events, permits or cancelled tasks.
-/

namespace BucketStore

/-- The failure of a job that fails. -/
def Job.failure? {α : Type} (job : Job α) : Option Failure :=
  match job.outcome with
  | .ok _ => none
  | .error e => some e

/-- A job and the time at which it starts. -/
structure Slot (α : Type) where
  job : Job α
  start : Nat

namespace Slot

variable {α : Type}

/-- The time at which the job ends. -/
def stop (s : Slot α) : Nat :=
  s.start + s.job.delay

/-- The task of the job at a time, if nothing has cancelled it. -/
def taskAt (now : Nat) (s : Slot α) : Task α where
  job := s.job
  phase :=
    if now < s.start then .pending
    else if now < s.stop then .running s.start
    else Task.settledPhase s.job s.start

end Slot

namespace Schedule

variable {α : Type}

/-- How many jobs are unfinished at a time. -/
def unfinished (slots : List (Slot α)) (time : Nat) : Nat :=
  slots.countP fun s => decide (time < s.stop)

/-- The times from `base` on at which fewer than `limit` jobs are unfinished. -/
def free (limit base : Nat) (slots : List (Slot α)) : Set Nat :=
  {time | base ≤ time ∧ unfinished slots time < limit}

/-- Every job starts as soon as fewer than `limit` of those before it are unfinished. -/
def Greedy (limit base : Nat) (slots : List (Slot α)) : Prop :=
  ∀ before s after, slots = before ++ s :: after → IsLeast (free limit base before) s.start

/-- The failure is that of a job which fails first when jobs run by a greedy schedule: no other one
fails at an earlier time, and if none fails at the same time, there is no other failure it could be.
If no job takes any time, it is the first in order that fails. -/
structure FailsFirst (limit base : Nat) (jobs : List (Job α)) (e : Failure) : Prop where
  scheduled : ∃ slots : List (Slot α), slots.map Slot.job = jobs ∧ Greedy limit base slots ∧
    ∃ s ∈ slots, s.job.failure? = some e ∧
      ∀ other ∈ slots, other.job.failure?.isSome → s.stop ≤ other.stop
  unrivalled : ∀ slots : List (Slot α), slots.map Slot.job = jobs → Greedy limit base slots →
    ∀ s ∈ slots, (∀ other ∈ slots, other.job.failure?.isSome → other ≠ s → s.stop < other.stop) →
      s.job.failure?.isSome → s.job.failure? = some e
  undelayed : (∀ job ∈ jobs, job.delay = 0) → jobs.findSome? Job.failure? = some e

end Schedule

end BucketStore
