import BucketStore.Failure

/-!
# Bounded task groups

A group runs submitted jobs with at most `limit` of them at a time, on a clock of whole units. A
task starts in the order of submission as soon as there is a permit for it, and gives the permit
back when it settles. A job of no length settles at the moment it starts. Nothing happens before the
caller lets go of control, that is, waits or sleeps.
-/

namespace BucketStore

/-- How long a job takes and what comes of it. -/
structure Job (α : Type) where
  delay : Nat
  outcome : Result α
deriving Inhabited

/-- How far a task has come; `start` is the time at which it started. -/
inductive Phase where
  | pending
  | running (start : Nat)
  | done (start : Nat)
  | failed (start : Nat)
  | cancelled (start? : Option Nat)
deriving DecidableEq, Inhabited, Repr

namespace Phase

def start? : Phase → Option Nat
  | .pending => none
  | .running start | .done start | .failed start => some start
  | .cancelled start? => start?

/-- Whether nothing more will happen to the task. -/
def isSettled : Phase → Bool
  | .pending | .running _ => false
  | .done _ | .failed _ | .cancelled _ => true

/-- Whether the task holds a permit. -/
def isRunning : Phase → Bool
  | .running _ => true
  | _ => false

def name : Phase → String
  | .pending => "pending"
  | .running _ => "running"
  | .done _ => "done"
  | .failed _ => "failed"
  | .cancelled _ => "cancelled"

/-- The phase of a task that is cancelled: a settled one stays as it is. -/
def cancel : Phase → Phase
  | .pending => .cancelled none
  | .running start => .cancelled (some start)
  | phase => phase

end Phase

/-- A submitted job. -/
structure Task (α : Type) where
  job : Job α
  phase : Phase := .pending
deriving Inhabited

namespace Task

variable {α : Type}

/-- The phase of a job that has run its time. -/
def settledPhase (job : Job α) (start : Nat) : Phase :=
  match job.outcome with
  | .ok _ => .done start
  | .error _ => .failed start

def begin (t : Task α) (now : Nat) : Task α :=
  { t with phase := if t.job.delay = 0 then settledPhase t.job now else .running now }

def finish? (t : Task α) : Option Nat :=
  match t.phase with
  | .running start => some (start + t.job.delay)
  | _ => none

/-- The task after the clock has come to a time. -/
def settle (now : Nat) (t : Task α) : Task α :=
  match t.phase with
  | .running start =>
    if start + t.job.delay ≤ now then { t with phase := settledPhase t.job start } else t
  | _ => t

/-- The task cancelled, unless it has settled. -/
def cancel (t : Task α) : Task α :=
  { t with phase := t.phase.cancel }

/-- The failure of a task that failed or was cancelled. -/
def failure? (t : Task α) : Option Failure :=
  match t.phase, t.job.outcome with
  | .failed _, .error e => some e
  | .cancelled _, _ => some .cancelled
  | _, _ => none

def result? (t : Task α) : Option α :=
  match t.phase, t.job.outcome with
  | .done _, .ok v => some v
  | _, _ => none

/-- Starts pending tasks in order while fewer than `limit` are running; `running` of them already
are. Of tasks of no length, all that a permit comes to run at once, even behind a failure, where an
event loop runs two more before the failure cancels those that are left. -/
def startReady (limit now : Nat) : Nat → List (Task α) → List (Task α)
  | _, [] => []
  | running, t :: ts =>
    if t.phase = .pending ∧ running < limit then
      t.begin now :: startReady limit now (if t.job.delay = 0 then running else running + 1) ts
    else t :: startReady limit now running ts

/-- The most tasks that run at once while pending ones are started. -/
def startPeak (limit : Nat) : Nat → List (Task α) → Nat
  | running, [] => running
  | running, t :: ts =>
    if t.phase = .pending ∧ running < limit then
      max (running + 1) (startPeak limit (if t.job.delay = 0 then running else running + 1) ts)
    else startPeak limit running ts

def runningCount (ts : List (Task α)) : Nat :=
  ts.countP fun t => t.phase.isRunning

end Task

/-- A group of tasks, at most `limit` of which run at a time. -/
structure TaskGroup (α : Type) where
  limit : Nat
  limit_pos : 0 < limit
  clock : Nat := 0
  tasks : List (Task α) := []
  peak : Nat := 0

namespace TaskGroup

variable {α : Type}

/-- The failure of a limit that is not positive. -/
def badLimit : Failure :=
  .invalidValue "limit must be positive"

/-- A group with no tasks; the limit must be positive. -/
def new (limit : Int) : Result (TaskGroup α) :=
  if h : 0 < limit then .ok { limit := limit.toNat, limit_pos := by omega }
  else .error badLimit

/-- More permits than there are tasks. -/
def manyPermits : Nat := 1 <<< 64

/-- A group with no tasks, whose limit is any number. Permits that are not a whole number of them
are never used up. -/
def ofValue (limit : Value) : Result (TaskGroup α) :=
  match limit.isPositive? with
  | none => .error .wrongType
  | some false => .error badLimit
  | some true =>
    match limit.key? with
    | some (.int n) => new n
    | _ => new manyPermits

def submit (g : TaskGroup α) (job : Job α) : TaskGroup α :=
  { g with tasks := g.tasks ++ [{ job }] }

/-- Starts what there are permits for. -/
def start (g : TaskGroup α) : TaskGroup α :=
  let running := Task.runningCount g.tasks
  { g with
    tasks := Task.startReady g.limit g.clock running g.tasks
    peak := max g.peak (Task.startPeak g.limit running g.tasks) }

def nextFinish? (g : TaskGroup α) : Option Nat :=
  (g.tasks.filterMap Task.finish?).min?

/-- Moves the clock to a time, settles what is due then and starts what there are permits for. -/
def advance (g : TaskGroup α) (now : Nat) : TaskGroup α :=
  { g with clock := now, tasks := g.tasks.map (Task.settle now) }.start

/-- Cancels every task that has not settled. -/
def cancelAll (g : TaskGroup α) : TaskGroup α :=
  { g with tasks := g.tasks.map Task.cancel }

/-- The failure of the first task in order of submission that failed or was cancelled. -/
def failure? (g : TaskGroup α) : Option Failure :=
  g.tasks.findSome? Task.failure?

/-- The results in order of submission, if all tasks are done. -/
def results? (g : TaskGroup α) : Option (List α) :=
  g.tasks.mapM Task.result?

/-- Moves through the events up to a time; `fuel` bounds their number. -/
def runUntil : Nat → Nat → TaskGroup α → TaskGroup α
  | 0, _, g => g
  | fuel + 1, deadline, g =>
    match g.nextFinish? with
    | some now => if now ≤ deadline then runUntil fuel deadline (g.advance now) else g
    | none => g

/-- An event settles at least one task, so there are no more events than tasks. -/
def eventBound (g : TaskGroup α) : Nat :=
  g.tasks.length + 1

/-- The caller sleeps for some time; failures cancel nothing meanwhile. -/
def sleep (g : TaskGroup α) (duration : Nat) : TaskGroup α :=
  let g := g.start
  let deadline := g.clock + duration
  { runUntil g.eventBound deadline g with clock := deadline }

/-- Moves from event to event until a task has failed, all are done or the deadline passes. A
failure, like the deadline, cancels the tasks that have not settled. What ends just at the deadline
ends in time, where the timer of an event loop comes first. -/
def settleAll (deadline? : Option Nat) : Nat → TaskGroup α → Result (List α) × TaskGroup α
  | 0, g => (.error .cancelled, g.cancelAll)
  | fuel + 1, g =>
    match g.failure? with
    | some e => (.error e, g.cancelAll)
    | none =>
      match g.results? with
      | some vs => (.ok vs, g)
      | none =>
        match g.nextFinish?, deadline? with
        | some now, none => settleAll deadline? fuel (g.advance now)
        | some now, some deadline =>
          if now ≤ deadline then settleAll deadline? fuel (g.advance now)
          else (.error .timedOut, { g with clock := deadline }.cancelAll)
        | none, _ => (.error .cancelled, g.cancelAll)

/-- Waits for all tasks: their results in order of submission, or the first failure. -/
def wait (g : TaskGroup α) : Result (List α) × TaskGroup α :=
  let g := g.start
  settleAll none g.eventBound g

/-- Waits for some time at most. Without any time tasks start, and nothing is waited for. -/
def waitFor (g : TaskGroup α) (timeout : Int) : Result (List α) × TaskGroup α :=
  let g := g.start
  if timeout ≤ 0 then (.error .timedOut, g)
  else settleAll (some (g.clock + timeout.toNat)) g.eventBound g

def runAll (g : TaskGroup α) (jobs : List (Job α)) : Result (List α) × TaskGroup α :=
  (jobs.foldl submit g).wait

end TaskGroup

end BucketStore
