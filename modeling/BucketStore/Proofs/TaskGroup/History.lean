import BucketStore.TaskGroup.Caller

/-!
# Histories of a task group

Whatever a caller does with a group is a sequence of acts: its steps, and leaving a scope with a
failure or without one. Entering a scope does nothing to the group, so a scope is the acts of its
body followed by leaving it. The history of a group under acts holds the group after every event:
after each start, after each move of the clock to the end of a task, and after each act.
-/

namespace BucketStore.TaskGroup

variable {α : Type}

/-- What a caller does: a step, or leaving a scope with the failure of its body if that failed. -/
inductive Act (α : Type) where
  | step (s : Step α)
  | leave (failure? : Option Failure)
deriving Inhabited

/-- Leaving a scope: the tasks are waited for unless the body failed. -/
def leave (g : TaskGroup α) : Option Failure → Result (List α) × TaskGroup α
  | none => g.wait
  | some e => (.error e, g.cancelAll)

/-- What an act answers, and the group after it. -/
def perform (g : TaskGroup α) : Act α → Answer α × TaskGroup α
  | .step s => g.step s
  | .leave failure? =>
    let (r, g) := g.leave failure?
    (r.map some, g)

def after (g : TaskGroup α) : List (Act α) → TaskGroup α
  | [] => g
  | a :: acts => after (g.perform a).2 acts

/-- What the body of a scope comes to: the steps that it takes, and the failure of the last one if
that fails. -/
def runBody (g : TaskGroup α) : List (Step α) → List (Step α) × Option Failure
  | [] => ([], none)
  | s :: ss =>
    match g.step s with
    | (.ok _, h) =>
      let (taken, failure?) := runBody h ss
      (s :: taken, failure?)
    | (.error e, _) => ([s], some e)

/-- A scope as acts: the steps of its body, then leaving it. -/
def scopeActs (g : TaskGroup α) (body : List (Step α)) : List (Act α) :=
  (g.runBody body).1.map .step ++ [.leave (g.runBody body).2]

/-! ## Events -/

/-- The groups after the events up to a deadline, until one of them stops the run. -/
def events (stops : TaskGroup α → Bool) (deadline? : Option Nat) :
    Nat → TaskGroup α → List (TaskGroup α)
  | 0, _ => []
  | fuel + 1, g =>
    if stops g then []
    else
      match g.nextFinish? with
      | some now =>
        if deadline?.all fun deadline => decide (now ≤ deadline) then
          g.advance now :: events stops deadline? fuel (g.advance now)
        else []
      | none => []

/-- Whether a wait ends here: a task has failed or all are done. -/
def isOver (g : TaskGroup α) : Bool :=
  g.failure?.isSome || g.results?.isSome

/-- The events of a wait up to a deadline. -/
def waitEvents (deadline? : Option Nat) (g : TaskGroup α) : List (TaskGroup α) :=
  g.start :: events isOver deadline? g.start.eventBound g.start

/-- The groups after the events within an act. -/
def eventsOf (g : TaskGroup α) : Act α → List (TaskGroup α)
  | .step (.sleep duration) =>
    g.start :: events (fun _ => false) (some (g.clock + duration)) g.start.eventBound g.start
  | .step .wait | .leave none => g.waitEvents none
  | .step (.waitFor timeout) =>
    if timeout ≤ 0 then [g.start] else g.waitEvents (some (g.clock + timeout.toNat))
  | .step (.submit _) | .step (.fail _) | .leave (some _) => []

/-- The groups after the events of an act, the last one being the group after the act. -/
def visits (g : TaskGroup α) (a : Act α) : List (TaskGroup α) :=
  g.eventsOf a ++ [(g.perform a).2]

/-- The groups after all events of acts. -/
def history (g : TaskGroup α) : List (Act α) → List (TaskGroup α)
  | [] => []
  | a :: acts => g.visits a ++ history (g.perform a).2 acts

end BucketStore.TaskGroup
