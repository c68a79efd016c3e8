import BucketStore.TaskGroup.Basic

/-!
# Callers of a task group

What a caller does with a group, step by step, and what it sees after each step. A caller may also
run its steps inside a scope: the first failure of a step leaves the scope, and so does the end of
the steps, which waits for all tasks. Leaving by a failure cancels every task that has not settled.
-/

namespace BucketStore.TaskGroup

variable {α : Type}

inductive Step (α : Type) where
  | submit (job : Job α)
  | sleep (duration : Nat)
  | wait
  | waitFor (timeout : Int)
  | fail (failure : Failure)
deriving Inhabited

/-- Waiting for a time that any value states: null sets no bound, and only numbers are times. -/
def Step.waitUpTo : Value → Step α
  | .null => .wait
  | .int n => .waitFor n
  | .bool b => .waitFor (Value.boolInt b)
  | .real x => .waitFor x.truncate
  | _ => .fail .wrongType

/-- What a step answers, besides the group after it: results if it waited. -/
abbrev Answer (α : Type) := Result (Option (List α))

def step (g : TaskGroup α) : Step α → Answer α × TaskGroup α
  | .submit job => (.ok none, g.submit job)
  | .sleep duration => (.ok none, g.sleep duration)
  | .wait =>
    let (r, g) := g.wait
    (r.map some, g)
  | .waitFor timeout =>
    let (r, g) := g.waitFor timeout
    (r.map some, g)
  | .fail e => (.error e, g)

/-- The answers of the steps, each with the group after it; a failure ends nothing. -/
def run (g : TaskGroup α) : List (Step α) → List (Answer α × TaskGroup α)
  | [] => []
  | s :: ss =>
    let (answer, g) := g.step s
    (answer, g) :: run g ss

/-- What the steps inside a scope answer, and how the scope is left: with what waiting for all
tasks gives, or with the failure of a step. -/
def runScope (g : TaskGroup α) :
    List (Step α) → List (Answer α × TaskGroup α) × (Result (List α) × TaskGroup α)
  | [] => ([], g.wait)
  | s :: ss =>
    let (answer, g) := g.step s
    match answer with
    | .ok r =>
      let (answers, exit) := runScope g ss
      ((.ok r, g) :: answers, exit)
    | .error e => ([], (.error e, g.cancelAll))

end BucketStore.TaskGroup
