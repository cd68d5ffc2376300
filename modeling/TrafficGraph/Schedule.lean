/-!
# Schedules of periodic tasks

A task runs at the instant at which it is started and then once in every period,
until it ends or is cancelled.  Instants are counted in milliseconds.  Of several
tasks that are due at one instant the one that was armed first runs first.
-/

namespace TrafficGraph

/-- A task that waits for its next run. -/
structure Task (κ : Type) where
  /-- The instant of the next run; a task without one is never run. -/
  due : Option Nat
  /-- The time between two runs. -/
  period : Nat
  /-- Time goes by between two runs. -/
  period_pos : 0 < period
  /-- What the task does. -/
  job : κ

namespace Task

variable {κ : Type}

/-- A task that is due at an instant and then once in every period, the shortest
period being one millisecond. -/
def periodic (instant period : Nat) (job : κ) : Task κ where
  due := some instant
  period := max period 1
  period_pos := by omega
  job

/-- A task that is never due. -/
def never (job : κ) : Task κ where
  due := none
  period := 1
  period_pos := by omega
  job

/-- The task is due at some instant up to a limit. -/
def isDueBy (limit : Nat) (task : Task κ) : Bool :=
  task.due.any (· ≤ limit)

/-- The greatest number of runs of a task up to a limit. -/
def runsBy (limit : Nat) (task : Task κ) : Nat :=
  match task.due with
  | some due => limit + 1 - due
  | none => 0

end Task

/-- The tasks that wait for their next run, and the present instant. -/
structure Schedule (κ : Type) where
  /-- The present instant. -/
  instant : Nat
  /-- The tasks, in the order in which they were armed. -/
  tasks : List (Task κ)

namespace Schedule

variable {κ σ : Type}

/-- The schedule without tasks at the beginning of time. -/
def empty : Schedule κ := ⟨0, []⟩

/-- Arms a task. -/
def arm (task : Task κ) (schedule : Schedule κ) : Schedule κ :=
  { schedule with tasks := schedule.tasks ++ [task] }

/-- Cancels all tasks whose job is chosen. -/
def cancel (chosen : κ → Bool) (schedule : Schedule κ) : Schedule κ :=
  { schedule with tasks := schedule.tasks.filter fun task => !chosen task.job }

/-- The number of tasks whose job is chosen. -/
def count (chosen : κ → Bool) (schedule : Schedule κ) : Nat :=
  schedule.tasks.countP fun task => chosen task.job

/-- The earliest instant at which some task is due. -/
def firstDue? (tasks : List (Task κ)) : Option Nat :=
  (tasks.filterMap Task.due).min?

/-- Takes the task out of a list that was armed first among those due by a limit. -/
def takeDue? (limit : Nat) : List (Task κ) → Option (Task κ × List (Task κ))
  | [] => none
  | task :: rest =>
    if task.isDueBy limit then some (task, rest)
    else (takeDue? limit rest).map fun (found, others) => (found, task :: others)

/-- Takes the task out of a list that is to run next, if it is due by a limit. -/
def takeNext? (limit : Nat) (tasks : List (Task κ)) : Option (Task κ × List (Task κ)) := do
  let instant ← firstDue? tasks
  if instant ≤ limit then takeDue? instant tasks else none

/-- The task that waits after a run, if its job goes on. -/
def rearm (task : Task κ) (next : Option κ) : List (Task κ) :=
  match next with
  | some job => [{ task with due := task.due.map (· + task.period), job }]
  | none => []

/-- Runs tasks that are due by a limit, one after the other and no more than so
many. -/
def runTasks (act : κ → σ → σ × Option κ) (limit : Nat) :
    Nat → List (Task κ) → σ → List (Task κ) × σ
  | 0, tasks, state => (tasks, state)
  | runs + 1, tasks, state =>
    match takeNext? limit tasks with
    | none => (tasks, state)
    | some (task, others) =>
      let (after, next) := act task.job state
      runTasks act limit runs (others ++ rearm task next) after

/-- The greatest number of runs up to a limit. -/
def runsBy (limit : Nat) (tasks : List (Task κ)) : Nat :=
  (tasks.map (Task.runsBy limit)).foldl (· + ·) 0

/-- Lets time go by and runs every task whenever it is due, at the last instant
too. -/
def advance (act : κ → σ → σ × Option κ) (time : Nat) (schedule : Schedule κ) (state : σ) :
    Schedule κ × σ :=
  let limit := schedule.instant + time
  let (tasks, after) := runTasks act limit (runsBy limit schedule.tasks) schedule.tasks state
  (⟨limit, tasks⟩, after)

/-- A task that is taken out was one of the list, and the others stay in order. -/
theorem perm_takeDue? {limit : Nat} {tasks others : List (Task κ)} {task : Task κ}
    (taken : takeDue? limit tasks = some (task, others)) : (task :: others).Perm tasks := by
  induction tasks generalizing others with
  | nil => simp [takeDue?] at taken
  | cons head rest inductionHypothesis =>
    rw [takeDue?] at taken
    split at taken
    · cases taken
      exact .refl _
    · obtain ⟨⟨found, left⟩, inner, equality⟩ := Option.map_eq_some_iff.1 taken
      cases equality
      exact (List.Perm.swap head task left).trans ((inductionHypothesis inner).cons head)

end Schedule
end TrafficGraph
