import TrafficGraph.Proofs.Sum
import TrafficGraph.Schedule

/-!
# Runs of a schedule

The task that runs next is one that is due first, and after its run it is due one period
later.  So whatever each run keeps of the tasks and of the state is kept as time goes by.
The runs that are left to a task up to a limit are fewer by one after each run, and none
is left in the end: a task whose job goes on runs at the instant at which it is due and
then once in every period.
-/

namespace TrafficGraph

namespace Task

variable {κ : Type}

/-- The number of runs of a task up to a limit, if its job goes on. -/
def runs (limit : Nat) (task : Task κ) : Nat :=
  match task.due with
  | some due => if due ≤ limit then (limit - due) / task.period + 1 else 0
  | none => 0

/-- The task as it waits after a run. -/
def rearmed (job : κ) (task : Task κ) : Task κ :=
  { task with due := task.due.map (· + task.period), job }

@[simp] theorem job_rearmed (job : κ) (task : Task κ) : (task.rearmed job).job = job := rfl

@[simp] theorem period_rearmed (job : κ) (task : Task κ) :
    (task.rearmed job).period = task.period := rfl

theorem due_rearmed
    {task : Task κ}
    {due : Nat}
    (due_eq : task.due = some due)
    (job : κ) :
    (task.rearmed job).due = some (due + task.period) := by
  rw [rearmed, due_eq, Option.map_some]

/-- A run leaves one run less. -/
theorem runs_rearmed
    {limit due : Nat}
    {task : Task κ}
    (due_eq : task.due = some due)
    (inTime : due ≤ limit)
    (job : κ) :
    (task.rearmed job).runs limit + 1 = task.runs limit := by
  have positive := task.period_pos
  simp only [runs, due_rearmed due_eq, due_eq, period_rearmed, if_pos inTime]
  by_cases again : due + task.period ≤ limit
  · have left : task.period ≤ limit - due := by omega
    rw [if_pos again, Nat.div_eq_sub_div positive left, Nat.sub_sub]
  · rw [if_neg again, Nat.div_eq_of_lt (by omega)]

/-- A task that is not due has no runs. -/
theorem runs_of_not_due
    {limit : Nat}
    {task : Task κ}
    (later : ∀ due, task.due = some due → limit < due) :
    task.runs limit = 0 := by
  unfold runs
  cases due_eq : task.due with
  | none => rfl
  | some due => exact if_neg (Nat.not_le.2 (later due due_eq))

theorem runsBy_rearmed_lt
    {limit due : Nat}
    {task : Task κ}
    (due_eq : task.due = some due)
    (inTime : due ≤ limit)
    (job : κ) :
    (task.rearmed job).runsBy limit < task.runsBy limit := by
  have positive := task.period_pos
  simp only [runsBy, due_rearmed due_eq, due_eq]
  omega

theorem runsBy_pos
    {limit due : Nat}
    {task : Task κ}
    (due_eq : task.due = some due)
    (inTime : due ≤ limit) :
    0 < task.runsBy limit := by
  simp only [runsBy, due_eq]
  omega

end Task

namespace Schedule

variable {κ σ : Type}

/-! ## The task that runs next -/

theorem isDueBy_of_takeDue?
    {limit : Nat}
    {tasks others : List (Task κ)}
    {task : Task κ}
    (taken : takeDue? limit tasks = some (task, others)) :
    task.isDueBy limit = true := by
  induction tasks generalizing others with
  | nil => simp [takeDue?] at taken
  | cons head rest inductionHypothesis =>
      rw [takeDue?] at taken
      split at taken
      · next due =>
        cases taken
        exact due
      · obtain ⟨⟨found, left⟩, inner, equality⟩ := Option.map_eq_some_iff.1 taken
        cases equality
        exact inductionHypothesis inner

theorem exists_takeDue?
    {limit : Nat}
    {tasks : List (Task κ)}
    {task : Task κ}
    (listed : task ∈ tasks)
    (due : task.isDueBy limit = true) :
    ∃ taken, takeDue? limit tasks = some taken := by
  induction tasks with
  | nil => cases listed
  | cons head rest inductionHypothesis =>
      rw [takeDue?]
      split
      · exact ⟨_, rfl⟩
      · next notDue =>
        rcases List.mem_cons.1 listed with same | behind
        · rw [← same] at notDue
          exact absurd due notDue
        · obtain ⟨taken, found⟩ := inductionHypothesis behind
          rw [found]
          exact ⟨_, rfl⟩

/-- The task that is taken is due by the limit, and the others stay. -/
theorem of_takeNext?
    {limit : Nat}
    {tasks others : List (Task κ)}
    {task : Task κ}
    (taken : takeNext? limit tasks = some (task, others)) :
    (∃ due, task.due = some due ∧ due ≤ limit) ∧ (task :: others).Perm tasks := by
  obtain ⟨instant, _, chosen⟩ := Option.bind_eq_some_iff.1 taken
  split at chosen
  · next inTime =>
    have due := isDueBy_of_takeDue? chosen
    obtain ⟨moment, due_eq, before⟩ := (Option.any_eq_true _ _).1 due
    refine ⟨⟨moment, due_eq, ?_⟩, perm_takeDue? chosen⟩
    exact Nat.le_trans (of_decide_eq_true before) inTime
  · cases chosen

/-- If no task is taken, then none is due by the limit. -/
theorem lt_due_of_takeNext?_eq_none
    {limit : Nat}
    {tasks : List (Task κ)}
    (idle : takeNext? limit tasks = none)
    {task : Task κ}
    (listed : task ∈ tasks)
    {due : Nat}
    (due_eq : task.due = some due) :
    limit < due := by
  have waits : due ∈ tasks.filterMap Task.due := List.mem_filterMap.2 ⟨task, listed, due_eq⟩
  rw [takeNext?, firstDue?] at idle
  cases first_eq : (tasks.filterMap Task.due).min? with
  | none =>
      rw [List.min?_eq_none_iff] at first_eq
      rw [first_eq] at waits
      cases waits
  | some first =>
      obtain ⟨isDue, least⟩ := List.min?_eq_some_iff.1 first_eq
      obtain ⟨earliest, earliestListed, earliest_eq⟩ := List.mem_filterMap.1 isDue
      rw [first_eq] at idle
      apply Nat.lt_of_not_le
      intro inTime
      have earliestDue : earliest.isDueBy first = true := by simp [Task.isDueBy, earliest_eq]
      obtain ⟨taken, found⟩ := exists_takeDue? earliestListed earliestDue
      have inLimit : first ≤ limit := Nat.le_trans (least due waits) inTime
      simp [inLimit, found] at idle

theorem rearm_none (task : Task κ) : rearm task none = [] := rfl

theorem rearm_some (task : Task κ) (job : κ) : rearm task (some job) = [task.rearmed job] := rfl

/-! ## What runs -/

/-- The jobs that are run, in order. -/
def ran (act : κ → σ → σ × Option κ) (limit : Nat) : Nat → List (Task κ) → σ → List κ
  | 0, _, _ => []
  | runs + 1, tasks, state =>
    match takeNext? limit tasks with
    | none => []
    | some (task, others) =>
      let (after, next) := act task.job state
      task.job :: ran act limit runs (others ++ rearm task next) after

section Runs

variable {act : κ → σ → σ × Option κ} {limit : Nat}

/-- The state is what the jobs that are run make of it, one after the other. -/
theorem runTasks_snd
    (act : κ → σ → σ × Option κ)
    (limit runs : Nat)
    (tasks : List (Task κ))
    (state : σ) :
    (runTasks act limit runs tasks state).2 =
      (ran act limit runs tasks state).foldl (fun state job => (act job state).1) state := by
  induction runs generalizing tasks state with
  | zero => rfl
  | succ runs inductionHypothesis =>
      rw [runTasks, ran]
      cases takeNext? limit tasks with
      | none => rfl
      | some taken => exact inductionHypothesis _ _

/-- What each run keeps of the tasks holds of all tasks when time has gone by, and of every
task that is run. -/
theorem forall_runTasks
    {property : Task κ → Prop}
    (step : ∀ task state job due, property task → task.due = some due → due ≤ limit →
      (act task.job state).2 = some job → property (task.rearmed job))
    (runs : Nat)
    {tasks : List (Task κ)}
    (holds : ∀ task ∈ tasks, property task)
    (state : σ) :
    (∀ task ∈ (runTasks act limit runs tasks state).1, property task) ∧
      ∀ job ∈ ran act limit runs tasks state, ∃ task, property task ∧ task.job = job := by
  induction runs generalizing tasks state with
  | zero => exact ⟨holds, fun _ none => absurd none List.not_mem_nil⟩
  | succ runs inductionHypothesis =>
      rw [runTasks, ran]
      cases taken_eq : takeNext? limit tasks with
      | none => exact ⟨holds, fun _ none => absurd none List.not_mem_nil⟩
      | some taken =>
          obtain ⟨task, others⟩ := taken
          obtain ⟨⟨due, due_eq, inTime⟩, perm⟩ := of_takeNext? taken_eq
          have holdsTask := holds task (perm.mem_iff.1 List.mem_cons_self)
          have holdsNext : ∀ other ∈ others ++ rearm task (act task.job state).2,
              property other := by
            intro other listed
            rcases List.mem_append.1 listed with waits | again
            · exact holds other (perm.mem_iff.1 (List.mem_cons_of_mem task waits))
            · cases next_eq : (act task.job state).2 with
              | none =>
                  rw [next_eq, rearm_none] at again
                  cases again
              | some job =>
                  rw [next_eq, rearm_some, List.mem_singleton] at again
                  rw [again]
                  exact step task state job due holdsTask due_eq inTime next_eq
          obtain ⟨later, acted⟩ := inductionHypothesis holdsNext (act task.job state).1
          refine ⟨later, ?_⟩
          intro job listed
          rcases List.mem_cons.1 listed with same | behind
          · exact ⟨task, holdsTask, same.symm⟩
          · exact acted job behind

/-! ## How often a job runs -/

/-- If each run spends some of the weight of its task, then all runs together spend what is
missing in the end. -/
theorem sumOf_runTasks
    {weight : Task κ → Nat}
    {cost : κ → Nat}
    (step : ∀ task state due, task.due = some due → due ≤ limit →
      weight task = cost task.job + sumOf weight (rearm task (act task.job state).2))
    (runs : Nat)
    (tasks : List (Task κ))
    (state : σ) :
    sumOf weight tasks =
      sumOf cost (ran act limit runs tasks state) +
        sumOf weight (runTasks act limit runs tasks state).1 := by
  induction runs generalizing tasks state with
  | zero => exact (Nat.zero_add _).symm
  | succ runs inductionHypothesis =>
      rw [runTasks, ran]
      cases taken_eq : takeNext? limit tasks with
      | none => exact (Nat.zero_add _).symm
      | some taken =>
          obtain ⟨task, others⟩ := taken
          obtain ⟨⟨due, due_eq, inTime⟩, perm⟩ := of_takeNext? taken_eq
          dsimp only
          rw [sumOf_cons, Nat.add_assoc, ← inductionHypothesis, ← sumOf_perm weight perm,
            sumOf_cons, sumOf_append, step task state due due_eq inTime, Nat.add_assoc,
            Nat.add_comm (sumOf weight others)]

/-- With enough runs no task is left that is due by the limit. -/
theorem takeNext?_runTasks
    (act : κ → σ → σ × Option κ)
    {limit runs : Nat}
    {tasks : List (Task κ)}
    (enough : sumOf (Task.runsBy limit) tasks ≤ runs)
    (state : σ) :
    takeNext? limit (runTasks act limit runs tasks state).1 = none := by
  induction runs generalizing tasks state with
  | zero =>
      rw [runTasks]
      cases taken_eq : takeNext? limit tasks with
      | none => rfl
      | some taken =>
          obtain ⟨task, others⟩ := taken
          obtain ⟨⟨due, due_eq, inTime⟩, perm⟩ := of_takeNext? taken_eq
          have positive := Task.runsBy_pos due_eq inTime
          rw [← sumOf_perm _ perm, sumOf_cons] at enough
          omega
  | succ runs inductionHypothesis =>
      rw [runTasks]
      cases taken_eq : takeNext? limit tasks with
      | none => exact taken_eq
      | some taken =>
          obtain ⟨task, others⟩ := taken
          obtain ⟨⟨due, due_eq, inTime⟩, perm⟩ := of_takeNext? taken_eq
          apply inductionHypothesis
          rw [← sumOf_perm _ perm, sumOf_cons] at enough
          rw [sumOf_append]
          have positive := Task.runsBy_pos due_eq inTime
          cases (act task.job state).2 with
          | none =>
              rw [rearm_none, sumOf_nil]
              omega
          | some job =>
              have fewer := Task.runsBy_rearmed_lt due_eq inTime job
              rw [rearm_some, sumOf_singleton]
              omega

/-- A kind of jobs is lasting if its jobs go on as jobs of this kind and no others become
such jobs. -/
structure Lasting (act : κ → σ → σ × Option κ) (kind : κ → Bool) : Prop where
  /-- Its jobs go on. -/
  goesOn : ∀ job state, kind job = true → ∃ next, (act job state).2 = some next ∧ kind next = true
  /-- Others do not become such jobs. -/
  stays_out : ∀ job state next, kind job = false → (act job state).2 = some next →
    kind next = false

/-- The tasks of a kind. -/
def ofKind (kind : κ → Bool) (tasks : List (Task κ)) : List (Task κ) :=
  tasks.filter fun task => kind task.job

namespace Lasting

variable {kind : κ → Bool}

/-- If each run takes the same from the weight of its task, then the tasks of a lasting kind
lose as much for every job of the kind that is run. -/
theorem sumOf_runTasks
    (lasting : Lasting act kind)
    {weight : Task κ → Nat}
    {cost : Nat}
    (spent : ∀ (task : Task κ) due job, task.due = some due → due ≤ limit →
      weight task = cost + weight (task.rearmed job))
    (runs : Nat)
    (tasks : List (Task κ))
    (state : σ) :
    sumOf weight (ofKind kind tasks) =
      cost * (ran act limit runs tasks state).countP kind +
        sumOf weight (ofKind kind (runTasks act limit runs tasks state).1) := by
  rw [ofKind, ofKind, sumOf_filter, sumOf_filter, ← sumOf_ite]
  apply Schedule.sumOf_runTasks
  intro task state due due_eq inTime
  cases isKind : kind task.job with
  | true =>
      obtain ⟨next, next_eq, nextKind⟩ := lasting.goesOn task.job state isKind
      rw [next_eq, rearm_some, sumOf_singleton, Task.job_rearmed, nextKind]
      exact spent task due next due_eq inTime
  | false =>
      cases next_eq : (act task.job state).2 with
      | none => rfl
      | some next =>
          rw [rearm_some, sumOf_singleton, Task.job_rearmed,
            lasting.stays_out task.job state next isKind next_eq]
          rfl

/-- There are always as many tasks of a lasting kind. -/
theorem countP_runTasks
    (lasting : Lasting act kind)
    (limit runs : Nat)
    (tasks : List (Task κ))
    (state : σ) :
    (runTasks act limit runs tasks state).1.countP (fun task => kind task.job) =
      tasks.countP fun task => kind task.job := by
  have counted (tasks : List (Task κ)) :
      sumOf (fun _ => 1) (ofKind kind tasks) = tasks.countP fun task => kind task.job := by
    rw [ofKind, sumOf_filter, sumOf_ite, Nat.one_mul]
  have kept : sumOf (fun _ => 1) (ofKind kind tasks) =
      0 * (ran act limit runs tasks state).countP kind +
        sumOf (fun _ => 1) (ofKind kind (runTasks act limit runs tasks state).1) :=
    lasting.sumOf_runTasks (fun _ _ _ _ _ => rfl) runs tasks state
  rw [Nat.zero_mul, Nat.zero_add, counted, counted] at kept
  exact kept.symm

/-- With enough runs the jobs of a lasting kind are run as often as their tasks are due. -/
theorem countP_ran
    (lasting : Lasting act kind)
    {runs : Nat}
    {tasks : List (Task κ)}
    (enough : sumOf (Task.runsBy limit) tasks ≤ runs)
    (state : σ) :
    (ran act limit runs tasks state).countP kind =
      sumOf (Task.runs limit) (ofKind kind tasks) := by
  have idle := takeNext?_runTasks act enough state
  have nothing : sumOf (Task.runs limit)
      (ofKind kind (runTasks act limit runs tasks state).1) = 0 := by
    apply sumOf_eq_zero_iff.2
    intro task listed
    apply Task.runs_of_not_due
    intro due
    exact lt_due_of_takeNext?_eq_none idle (List.mem_filter.1 listed).1
  have spent : ∀ (task : Task κ) due job, task.due = some due → due ≤ limit →
      task.runs limit = 1 + (task.rearmed job).runs limit := by
    intro task due job due_eq inTime
    rw [Nat.add_comm, Task.runs_rearmed due_eq inTime]
  rw [lasting.sumOf_runTasks spent runs tasks state, nothing, Nat.one_mul, Nat.add_zero]

end Lasting
end Runs

/-! ## Time that goes by -/

/-- The jobs that are run as time goes by, in order. -/
def ranIn (act : κ → σ → σ × Option κ) (time : Nat) (schedule : Schedule κ) (state : σ) : List κ :=
  ran act (schedule.instant + time) (runsBy (schedule.instant + time) schedule.tasks)
    schedule.tasks state

theorem runsBy_eq (limit : Nat) (tasks : List (Task κ)) :
    runsBy limit tasks = sumOf (Task.runsBy limit) tasks :=
  List.sum_eq_foldl.symm

section Advance

variable {act : κ → σ → σ × Option κ} {time : Nat} {schedule : Schedule κ}

theorem advance_snd
    (act : κ → σ → σ × Option κ)
    (time : Nat)
    (schedule : Schedule κ)
    (state : σ) :
    (schedule.advance act time state).2 =
      (schedule.ranIn act time state).foldl (fun state job => (act job state).1) state :=
  runTasks_snd act _ _ schedule.tasks state

theorem forall_advance
    {property : Task κ → Prop}
    (step : ∀ task state job due, property task → task.due = some due →
      due ≤ schedule.instant + time → (act task.job state).2 = some job →
        property (task.rearmed job))
    (holds : ∀ task ∈ schedule.tasks, property task)
    (state : σ) :
    (∀ task ∈ (schedule.advance act time state).1.tasks, property task) ∧
      ∀ job ∈ schedule.ranIn act time state, ∃ task, property task ∧ task.job = job :=
  forall_runTasks step _ holds state

theorem Lasting.count_advance
    {kind : κ → Bool}
    (lasting : Lasting act kind)
    (time : Nat)
    (schedule : Schedule κ)
    (state : σ) :
    (schedule.advance act time state).1.count kind = schedule.count kind :=
  lasting.countP_runTasks _ _ schedule.tasks state

theorem Lasting.countP_ranIn
    {kind : κ → Bool}
    (lasting : Lasting act kind)
    (time : Nat)
    (schedule : Schedule κ)
    (state : σ) :
    (schedule.ranIn act time state).countP kind =
      sumOf (Task.runs (schedule.instant + time)) (ofKind kind schedule.tasks) :=
  lasting.countP_ran (Nat.le_of_eq (runsBy_eq _ _).symm) state

end Advance
end Schedule
end TrafficGraph
