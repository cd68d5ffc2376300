import Mathlib.Data.List.Pairwise
import TrafficGraph.Proofs.Registry.Run

/-!
# Views and their tasks

Every open view has a session that was created for it, and every task that waits belongs to
an open view.  Among the tasks of a view exactly one is a decay loop.  All operations keep
this, since a view is opened together with its loop and closed together with all its tasks,
and a task that runs goes on with the same owner or not at all.
-/

namespace TrafficGraph

namespace Schedule

variable {κ : Type}

theorem count_arm
    (kind : κ → Bool)
    (task : Task κ)
    (schedule : Schedule κ) :
    (schedule.arm task).count kind =
      schedule.count kind + if kind task.job then 1 else 0 := by
  rw [count, arm, List.countP_append, List.countP_singleton]
  rfl

/-- Cancelling other tasks leaves as many of a kind. -/
theorem count_cancel_of_disjoint
    {kind chosen : κ → Bool}
    (disjoint : ∀ job, kind job = true → chosen job = false)
    (schedule : Schedule κ) :
    (schedule.cancel chosen).count kind = schedule.count kind := by
  rw [count, cancel, List.countP_filter, count]
  apply List.countP_congr
  intro task _
  cases isKind : kind task.job with
  | true => simp [disjoint task.job isKind]
  | false => simp

end Schedule

namespace Job

/-- The job is the decay loop of the view with this session. -/
def isLoopOf (session : SessionId) (job : Job) : Bool :=
  job.belongsTo session && job.isDecay

theorem belongsTo_iff {session : SessionId} {job : Job} :
    job.belongsTo session = true ↔ job.owner = session :=
  beq_iff_eq

theorem owner_of_isLoopOf
    {session : SessionId}
    {job : Job}
    (loop : job.isLoopOf session = true) :
    job.owner = session :=
  belongsTo_iff.1 (Bool.and_eq_true_iff.1 loop).1

theorem isLoopOf_iff {session : SessionId} {job : Job} :
    job.isLoopOf session = true ↔ job = .decay session := by
  cases job with
  | decay owner => simp [isLoopOf, belongsTo, Job.owner, isDecay]
  | pump owner target cursor => simp [isLoopOf, isDecay]
  | wait owner => simp [isLoopOf, isDecay]

/-- A task that goes on belongs to the same view, and a decay loop remains one. -/
theorem of_run
    {clock : String}
    {now : UInt64}
    {ring : Ring}
    {job next : Job}
    {sessions : List Session}
    (goesOn : (job.run clock now ring sessions).2 = some next) :
    next.owner = job.owner ∧ next.isDecay = job.isDecay := by
  cases job with
  | decay owner =>
      cases goesOn
      exact ⟨rfl, rfl⟩
  | pump owner target cursor =>
      unfold run at goesOn
      dsimp only at goesOn
      split at goesOn
      · cases goesOn
        exact ⟨rfl, rfl⟩
      · cases goesOn
  | wait owner => cases goesOn

/-- Decay loops go on, and nothing becomes one. -/
theorem lasting_isLoopOf
    (clock : String)
    (now : UInt64)
    (ring : Ring)
    (session : SessionId) :
    Schedule.Lasting (Job.run clock now ring) (isLoopOf session) where
  goesOn job sessions loop := by
    rw [isLoopOf_iff] at loop
    rw [loop]
    exact ⟨.decay session, rfl, isLoopOf_iff.2 rfl⟩
  stays_out job sessions next other goesOn := by
    obtain ⟨owner_eq, isDecay_eq⟩ := of_run goesOn
    rw [isLoopOf, belongsTo, owner_eq, isDecay_eq]
    exact other

end Job

theorem Attachment.owner_task
    (instant : Nat)
    (owner : SessionId)
    (attachment : Attachment) :
    (attachment.task instant owner).job.owner = owner := by
  cases attachment with
  | _ => rfl

theorem Attachment.isDecay_task
    (instant : Nat)
    (owner : SessionId)
    (attachment : Attachment) :
    (attachment.task instant owner).job.isDecay = false := by
  cases attachment with
  | _ => rfl

namespace Registry

theorem get?_eq_none_iff {registry : Registry} {viewId : String} :
    registry.get? viewId = none ↔ ∀ view ∈ registry.views, view.id ≠ viewId := by
  rw [get?, Option.map_eq_none_iff, List.find?_eq_none]
  simp

/-- The session of an open view is that of one of the views. -/
theorem mem_views_of_get?
    {registry : Registry}
    {viewId : String}
    {id : SessionId}
    (present : registry.get? viewId = some id) :
    ⟨viewId, id⟩ ∈ registry.views := by
  obtain ⟨view, found, session_eq⟩ := Option.map_eq_some_iff.1 present
  have named := List.find?_some found
  rw [beq_iff_eq] at named
  obtain ⟨name, session⟩ := view
  subst named session_eq
  exact List.mem_of_find?_eq_some found

theorem close_of_get?_eq_some
    {registry : Registry}
    {viewId : String}
    {id : SessionId}
    (present : registry.get? viewId = some id) :
    registry.close viewId = ({ registry with
      views := registry.views.filter fun view => view.id != viewId
      schedule := registry.schedule.cancel (Job.belongsTo id) }, true) := by
  rw [close, present]

/-- The session was created for a view. -/
def CreatedFor (viewId : String) (id : SessionId) (registry : Registry) : Prop :=
  ∃ session, registry.session? id = some session ∧ session.viewId = viewId

theorem CreatedFor.perform
    {registry : Registry}
    {viewId : String}
    {id : SessionId}
    (created : registry.CreatedFor viewId id)
    (operation : Operation) :
    (registry.perform operation).CreatedFor viewId id := by
  obtain ⟨session, found, named⟩ := created
  exact ⟨_, session?_perform found operation, (Session.viewId_undergo _ session).trans named⟩

/-- The loop ticks in time: it is due within one period. -/
structure Prompt (registry : Registry) (task : Task Job) : Prop where
  /-- The period is that of the registry, at least one millisecond. -/
  period_eq : task.period = max registry.period 1
  /-- The next run is at most one period away. -/
  due_le : ∃ due, task.due = some due ∧ due ≤ registry.schedule.instant + task.period

/-- Open views have sessions and decay loops of their own, and tasks have open views. -/
structure Tidy (registry : Registry) : Prop where
  /-- No two views have one identity. -/
  nodup : (registry.views.map View.id).Nodup
  /-- The session of a view was created for it. -/
  created : ∀ view ∈ registry.views, registry.CreatedFor view.id view.session
  /-- Every task belongs to an open view. -/
  owned : ∀ task ∈ registry.schedule.tasks, ∃ view ∈ registry.views,
    view.session = task.job.owner
  /-- Every open view has one decay loop. -/
  ticking : ∀ view ∈ registry.views, registry.schedule.count (Job.isLoopOf view.session) = 1
  /-- All decay loops tick in time. -/
  prompt : ∀ task ∈ registry.schedule.tasks, task.job.isDecay = true → registry.Prompt task

namespace Tidy

variable {registry : Registry}

/-- Views with one identity are the same. -/
theorem eq_of_id_eq
    (tidy : registry.Tidy)
    {first second : View}
    (isFirst : first ∈ registry.views)
    (isSecond : second ∈ registry.views)
    (same : first.id = second.id) :
    first = second := by
  have apart := List.pairwise_map.1 tidy.nodup
  have symmetric : Std.Symm fun (first second : View) => first.id ≠ second.id :=
    ⟨fun _ _ => Ne.symm⟩
  apply Decidable.byContradiction
  intro different
  exact apart.forall isFirst isSecond different same

/-- Views with one session are the same. -/
theorem eq_of_session_eq
    (tidy : registry.Tidy)
    {first second : View}
    (isFirst : first ∈ registry.views)
    (isSecond : second ∈ registry.views)
    (same : first.session = second.session) :
    first = second := by
  obtain ⟨session, found, named⟩ := tidy.created first isFirst
  obtain ⟨other, foundOther, namedOther⟩ := tidy.created second isSecond
  rw [same, foundOther] at found
  cases found
  exact tidy.eq_of_id_eq isFirst isSecond (named.symm.trans namedOther)

theorem get?_eq_some_iff
    (tidy : registry.Tidy)
    {viewId : String}
    {id : SessionId} :
    registry.get? viewId = some id ↔ ⟨viewId, id⟩ ∈ registry.views := by
  refine ⟨mem_views_of_get?, ?_⟩
  intro listed
  cases present : registry.get? viewId with
  | none => exact absurd rfl (get?_eq_none_iff.1 present _ listed)
  | some other =>
      have same := tidy.eq_of_id_eq (mem_views_of_get? present) listed rfl
      rw [View.mk.injEq] at same
      rw [same.2]

/-- A session that was not created yet has no tasks. -/
theorem owner_ne_of_session?_eq_none
    (tidy : registry.Tidy)
    {id : SessionId}
    (absent : registry.session? id = none)
    {task : Task Job}
    (listed : task ∈ registry.schedule.tasks) :
    task.job.owner ≠ id := by
  intro same
  obtain ⟨view, isView, owner_eq⟩ := tidy.owned task listed
  obtain ⟨session, found, _⟩ := tidy.created view isView
  rw [owner_eq, same, absent] at found
  cases found

/-! ## Opening and closing -/

theorem openNew
    (tidy : registry.Tidy)
    {viewId : String}
    (closed : registry.get? viewId = none) :
    (registry.openNew viewId).1.Tidy := by
  have unopened : registry.perform (.openView viewId) = (registry.openNew viewId).1 := by
    rw [perform, openView, closed]
  have absent : registry.session? ⟨registry.sessions.length⟩ = none :=
    List.getElem?_eq_none (Nat.le_refl _)
  have others : ∀ view ∈ registry.views, view.session ≠ ⟨registry.sessions.length⟩ := by
    intro view isView same
    obtain ⟨session, found, _⟩ := tidy.created view isView
    rw [same, absent] at found
    cases found
  refine ⟨?nodup, ?created, ?owned, ?ticking, ?prompt⟩
  case nodup =>
    rw [Registry.openNew, List.map_append, List.nodup_append]
    refine ⟨tidy.nodup, List.pairwise_singleton _ _, ?_⟩
    intro name listed other isNew same
    obtain ⟨view, isView, named⟩ := List.mem_map.1 listed
    rw [List.mem_singleton.1 isNew] at same
    exact get?_eq_none_iff.1 closed view isView (named.trans same)
  case created =>
    intro view listed
    rcases List.mem_append.1 listed with isOld | isNew
    · rw [← unopened]
      exact (tidy.created view isOld).perform (.openView viewId)
    · rw [List.mem_singleton.1 isNew]
      refine ⟨Session.create viewId registry.options, ?_, rfl⟩
      exact List.getElem?_concat_length
  case owned =>
    intro task listed
    rcases List.mem_append.1 listed with waits | isNew
    · obtain ⟨view, isView, owner_eq⟩ := tidy.owned task waits
      exact ⟨view, List.mem_append_left _ isView, owner_eq⟩
    · refine ⟨⟨viewId, ⟨registry.sessions.length⟩⟩, ?_, ?_⟩
      · exact List.mem_append_right _ List.mem_cons_self
      · rw [List.mem_singleton.1 isNew]
        rfl
  case ticking =>
    intro view listed
    rw [Registry.openNew, Schedule.count_arm]
    rcases List.mem_append.1 listed with isOld | isNew
    · rw [tidy.ticking view isOld, if_neg]
      rw [Job.isLoopOf_iff, Task.periodic, Job.decay.injEq]
      exact (others view isOld).symm
    · have unowned : registry.schedule.count
          (Job.isLoopOf ⟨registry.sessions.length⟩) = 0 := by
        rw [Schedule.count, List.countP_eq_zero]
        intro task waits loop
        exact tidy.owner_ne_of_session?_eq_none absent waits (Job.owner_of_isLoopOf loop)
      rw [List.mem_singleton.1 isNew, unowned, if_pos]
      exact Job.isLoopOf_iff.2 rfl
  case prompt =>
    intro task listed isDecay
    rcases List.mem_append.1 listed with waits | isNew
    · obtain ⟨period_eq, due_le⟩ := tidy.prompt task waits isDecay
      exact ⟨period_eq, due_le⟩
    · rw [List.mem_singleton.1 isNew]
      exact ⟨rfl, _, rfl, Nat.le_add_right _ _⟩

/-- A closed view takes its tasks and no others with it. -/
theorem close
    (tidy : registry.Tidy)
    (viewId : String) :
    (registry.close viewId).1.Tidy := by
  cases present : registry.get? viewId with
  | none =>
      rw [close_of_get?_eq_none present]
      exact tidy
  | some id =>
      have isView := mem_views_of_get? present
      rw [close_of_get?_eq_some present]
      have others : ∀ view ∈ registry.views, view.id ≠ viewId → view.session ≠ id := by
        intro view isOther different same
        exact different (congrArg View.id (tidy.eq_of_session_eq isOther isView same))
      refine ⟨?nodup, ?created, ?owned, ?ticking, ?prompt⟩
      case nodup => exact tidy.nodup.sublist (List.filter_sublist.map View.id)
      case created =>
        intro view listed
        exact tidy.created view (List.mem_filter.1 listed).1
      case owned =>
        intro task listed
        obtain ⟨waits, spared⟩ := List.mem_filter.1 listed
        obtain ⟨view, isOwner, owner_eq⟩ := tidy.owned task waits
        refine ⟨view, List.mem_filter.2 ⟨isOwner, ?_⟩, owner_eq⟩
        rw [bne_iff_ne]
        intro same
        have view_eq := tidy.eq_of_id_eq isOwner isView same
        rw [view_eq] at owner_eq
        rw [Job.belongsTo_iff.2 owner_eq.symm] at spared
        cases spared
      case ticking =>
        intro view listed
        obtain ⟨isOther, different⟩ := List.mem_filter.1 listed
        rw [bne_iff_ne] at different
        rw [Schedule.count_cancel_of_disjoint]
        · exact tidy.ticking view isOther
        · intro job loop
          rw [Bool.eq_false_iff, Ne, Job.belongsTo_iff, Job.owner_of_isLoopOf loop]
          exact others view isOther different
      case prompt =>
        intro task listed isDecay
        obtain ⟨period_eq, due_le⟩ := tidy.prompt task (List.mem_filter.1 listed).1 isDecay
        exact ⟨period_eq, due_le⟩

theorem attach
    (tidy : registry.Tidy)
    (viewId : String)
    (attachment : Attachment) :
    (registry.attach viewId attachment).1.Tidy := by
  unfold Registry.attach
  cases present : registry.get? viewId with
  | none => exact tidy
  | some id =>
      have isDecay_eq := attachment.isDecay_task registry.schedule.instant id
      refine ⟨tidy.nodup, tidy.created, ?owned, ?ticking, ?prompt⟩
      case owned =>
        intro task listed
        rcases List.mem_append.1 listed with waits | isNew
        · exact tidy.owned task waits
        · refine ⟨⟨viewId, id⟩, mem_views_of_get? present, ?_⟩
          rw [List.mem_singleton.1 isNew, Attachment.owner_task]
      case ticking =>
        intro view isView
        rw [Schedule.count_arm, tidy.ticking view isView, Job.isLoopOf, isDecay_eq,
          Bool.and_false]
        rfl
      case prompt =>
        intro task listed isDecay
        rcases List.mem_append.1 listed with waits | isNew
        · obtain ⟨period_eq, due_le⟩ := tidy.prompt task waits isDecay
          exact ⟨period_eq, due_le⟩
        · rw [List.mem_singleton.1 isNew, isDecay_eq] at isDecay
          cases isDecay

/-! ## Time that goes by -/

theorem advance
    (tidy : registry.Tidy)
    (clock : String)
    (now : UInt64)
    (ring : Ring)
    (time : Nat) :
    (registry.advance clock now ring time).Tidy := by
  have kept := fun view isView => (tidy.created view isView).perform (.advance clock now ring time)
  refine ⟨tidy.nodup, kept, ?owned, ?ticking, ?prompt⟩
  case owned =>
    have step : ∀ (task : Task Job) (sessions : List Session) job due,
        (∃ view ∈ registry.views, view.session = task.job.owner) → task.due = some due →
          due ≤ registry.schedule.instant + time →
            (task.job.run clock now ring sessions).2 = some job →
              ∃ view ∈ registry.views, view.session = (task.rearmed job).job.owner := by
      intro task sessions job due owned _ _ goesOn
      rw [Task.job_rearmed, (Job.of_run goesOn).1]
      exact owned
    exact (Schedule.forall_advance step tidy.owned registry.sessions).1
  case ticking =>
    intro view isView
    exact ((Job.lasting_isLoopOf clock now ring view.session).count_advance time
      registry.schedule registry.sessions).trans (tidy.ticking view isView)
  case prompt =>
    have step : ∀ (task : Task Job) (sessions : List Session) job due,
        (task.job.isDecay = true → (registry.advance clock now ring time).Prompt task) →
          task.due = some due → due ≤ registry.schedule.instant + time →
            (task.job.run clock now ring sessions).2 = some job →
              ((task.rearmed job).job.isDecay = true →
                (registry.advance clock now ring time).Prompt (task.rearmed job)) := by
      intro task sessions job due prompt due_eq inTime goesOn isDecay
      rw [Task.job_rearmed, (Job.of_run goesOn).2] at isDecay
      refine ⟨(prompt isDecay).period_eq, _, Task.due_rearmed due_eq job, ?_⟩
      exact Nat.add_le_add_right inTime task.period
    have before : ∀ task ∈ registry.schedule.tasks, task.job.isDecay = true →
        (registry.advance clock now ring time).Prompt task := by
      intro task waits isDecay
      obtain ⟨period_eq, due, due_eq, due_le⟩ := tidy.prompt task waits isDecay
      refine ⟨period_eq, due, due_eq, Nat.le_trans due_le ?_⟩
      exact Nat.add_le_add_right (Nat.le_add_right _ time) task.period
    exact (Schedule.forall_advance step before registry.sessions).1

/-! ## Runs -/

/-- Every operation keeps views and tasks tidy. -/
theorem perform
    (tidy : registry.Tidy)
    (operation : Operation) :
    (registry.perform operation).Tidy := by
  cases operation with
  | openView viewId =>
      rw [Registry.perform, openView]
      split
      · exact tidy
      · next closed => exact tidy.openNew closed
  | get viewId => exact tidy
  | close viewId => exact tidy.close viewId
  | closeAll => exact closeAll_induction (fun viewId _ tidy => tidy.close viewId) tidy
  | attach viewId attachment => exact tidy.attach viewId attachment
  | advance clock now ring time => exact tidy.advance clock now ring time
  | session id operation =>
      have kept := fun view isView =>
        (tidy.created view isView).perform (.session id operation)
      refine ⟨tidy.nodup, kept, tidy.owned, tidy.ticking, ?_⟩
      intro task waits isDecay
      obtain ⟨period_eq, due_le⟩ := tidy.prompt task waits isDecay
      exact ⟨period_eq, due_le⟩

theorem after
    (tidy : registry.Tidy)
    (operations : List Operation) :
    (registry.after operations).Tidy := by
  induction operations generalizing registry with
  | nil => exact tidy
  | cons operation operations inductionHypothesis =>
      exact inductionHypothesis (tidy.perform operation)

end Tidy

/-- A registry is tidy as long as it has no views and no tasks. -/
theorem tidy_of_nil
    {registry : Registry}
    (views_eq : registry.views = [])
    (tasks_eq : registry.schedule.tasks = []) :
    registry.Tidy := by
  constructor
  all_goals simp [views_eq, tasks_eq]

end Registry
end TrafficGraph
