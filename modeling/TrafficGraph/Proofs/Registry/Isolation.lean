import TrafficGraph.Proofs.Registry.Ownership

/-!
# What a registry owes to its views

Views are kept apart.  A session is changed by the acts on it alone, and its view is the
only one that has it.  An open view is ticked by one loop, once in every period; with the
view all its tasks go, so they never act again, and a view that is opened again gets a new
session.  All of this holds after every run, since it follows from what is tidy.
-/

namespace TrafficGraph

/-- The session is as good as new. -/
structure Session.IsNew (viewId : String) (options : GraphOptions) (session : Session) : Prop where
  /-- It is the session of the view. -/
  viewId_eq : session.viewId = viewId
  /-- The options are the given ones. -/
  options_eq : session.options = options
  /-- There is no source. -/
  mapping_eq : session.mapping = none
  /-- The graph has neither nodes nor edges. -/
  snapshot_eq : session.graph.snapshot = .empty
  /-- No batch was processed. -/
  version_eq : session.version = -1
  /-- Nothing was counted. -/
  stats_eq : session.stats = .zero
  /-- Nobody was notified. -/
  changes_eq : session.changes = Window.empty

theorem Session.isNew_create (viewId : String) (options : GraphOptions) :
    (create viewId options).IsNew viewId options :=
  ⟨rfl, rfl, rfl, rfl, rfl, rfl, rfl⟩

namespace Registry

variable {registry : Registry} {id : SessionId}

theorem create?_eq_ok
    {options : GraphOptions}
    {period : Nat}
    {created : Registry}
    (isCreated : create? options period = .ok created) :
    (created.options = options ∧ created.period = period) ∧ created.Tidy := by
  unfold create? at isCreated
  split at isCreated
  · cases isCreated
  · cases isCreated
    exact ⟨⟨rfl, rfl⟩, tidy_of_nil rfl rfl⟩

/-- Usable options are enough for a registry. -/
theorem exists_create?_eq_ok
    {options : GraphOptions}
    (usable : options.validate = .ok ())
    (period : Nat) :
    ∃ created, create? options period = .ok created := by
  unfold create?
  split
  · next refused =>
    rw [usable] at refused
    cases refused
  · exact ⟨_, rfl⟩

/-! ## Closed views -/

theorem mem_views_close
    {viewId : String}
    {view : View} :
    view ∈ (registry.close viewId).1.views ↔ view ∈ registry.views ∧ view.id ≠ viewId := by
  cases present : registry.get? viewId with
  | none =>
      rw [close_of_get?_eq_none present]
      exact (and_iff_left_of_imp (get?_eq_none_iff.1 present view)).symm
  | some id =>
      rw [close_of_get?_eq_some present, List.mem_filter, bne_iff_ne]

theorem views_closeAll (registry : Registry) : registry.closeAll.views = [] := by
  have left (views : List View) (later : Registry) (view : View)
      (listed : view ∈
        (views.foldl (fun later view => (later.close view.id).1) later).views) :
      view ∈ later.views ∧ ∀ other ∈ views, view.id ≠ other.id := by
    induction views generalizing later with
    | nil => exact ⟨listed, fun _ none => absurd none List.not_mem_nil⟩
    | cons first views inductionHypothesis =>
        obtain ⟨stays, different⟩ := inductionHypothesis _ listed
        obtain ⟨isView, fromFirst⟩ := mem_views_close.1 stays
        exact ⟨isView, List.forall_mem_cons.2 ⟨fromFirst, different⟩⟩
  rw [List.eq_nil_iff_forall_not_mem]
  intro view listed
  obtain ⟨isView, different⟩ := left registry.views registry view listed
  exact different view isView rfl

/-- Views are opened with new sessions only. -/
theorem mem_views_perform
    {operation : Operation}
    {view : View}
    (listed : view ∈ (registry.perform operation).views) :
    view ∈ registry.views ∨ registry.session? view.session = none := by
  cases operation with
  | openView viewId =>
      rw [perform, openView] at listed
      split at listed
      · exact Or.inl listed
      · rcases List.mem_append.1 listed with isOld | isNew
        · exact Or.inl isOld
        · rw [List.mem_singleton.1 isNew]
          exact Or.inr (List.getElem?_eq_none (Nat.le_refl _))
  | get viewId => exact Or.inl listed
  | close viewId => exact Or.inl (mem_views_close.1 listed).1
  | closeAll =>
      rw [perform, views_closeAll] at listed
      cases listed
  | attach viewId attachment =>
      rw [perform, attach] at listed
      split at listed
      · exact Or.inl listed
      · exact Or.inl listed
  | advance clock now ring time => exact Or.inl listed
  | session target operation => exact Or.inl listed

/-- The session was handed out, and its view is closed. -/
structure IsClosed (id : SessionId) (registry : Registry) : Prop where
  /-- The session was created. -/
  created : ∃ session, registry.session? id = some session
  /-- No view has it. -/
  closed : ∀ view ∈ registry.views, view.session ≠ id

/-- A closed view stays closed. -/
theorem IsClosed.perform
    (isClosed : registry.IsClosed id)
    (operation : Operation) :
    (registry.perform operation).IsClosed id := by
  obtain ⟨session, found⟩ := isClosed.created
  refine ⟨⟨_, session?_perform found operation⟩, ?_⟩
  intro view listed same
  rcases mem_views_perform listed with isOld | isNew
  · exact isClosed.closed view isOld same
  · rw [same, found] at isNew
    cases isNew

/-- No task of a closed view runs. -/
theorem IsClosed.owner?_ne
    (isClosed : registry.IsClosed id)
    (tidy : registry.Tidy)
    {operation : Operation}
    {act : Act}
    (acted : act ∈ registry.acts operation) :
    act.owner? ≠ some id := by
  cases operation with
  | advance clock now ring time =>
      obtain ⟨job, ran, rfl⟩ := List.mem_map.1 acted
      have step : ∀ (task : Task Job) (sessions : List Session) job due,
          task.job.owner ≠ id → task.due = some due →
            due ≤ registry.schedule.instant + time →
              (task.job.run clock now ring sessions).2 = some job →
                (task.rearmed job).job.owner ≠ id := by
        intro task sessions job due other _ _ goesOn
        rw [Task.job_rearmed, (Job.of_run goesOn).1]
        exact other
      have before : ∀ task ∈ registry.schedule.tasks, task.job.owner ≠ id := by
        intro task waits
        obtain ⟨view, isView, owner_eq⟩ := tidy.owned task waits
        rw [← owner_eq]
        exact isClosed.closed view isView
      obtain ⟨task, other, rfl⟩ :=
        (Schedule.forall_advance step before registry.sessions).2 job ran
      exact fun same => other (Option.some.inj same)
  | session target operation =>
      rw [List.mem_singleton.1 acted]
      exact (Option.some_ne_none id).symm
  | openView viewId => cases acted
  | get viewId => cases acted
  | close viewId => cases acted
  | closeAll => cases acted
  | attach viewId attachment => cases acted

/-! ## Ticks -/

/-- The session is ticked by hand. -/
def Operation.ticks (id : SessionId) : Operation → Bool
  | .session target (.tick _ _) => target == id
  | _ => false

/-- Among the tasks that run, the decay loop of a session is what ticks it. -/
theorem countP_isTick_runs
    (clock : String)
    (now : UInt64)
    (ring : Ring)
    (id : SessionId)
    (jobs : List Job) :
    (actsOn id (jobs.map (.run clock now ring))).countP Act.isTick =
      jobs.countP (Job.isLoopOf id) := by
  rw [actsOn, List.countP_filter, List.countP_map]
  apply List.countP_congr
  intro job _
  cases job with
  | decay owner => simp [Act.isTick, Act.target?, Job.target?, Job.isLoopOf_iff]
  | pump owner target cursor => simp [Act.isTick, Job.isLoopOf_iff]
  | wait owner => simp [Act.isTick, Job.isLoopOf_iff]

/-- As time goes by, a session counts the runs of its loop. -/
theorem decayTicks_advance
    {session : Session}
    (found : registry.session? id = some session)
    (clock : String)
    (now : UInt64)
    (ring : Ring)
    (time : Nat) :
    ∃ later, (registry.advance clock now ring time).session? id = some later ∧
      later.stats.decayTicks = session.stats.decayTicks +
        sumOf (Task.runs (registry.schedule.instant + time))
          (Schedule.ofKind (Job.isLoopOf id) registry.schedule.tasks) := by
  refine ⟨_, session?_perform found (.advance clock now ring time), ?_⟩
  rw [Session.decayTicks_undergo, acts, countP_isTick_runs,
    (Job.lasting_isLoopOf clock now ring id).countP_ranIn]

/-- A session whose view is closed is ticked by hand only. -/
theorem IsClosed.countP_isTick
    (isClosed : registry.IsClosed id)
    (tidy : registry.Tidy)
    (operation : Operation) :
    (actsOn id (registry.acts operation)).countP Act.isTick =
      if operation.ticks id then 1 else 0 := by
  cases operation with
  | advance clock now ring time =>
      have untouched : (Operation.advance clock now ring time).ticks id = false := rfl
      rw [acts, countP_isTick_runs, untouched, if_neg Bool.false_ne_true, List.countP_eq_zero]
      intro job ran loop
      have acted : Act.run clock now ring job ∈
          registry.acts (.advance clock now ring time) := List.mem_map_of_mem ran
      exact isClosed.owner?_ne tidy acted (congrArg some (Job.owner_of_isLoopOf loop))
  | session target operation =>
      rw [acts, actsOn, List.countP_filter, List.countP_singleton]
      cases operation with
      | tick clock now => simp [Act.isTick, Act.target?, Operation.ticks]
      | setSource clock source => rfl
      | setOptions clock options => rfl
      | applyBatch clock batch now => rfl
      | mergePositions clock updates => rfl
  | openView viewId => rfl
  | get viewId => rfl
  | close viewId => rfl
  | closeAll => rfl
  | attach viewId attachment => rfl

/-- What becomes of a session after its view was closed. -/
structure Rests (id : SessionId) (operations : List Operation) (registry : Registry) : Prop where
  /-- The view stays closed to it. -/
  isClosed : (registry.after operations).IsClosed id
  /-- Neither the loop nor an attached task of the view ever acts again. -/
  inactive : ∀ act ∈ registry.history operations, act.owner? ≠ some id
  /-- The session counts no ticks but those that are done by hand. -/
  ticks_eq : ∀ session, registry.session? id = some session →
    ∃ later, (registry.after operations).session? id = some later ∧
      later.stats.decayTicks = session.stats.decayTicks +
        operations.countP (Operation.ticks id)

/-- A closed view rests. -/
theorem IsClosed.rests
    (isClosed : registry.IsClosed id)
    (tidy : registry.Tidy)
    (operations : List Operation) :
    registry.Rests id operations := by
  induction operations generalizing registry with
  | nil =>
      refine ⟨isClosed, fun _ none => absurd none List.not_mem_nil, ?_⟩
      intro session found
      exact ⟨session, found, rfl⟩
  | cons operation operations inductionHypothesis =>
      have rests := inductionHypothesis (isClosed.perform operation) (tidy.perform operation)
      refine ⟨rests.isClosed, ?_, ?_⟩
      · intro act acted
        rw [history] at acted
        rcases List.mem_append.1 acted with now | afterwards
        · exact isClosed.owner?_ne tidy now
        · exact rests.inactive act afterwards
      · intro session found
        obtain ⟨later, foundLater, ticks_eq⟩ :=
          rests.ticks_eq _ (session?_perform found operation)
        refine ⟨later, foundLater, ?_⟩
        rw [ticks_eq, Session.decayTicks_undergo, isClosed.countP_isTick tidy,
          List.countP_cons, Nat.add_assoc, Nat.add_comm (List.countP _ _)]

/-! ## Open views -/

/-- The task is the one loop that ticks a session. -/
structure IsLoop (id : SessionId) (task : Task Job) (registry : Registry) : Prop where
  /-- There is no other decay loop for the session. -/
  unique : Schedule.ofKind (Job.isLoopOf id) registry.schedule.tasks = [task]
  /-- It ticks this session. -/
  job_eq : task.job = .decay id
  /-- Its period is that of the registry, at least one millisecond. -/
  period_eq : task.period = max registry.period 1
  /-- It is due within one period. -/
  due_le : ∃ due, task.due = some due ∧ due ≤ registry.schedule.instant + task.period
  /-- As time goes by, the session is ticked whenever it is due. -/
  ticks_eq : ∀ clock now ring time session, registry.session? id = some session →
    ∃ later, (registry.advance clock now ring time).session? id = some later ∧
      later.stats.decayTicks = session.stats.decayTicks +
        task.runs (registry.schedule.instant + time)

/-- Every open view has its loop. -/
theorem Tidy.exists_isLoop
    (tidy : registry.Tidy)
    {viewId : String}
    (present : registry.get? viewId = some id) :
    ∃ task, registry.IsLoop id task := by
  have ticking := tidy.ticking _ (mem_views_of_get? present)
  rw [Schedule.count, List.countP_eq_length_filter, List.length_eq_one_iff] at ticking
  obtain ⟨task, unique⟩ := ticking
  have listed : task ∈ registry.schedule.tasks.filter fun task => task.job.isLoopOf id := by
    rw [unique]
    exact List.mem_cons_self
  obtain ⟨waits, loop⟩ := List.mem_filter.1 listed
  have prompt := tidy.prompt task waits (Bool.and_eq_true_iff.1 loop).2
  refine ⟨task, unique, Job.isLoopOf_iff.1 loop, prompt.period_eq, prompt.due_le, ?_⟩
  intro clock now ring time session found
  obtain ⟨later, foundLater, ticks_eq⟩ := decayTicks_advance found clock now ring time
  refine ⟨later, foundLater, ?_⟩
  rw [ticks_eq, Schedule.ofKind, unique, sumOf_singleton]

theorem Tidy.isDecaying_eq
    (tidy : registry.Tidy)
    (viewId : String) :
    registry.isDecaying viewId = registry.isOpen viewId := by
  rw [isDecaying, isOpen]
  cases present : registry.get? viewId with
  | none => rfl
  | some id =>
      have ticking := tidy.ticking _ (mem_views_of_get? present)
      unfold Job.isLoopOf at ticking
      simp [ticking]

/-- The session of an open view is closed when the view is. -/
theorem Tidy.isClosed_close
    (tidy : registry.Tidy)
    {viewId : String}
    (present : registry.get? viewId = some id) :
    (registry.close viewId).1.IsClosed id := by
  have isView := mem_views_of_get? present
  obtain ⟨session, found, _⟩ := tidy.created _ isView
  refine ⟨⟨_, session?_perform found (.close viewId)⟩, ?_⟩
  intro view listed same
  obtain ⟨isOther, different⟩ := mem_views_close.1 listed
  exact different (congrArg View.id (tidy.eq_of_session_eq isOther isView same))

/-- Closing a view leaves the others open. -/
theorem Tidy.get?_close
    (tidy : registry.Tidy)
    (viewId other : String) :
    (registry.close viewId).1.get? other =
      if other = viewId then none else registry.get? other := by
  apply Option.ext
  intro id
  rw [(tidy.close viewId).get?_eq_some_iff, mem_views_close, ← tidy.get?_eq_some_iff]
  by_cases same : other = viewId
  · simp [same]
  · simp [same]

/-- A view that is opened gets a session that nobody has, as good as new. -/
theorem Tidy.exists_isNew
    (tidy : registry.Tidy)
    {viewId : String}
    (closed : registry.get? viewId = none) :
    ∃ id session, registry.openView viewId = ((registry.openView viewId).1, id) ∧
      registry.session? id = none ∧
      (registry.openView viewId).1.get? viewId = some id ∧
      (registry.openView viewId).1.session? id = some session ∧
      session.IsNew viewId registry.options := by
  have opened := tidy.openNew closed
  rw [openView, closed]
  refine ⟨⟨registry.sessions.length⟩, .create viewId registry.options, rfl, ?_, ?_, ?_, ?_⟩
  · exact List.getElem?_eq_none (Nat.le_refl _)
  · exact opened.get?_eq_some_iff.2 (List.mem_append_right _ List.mem_cons_self)
  · exact List.getElem?_concat_length
  · exact Session.isNew_create viewId registry.options

/-! ## After every run -/

theorem terms_close (viewId : String) (registry : Registry) :
    (registry.close viewId).1.options = registry.options ∧
      (registry.close viewId).1.period = registry.period := by
  unfold close
  split
  · exact ⟨rfl, rfl⟩
  · exact ⟨rfl, rfl⟩

/-- No operation changes the options of new sessions and the period of their loops. -/
theorem terms_perform
    (registry : Registry)
    (operation : Operation) :
    (registry.perform operation).options = registry.options ∧
      (registry.perform operation).period = registry.period := by
  cases operation with
  | openView viewId =>
      rw [perform, openView]
      split
      · exact ⟨rfl, rfl⟩
      · exact ⟨rfl, rfl⟩
  | get viewId => exact ⟨rfl, rfl⟩
  | close viewId => exact terms_close viewId registry
  | closeAll =>
      have kept : ∀ viewId (later : Registry),
          later.options = registry.options ∧ later.period = registry.period →
            (later.close viewId).1.options = registry.options ∧
              (later.close viewId).1.period = registry.period := by
        intro viewId later same
        obtain ⟨options_eq, period_eq⟩ := terms_close viewId later
        exact ⟨options_eq.trans same.1, period_eq.trans same.2⟩
      exact closeAll_induction kept ⟨rfl, rfl⟩
  | attach viewId attachment =>
      rw [perform, attach]
      split
      · exact ⟨rfl, rfl⟩
      · exact ⟨rfl, rfl⟩
  | advance clock now ring time => exact ⟨rfl, rfl⟩
  | session target operation => exact ⟨rfl, rfl⟩

theorem terms_after
    (operations : List Operation)
    (registry : Registry) :
    (registry.after operations).options = registry.options ∧
      (registry.after operations).period = registry.period := by
  induction operations generalizing registry with
  | nil => exact ⟨rfl, rfl⟩
  | cons operation operations inductionHypothesis =>
      obtain ⟨options_eq, period_eq⟩ := terms_perform registry operation
      obtain ⟨optionsAfter_eq, periodAfter_eq⟩ :=
        inductionHypothesis (registry.perform operation)
      exact ⟨optionsAfter_eq.trans options_eq, periodAfter_eq.trans period_eq⟩

/-- How a registry keeps views apart. -/
structure Separates (options : GraphOptions) (period : Nat) (registry : Registry) : Prop where
  /-- Whatever is done, a session is changed by the acts on it alone. -/
  isolated : ∀ operations id session, registry.session? id = some session →
    (registry.after operations).session? id =
      some (session.undergo (actsOn id (registry.history operations)))
  /-- Every open view has a session, and no two have the same. -/
  distinct : ∀ viewId id, registry.get? viewId = some id →
    (∃ session, registry.session? id = some session ∧ session.viewId = viewId) ∧
      ∀ other, registry.get? other = some id → other = viewId
  /-- Opening an open view gives the session that is got, and changes nothing. -/
  reopened : ∀ viewId id, registry.get? viewId = some id →
    registry.openView viewId = (registry, id)
  /-- Opening another view gives a session that nobody has, as good as new. -/
  opened : ∀ viewId, registry.get? viewId = none →
    ∃ id session, registry.openView viewId = ((registry.openView viewId).1, id) ∧
      registry.session? id = none ∧
      (registry.openView viewId).1.get? viewId = some id ∧
      (registry.openView viewId).1.session? id = some session ∧
      session.IsNew viewId options
  /-- A view decays exactly while it is open. -/
  decaying : ∀ viewId, registry.isDecaying viewId = registry.isOpen viewId
  /-- The session of an open view is ticked by one loop, once in every period. -/
  loop : ∀ viewId id, registry.get? viewId = some id →
    ∃ task, registry.IsLoop id task ∧ task.period = max period 1
  /-- Every task that waits belongs to an open view. -/
  owned : ∀ task ∈ registry.schedule.tasks, ∃ viewId,
    registry.get? viewId = some task.job.owner
  /-- Closing tells whether the view was open. -/
  answers : ∀ viewId, (registry.close viewId).2 = registry.isOpen viewId
  /-- Closing a view closes it to its session, and leaves the other views open. -/
  closes : ∀ viewId,
    (∀ id, registry.get? viewId = some id → (registry.close viewId).1.IsClosed id) ∧
      ∀ other, (registry.close viewId).1.get? other =
        if other = viewId then none else registry.get? other
  /-- Closing all views closes each of them. -/
  closesAll : ∀ viewId, registry.closeAll.get? viewId = none ∧
    ∀ id, registry.get? viewId = some id → registry.closeAll.IsClosed id
  /-- Once its view is closed, a session rests from its tasks. -/
  rests : ∀ id, registry.IsClosed id → ∀ operations, registry.Rests id operations
  /-- A view that is not open takes no tasks, and nothing changes. -/
  refuses : ∀ viewId attachment, registry.isOpen viewId = false →
    registry.attach viewId attachment = (registry, false)

theorem Tidy.separates (tidy : registry.Tidy) :
    registry.Separates registry.options registry.period := by
  refine {
    isolated := fun operations id session found => session?_after found operations
    distinct := ?distinct
    reopened := fun viewId id present => openView_of_get? present
    opened := fun viewId closed => tidy.exists_isNew closed
    decaying := tidy.isDecaying_eq
    loop := ?loop
    owned := ?owned
    answers := fun viewId => close_snd viewId registry
    closes := fun viewId => ⟨fun id => tidy.isClosed_close, tidy.get?_close viewId⟩
    closesAll := ?closesAll
    rests := fun id isClosed => isClosed.rests tidy
    refuses := ?refuses }
  case distinct =>
    intro viewId id present
    refine ⟨tidy.created _ (mem_views_of_get? present), ?_⟩
    intro other openOther
    exact congrArg View.id
      (tidy.eq_of_session_eq (mem_views_of_get? openOther) (mem_views_of_get? present) rfl)
  case loop =>
    intro viewId id present
    obtain ⟨task, isLoop⟩ := tidy.exists_isLoop present
    exact ⟨task, isLoop, isLoop.period_eq⟩
  case owned =>
    intro task waits
    obtain ⟨view, isView, owner_eq⟩ := tidy.owned task waits
    refine ⟨view.id, tidy.get?_eq_some_iff.2 ?_⟩
    rw [← owner_eq]
    exact isView
  case closesAll =>
    intro viewId
    refine ⟨?_, ?_⟩
    · rw [get?, views_closeAll]
      rfl
    · intro id present
      obtain ⟨session, found, _⟩ := tidy.created _ (mem_views_of_get? present)
      refine ⟨⟨_, session?_perform found .closeAll⟩, ?_⟩
      rw [views_closeAll]
      exact fun view none => absurd none List.not_mem_nil
  case refuses =>
    intro viewId attachment closed
    rw [isOpen, Option.isSome_eq_false_iff, Option.isNone_iff_eq_none] at closed
    rw [Registry.attach, closed]

/-- A view can be opened: the options are accepted for a new session, and afterwards the view
has a session. -/
structure Opens (viewId : String) (registry : Registry) : Prop where
  /-- The options are accepted. -/
  accepted : Session.create? viewId registry.options = .ok (.create viewId registry.options)
  /-- The view is open afterwards. -/
  opened : ∃ id session,
    registry.openView viewId = ((registry.openView viewId).1, id) ∧
      (registry.openView viewId).1.get? viewId = some id ∧
      (registry.openView viewId).1.session? id = some session ∧ session.viewId = viewId

theorem Tidy.opens
    (tidy : registry.Tidy)
    (viewId : String) :
    registry.Opens viewId := by
  refine ⟨Session.create?_eq_ok_iff.2 ⟨registry.usable, rfl⟩, ?_⟩
  cases present : registry.get? viewId with
  | none =>
      obtain ⟨id, session, opened, _, isOpen, found, isNew⟩ := tidy.exists_isNew present
      exact ⟨id, session, opened, isOpen, found, isNew.viewId_eq⟩
  | some id =>
      obtain ⟨session, found, viewId_eq⟩ := tidy.created _ (mem_views_of_get? present)
      rw [openView_of_get? present]
      exact ⟨id, session, rfl, present, found, viewId_eq⟩

/-- **Separation of views.** Whatever is done with a new registry and with the sessions that
it hands out, views are kept apart and own their timers. -/
theorem separates_after
    {options : GraphOptions}
    {period : Nat}
    {created : Registry}
    (isCreated : create? options period = .ok created)
    (operations : List Operation) :
    (created.after operations).Separates options period := by
  obtain ⟨⟨options_eq, period_eq⟩, tidy⟩ := create?_eq_ok isCreated
  obtain ⟨optionsAfter_eq, periodAfter_eq⟩ := terms_after operations created
  have separates := (tidy.after operations).separates
  rw [optionsAfter_eq, periodAfter_eq, options_eq, period_eq] at separates
  exact separates

/-- A registry without views whose loops tick once in a second. -/
def idle : Registry where
  options := .standard
  usable := rfl
  period := 1000
  sessions := []
  views := []
  schedule := .empty

/-- A view is fed by a pump and closed and opened again, while its first session is kept and
ticked by hand. -/
def reopening : List Operation :=
  [.openView "left", .openView "right", .attach "left" (.pump ⟨0⟩ 2),
    .advance "" 0 ⟨64, by decide, Window.empty⟩ 3, .close "left", .openView "left",
    .session ⟨0⟩ (.tick "" 9), .attach "gone" .pending]

/-- The view that was opened again has another session, and views are kept apart. -/
theorem separates_after_reopening :
    create? .standard 1000 = .ok idle ∧
      (idle.after (reopening.take 3)).get? "left" = some ⟨0⟩ ∧
      (idle.after reopening).get? "left" = some ⟨2⟩ ∧
      (idle.after reopening).Separates .standard 1000 := by
  have isCreated : create? .standard 1000 = .ok idle := by rfl
  refine ⟨isCreated, ?_, ?_, separates_after isCreated reopening⟩
  · rfl
  · rfl

end Registry
end TrafficGraph
