import TrafficGraph.Proofs.Http.Effects

/-!
# Requests that fail have no effect

Whatever bytes a request has, its answer either comes without an effect or tells of success,
and then nothing but the view that the path names is touched.  This holds in every state that
requests and operations lead to, since a request does nothing but what operations do.
-/

namespace TrafficGraph
namespace Http

namespace Effect

variable {viewId : String} {registry : Registry} {resource : Resource}
  {operations : List Registry.Operation}

/-- What can only be got is not touched. -/
theorem method_ne_get (effect : Effect viewId registry resource operations) :
    resource.method ≠ .get := by
  cases effect with
  | declare clock source => decide
  | change written present operation => exact written
  | close present => decide

/-- Other views stay as they are, open or closed. -/
theorem get?_of_ne
    (effect : Effect viewId registry resource operations)
    (tidy : registry.Tidy)
    {other : String}
    (different : other ≠ viewId) :
    (registry.after operations).get? other = registry.get? other := by
  cases effect with
  | declare clock source => exact Registry.get?_openView_of_ne tidy different
  | change written present operation => rfl
  | close present => exact (tidy.get?_close viewId other).trans (if_neg different)

/-- Only declaring a source opens a view. -/
theorem eq_source_of_opened
    (effect : Effect viewId registry resource operations)
    (closed : registry.get? viewId = none) :
    resource = .source := by
  cases effect with
  | declare clock source => rfl
  | change written present operation =>
      rw [closed] at present
      cases present
  | close present =>
      rw [closed] at present
      cases present

/-- A view that was open stays open, unless it is closed. -/
theorem get?_of_open
    (effect : Effect viewId registry resource operations)
    (tidy : registry.Tidy)
    {id : SessionId}
    (present : registry.get? viewId = some id) :
    (registry.after operations).get? viewId = some id ∨
      resource = .view ∧ (registry.after operations).get? viewId = none := by
  cases effect with
  | declare clock source =>
      refine Or.inl ?_
      change (registry.openView viewId).1.get? viewId = some id
      rw [Registry.openView_of_get? present]
      exact present
  | change written _ operation => exact Or.inl present
  | close _ => exact Or.inr ⟨rfl, (tidy.get?_close viewId viewId).trans (if_pos rfl)⟩

/-- A session that is not the one of the view stays as it is. -/
theorem session?_of_ne
    (effect : Effect viewId registry resource operations)
    {id : SessionId}
    {session : Session}
    (found : registry.session? id = some session)
    (foreign : registry.get? viewId ≠ some id) :
    (registry.after operations).session? id = some session := by
  have untouched {target : SessionId} (different : target ≠ id)
      (operation : Session.Operation) :
      session.undergo (Registry.actsOn id [.call target operation]) = session := by
    rw [Session.undergo_actsOn_cons, if_neg]
    · rfl
    · simpa [Registry.Act.target?] using different
  rw [Registry.session?_after found]
  apply congrArg some
  cases effect with
  | declare clock source =>
      apply untouched
      intro same
      cases present : registry.get? viewId with
      | some other =>
          rw [Registry.openView_of_get? present] at same
          exact foreign (present.trans (congrArg some same))
      | none =>
          rw [Registry.openView, present] at same
          have absent : registry.session? ⟨registry.sessions.length⟩ = none :=
            List.getElem?_eq_none (Nat.le_refl _)
          rw [← same] at found
          exact Option.some_ne_none session (found.symm.trans absent)
  | change written present operation =>
      apply untouched
      intro same
      exact foreign (present.trans (congrArg some same))
  | close present => rfl

end Effect

/-! ## Answers -/

namespace Service

/-- Whatever is requested, it is answered without an effect, or it is done by the method that
the path takes. -/
theorem handle_settles
    (clock : String)
    (now : UInt64)
    (request : Request)
    (registry : Registry) :
    (handle clock now request registry).1 = registry ∨
      (handle clock now request registry).2.status.isSuccess = true ∧
        ∃ resource viewId operations, request.method = resource.method ∧
          request.Names resource viewId ∧ Effect viewId registry resource operations ∧
          (handle clock now request registry).1 = registry.after operations := by
  unfold handle
  by_cases asked : request.method = .options
  · rw [if_pos asked]
    exact Or.inl rfl
  rw [if_neg asked]
  cases routed : Route.ofPath? request.path with
  | none => exact Or.inl rfl
  | some route =>
      by_cases accepted : route.accepts request.method = true
      · simp only [accepted, if_true]
        cases route with
        | health => exact Or.inl rfl
        | views => exact Or.inl rfl
        | ofView segment resource =>
            rw [atRoute]
            cases named : viewId? segment with
            | none => exact Or.inl rfl
            | some viewId =>
                rcases settles_ofView clock now viewId resource request registry with
                  same | ⟨success, operations, effect, done⟩
                · exact Or.inl same
                · refine Or.inr ⟨?_, resource, viewId, operations, ?_, ⟨segment, routed, named⟩,
                    effect, done⟩
                  · dsimp only
                    split
                    · exact success
                    · exact success
                  · rw [Route.accepts, Bool.or_eq_true, beq_iff_eq, Bool.and_eq_true,
                      beq_iff_eq] at accepted
                    rcases accepted with direct | ⟨_, got⟩
                    · exact direct
                    · exact absurd (eq_of_beq got) effect.method_ne_get
      · simp only [accepted]
        exact Or.inl rfl

/-- A request that a view takes is answered by the view. -/
theorem handle_of_names
    {request : Request}
    {resource : Resource}
    {viewId : String}
    (names : request.Names resource viewId)
    (method_eq : request.method = resource.method)
    (clock : String)
    (now : UInt64)
    (registry : Registry) :
    (handle clock now request registry).1 =
        (ofView clock now viewId resource request registry).1 ∧
      (handle clock now request registry).2.status =
        (ofView clock now viewId resource request registry).2.status := by
  obtain ⟨segment, routed, named⟩ := names
  have asked : request.method ≠ .options := by
    rw [method_eq]
    cases resource with
    | _ => decide
  have accepted : (Route.ofView segment resource).accepts request.method = true := by
    rw [Route.accepts, method_eq, Route.method, beq_self_eq_true, Bool.true_or]
  unfold handle
  rw [if_neg asked, routed]
  simp only [accepted, if_true, atRoute, named]
  refine ⟨trivial, ?_⟩
  split
  · rfl
  · rfl

theorem putSource_of_refused
    {request : Request}
    (unread : ∀ source, Wire.parseFirst Source.Description request.body ≠ .ok source)
    (clock viewId : String)
    (registry : Registry) :
    (putSource clock viewId request registry).2.status.isSuccess = false ∧
      (putSource clock viewId request registry).1 = registry := by
  unfold putSource
  cases decoded : request.decode Source.Description with
  | error response => exact ⟨Request.decode_error decoded, rfl⟩
  | ok source => exact absurd (Request.parseFirst_of_decode decoded) (unread source)

theorem putOptions_of_refused
    {request : Request}
    {options : GraphOptions}
    {fault : OptionsError}
    (read : Wire.parseFirst GraphOptions request.body = .ok options)
    (unusable : options.validate = .error fault)
    (clock viewId : String)
    (registry : Registry) :
    (putOptions clock viewId request registry).2.status.isSuccess = false ∧
      (putOptions clock viewId request registry).1 = registry := by
  unfold putOptions
  cases decoded : request.decode GraphOptions with
  | error response => exact ⟨Request.decode_error decoded, rfl⟩
  | ok other =>
      have same := (Request.parseFirst_of_decode decoded).symm.trans read
      rw [Except.ok.injEq] at same
      cases registry.find? viewId with
      | none => exact ⟨rfl, rfl⟩
      | some found =>
          obtain ⟨id, session⟩ := found
          have refused : session.setOptions clock other = .error fault := by
            rw [same, Session.setOptions, unusable]
            rfl
          dsimp only
          rw [refused]
          exact ⟨rfl, rfl⟩

end Service

/-- What the answer to a request tells of its effect. -/
structure Answers (request : Request) (registry : Registry) (answer : Registry × Response) :
    Prop where
  /-- A failure comes without an effect. -/
  failed : answer.2.status.isSuccess = false → answer.1 = registry
  /-- Getting something has no effect. -/
  got : request.method = .get → answer.1 = registry
  /-- Views are opened by declaring their source. -/
  opens : ∀ viewId, registry.get? viewId = none → answer.1.get? viewId ≠ none →
    answer.2.status.isSuccess = true ∧ request.method = .put ∧ request.Names .source viewId
  /-- An open view keeps its session, unless the view is closed by deleting it. -/
  closes : ∀ viewId id, registry.get? viewId = some id → answer.1.get? viewId ≠ some id →
    answer.2.status.isSuccess = true ∧ request.method = .delete ∧
      request.Names .view viewId ∧ answer.1.get? viewId = none
  /-- Views that the path does not name stay open or closed. -/
  others : ∀ viewId, (∀ resource, ¬request.Names resource viewId) →
    answer.1.get? viewId = registry.get? viewId
  /-- A session that is not the one of a named view stays as it is, also if its view is
  closed. -/
  kept : ∀ id session, registry.session? id = some session →
    (∀ resource viewId, request.Names resource viewId → registry.get? viewId ≠ some id) →
      answer.1.session? id = some session
  /-- A source that cannot be read is refused. -/
  sourceRefused : ∀ viewId, request.method = .put → request.Names .source viewId →
    (∀ source, Wire.parseFirst Source.Description request.body ≠ .ok source) →
      answer.2.status.isSuccess = false ∧ answer.1 = registry
  /-- Options that are not usable are refused. -/
  optionsRefused : ∀ viewId options fault, request.method = .put →
    request.Names .options viewId → Wire.parseFirst GraphOptions request.body = .ok options →
      options.validate = .error fault →
        answer.2.status.isSuccess = false ∧ answer.1 = registry

/-- Every answer in a tidy state tells of its effect. -/
theorem answers_of_tidy
    {registry : Registry}
    (tidy : registry.Tidy)
    (clock : String)
    (now : UInt64)
    (request : Request) :
    Answers request registry (Service.handle clock now request registry) := by
  have settles := Service.handle_settles clock now request registry
  refine {
    failed := ?failed
    got := ?got
    opens := ?opens
    closes := ?closes
    others := ?others
    kept := ?kept
    sourceRefused := ?sourceRefused
    optionsRefused := ?optionsRefused }
  case failed =>
    intro failure
    rcases settles with same | ⟨success, _⟩
    · exact same
    · rw [success] at failure
      cases failure
  case got =>
    intro got
    rcases settles with same | ⟨_, resource, viewId, operations, method_eq, _, effect, _⟩
    · exact same
    · exact absurd (method_eq.symm.trans got) effect.method_ne_get
  case opens =>
    intro viewId closed opened
    rcases settles with
      same | ⟨success, resource, named, operations, method_eq, names, effect, done⟩
    · rw [same] at opened
      exact absurd closed opened
    · rw [done] at opened
      by_cases here : viewId = named
      · rw [here] at closed
        have resource_eq := effect.eq_source_of_opened closed
        rw [resource_eq] at method_eq names
        rw [here]
        exact ⟨success, method_eq, names⟩
      · rw [effect.get?_of_ne tidy here] at opened
        exact absurd closed opened
  case closes =>
    intro viewId id present changed
    rcases settles with
      same | ⟨success, resource, named, operations, method_eq, names, effect, done⟩
    · rw [same] at changed
      exact absurd present changed
    · rw [done] at changed ⊢
      by_cases here : viewId = named
      · rw [here] at present changed ⊢
        rcases effect.get?_of_open tidy present with stays | ⟨resource_eq, closed⟩
        · exact absurd stays changed
        · rw [resource_eq] at method_eq names
          exact ⟨success, method_eq, names, closed⟩
      · rw [effect.get?_of_ne tidy here] at changed
        exact absurd present changed
  case others =>
    intro viewId unnamed
    rcases settles with same | ⟨_, resource, named, operations, _, names, effect, done⟩
    · rw [same]
    · rw [done]
      apply effect.get?_of_ne tidy
      intro here
      rw [← here] at names
      exact unnamed resource names
  case kept =>
    intro id session found foreign
    rcases settles with same | ⟨_, resource, named, operations, _, names, effect, done⟩
    · rw [same]
      exact found
    · rw [done]
      exact effect.session?_of_ne found (foreign resource named names)
  case sourceRefused =>
    intro viewId method_eq names unread
    obtain ⟨registry_eq, status_eq⟩ :=
      Service.handle_of_names names method_eq clock now registry
    rw [registry_eq, status_eq]
    exact Service.putSource_of_refused unread clock viewId registry
  case optionsRefused =>
    intro viewId options fault method_eq names read unusable
    obtain ⟨registry_eq, status_eq⟩ :=
      Service.handle_of_names names method_eq clock now registry
    rw [registry_eq, status_eq]
    exact Service.putOptions_of_refused read unusable clock viewId registry

/-! ## After every run -/

/-- What can happen to a registry that is served. -/
inductive Event
  /-- An operation is done, by a timer or by those who hold sessions. -/
  | operation (operation : Registry.Operation)
  /-- A request is answered. -/
  | request (clock : String) (now : UInt64) (request : Request)

/-- The registry after an event. -/
def serve (registry : Registry) : Event → Registry
  | .operation operation => registry.perform operation
  | .request clock now request => (Service.handle clock now request registry).1

theorem tidy_serve
    {registry : Registry}
    (tidy : registry.Tidy)
    (event : Event) :
    (serve registry event).Tidy := by
  cases event with
  | operation operation => exact tidy.perform operation
  | request clock now request =>
      rw [serve]
      rcases Service.handle_settles clock now request registry with
        same | ⟨_, _, _, operations, _, _, _, done⟩
      · rw [same]
        exact tidy
      · rw [done]
        exact tidy.after operations

theorem tidy_foldl_serve
    {registry : Registry}
    (tidy : registry.Tidy)
    (events : List Event) :
    (events.foldl serve registry).Tidy := by
  induction events generalizing registry with
  | nil => exact tidy
  | cons event events inductionHypothesis =>
      exact inductionHypothesis (tidy_serve tidy event)

/-- **Requests fail without effect.** Whatever happened before, the answer to a request either
comes without an effect or tells of success, and touches the named view alone. -/
theorem answers_after
    {options : GraphOptions}
    {period : Nat}
    {created : Registry}
    (isCreated : Registry.create? options period = .ok created)
    (events : List Event)
    (clock : String)
    (now : UInt64)
    (request : Request) :
    Answers request (events.foldl serve created)
      (Service.handle clock now request (events.foldl serve created)) := by
  obtain ⟨_, tidy⟩ := Registry.create?_eq_ok isCreated
  exact answers_of_tidy (tidy_foldl_serve tidy events) clock now request

/-- The source of a view is declared, with a body that is an array of the fields. -/
def declaring : Request where
  method := .put
  path := utf8 "/api/views/main/source"
  mediaType := some (utf8 "application/json")
  body := utf8 "[\"web\",[[\"src\"],[\"dst\"]]]"

/-- The source of another view is declared, and the body breaks off. -/
def garbled : Request :=
  { declaring with
    path := utf8 "/api/views/other/source"
    body := utf8 "[\"web\",[[\"src\"]" }

/-- The first request opens its view, and the second one fails without effect. -/
theorem answers_after_declaring :
    Registry.create? .standard 1000 = .ok .idle ∧
      (serve .idle (.request "" 0 declaring)).get? "main" = some ⟨0⟩ ∧
      (Service.handle "" 0 garbled (serve .idle (.request "" 0 declaring))).2.status =
        .badRequest ∧
      Answers garbled ([.request "" 0 declaring].foldl serve .idle)
        (Service.handle "" 0 garbled ([.request "" 0 declaring].foldl serve .idle)) := by
  have isCreated : Registry.create? .standard 1000 = .ok .idle := by rfl
  refine ⟨isCreated, ?_, ?_, answers_after isCreated [.request "" 0 declaring] "" 0 garbled⟩
  · rfl
  · rfl

end Http
end TrafficGraph
