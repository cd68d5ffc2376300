import TrafficGraph.Http.Service
import TrafficGraph.Proofs.Registry.Isolation

/-!
# Effects of requests

A request is checked for its route, its method, the identity of its view and its body before
it can have an effect.  So it either leaves the registry as it is, or succeeds and does to
the view that its path names what can be done with a registry: the source of a view is
declared, a session is changed, or the view is closed.
-/

namespace TrafficGraph

namespace Registry

variable {registry : Registry} {id : SessionId}

/-- The session of an open view is found with its identity. -/
theorem of_find?
    {viewId : String}
    {session : Session}
    (found : registry.find? viewId = some (id, session)) :
    registry.get? viewId = some id ∧ registry.session? id = some session := by
  obtain ⟨other, present, rest⟩ := Option.bind_eq_some_iff.1 found
  obtain ⟨later, isSession, pair_eq⟩ := Option.bind_eq_some_iff.1 rest
  obtain ⟨rfl, rfl⟩ := Prod.mk.inj (Option.some.inj pair_eq)
  exact ⟨present, isSession⟩

/-- A session that is found can be put in place of what an operation makes of it. -/
theorem modifySession_eq_perform
    {session : Session}
    (found : registry.session? id = some session)
    (operation : Session.Operation) :
    (registry.modifySession id fun _ => session.perform operation) =
      registry.perform (.session id operation) := by
  have sessions_eq : (registry.sessions.modify id.index fun _ => session.perform operation) =
      registry.sessions.modify id.index (·.perform operation) := by
    apply List.ext_getElem?
    intro place
    rw [List.getElem?_modify, List.getElem?_modify]
    by_cases here : id.index = place
    · rw [← here]
      rw [session?] at found
      rw [found]
      rfl
    · simp [here]
  rw [perform, modifySession, modifySession, sessions_eq]

/-- Opening a view leaves the others as they are. -/
theorem get?_openView_of_ne
    (tidy : registry.Tidy)
    {viewId other : String}
    (different : other ≠ viewId) :
    (registry.openView viewId).1.get? other = registry.get? other := by
  cases present : registry.get? viewId with
  | some id => rw [openView_of_get? present]
  | none =>
      rw [openView, present]
      apply Option.ext
      intro id
      rw [(tidy.openNew present).get?_eq_some_iff, tidy.get?_eq_some_iff, openNew,
        List.mem_append, List.mem_singleton]
      simp [different]

end Registry

namespace Http

/-- The path of the request names something of a view. -/
def Request.Names (resource : Resource) (viewId : String) (request : Request) : Prop :=
  ∃ segment, Route.ofPath? request.path = some (.ofView segment resource) ∧
    viewId? segment = some viewId

/-- A body without a value is answered with a failure. -/
theorem Request.decode_error
    {α : Type}
    [Wire α]
    {request : Request}
    {response : Response}
    (refused : request.decode α = .error response) :
    response.status.isSuccess = false := by
  unfold decode at refused
  split at refused
  · cases refused
    rfl
  · split at refused
    · cases refused
      rfl
    · split at refused
      · cases refused
      · cases refused
        rfl
      · cases refused
        rfl

/-- Only a body with a value is decoded. -/
theorem Request.parseFirst_of_decode
    {α : Type}
    [Wire α]
    {request : Request}
    {value : α}
    (decoded : request.decode α = .ok value) :
    Wire.parseFirst α request.body = .ok value := by
  unfold decode at decoded
  split at decoded
  · cases decoded
  · split at decoded
    · cases decoded
    · split at decoded
      · next parsed =>
        cases decoded
        exact parsed
      · cases decoded
      · cases decoded

/-- What a request that succeeds does to the view that it names. -/
inductive Effect (viewId : String) (registry : Registry) :
    Resource → List Registry.Operation → Prop
  /-- The source of a view is declared, which is opened if it is not open. -/
  | declare (clock : String) (source : Source.Description) :
    Effect viewId registry .source
      [.openView viewId, .session (registry.openView viewId).2 (.setSource clock source)]
  /-- The session of an open view is changed. -/
  | change {resource : Resource} {id : SessionId} (written : resource.method ≠ .get)
    (present : registry.get? viewId = some id) (operation : Session.Operation) :
    Effect viewId registry resource [.session id operation]
  /-- An open view is closed. -/
  | close {id : SessionId} (present : registry.get? viewId = some id) :
    Effect viewId registry .view [.close viewId]

/-- The answer comes without an effect, or it tells of success and an effect. -/
def Settles (viewId : String) (resource : Resource) (registry : Registry)
    (answer : Registry × Response) : Prop :=
  answer.1 = registry ∨ answer.2.status.isSuccess = true ∧
    ∃ operations, Effect viewId registry resource operations ∧
      answer.1 = registry.after operations

namespace Service

theorem settles_putSource
    (clock viewId : String)
    (request : Request)
    (registry : Registry) :
    Settles viewId .source registry (putSource clock viewId request registry) := by
  unfold putSource
  cases request.decode Source.Description with
  | error response => exact Or.inl rfl
  | ok source => exact Or.inr ⟨rfl, _, .declare clock source, rfl⟩

theorem settles_putOptions
    (clock viewId : String)
    (request : Request)
    (registry : Registry) :
    Settles viewId .options registry (putOptions clock viewId request registry) := by
  unfold putOptions
  cases request.decode GraphOptions with
  | error response => exact Or.inl rfl
  | ok options =>
      cases found_eq : registry.find? viewId with
      | none => exact Or.inl rfl
      | some found =>
          obtain ⟨id, session⟩ := found
          obtain ⟨present, isSession⟩ := Registry.of_find? found_eq
          dsimp only
          cases given : session.setOptions clock options with
          | error fault => exact Or.inl rfl
          | ok taken =>
              obtain ⟨after, reset⟩ := taken
              have performed : session.perform (.setOptions clock options) = after := by
                rw [Session.perform, given]
              refine Or.inr ⟨rfl, _, .change (by decide) present (.setOptions clock options), ?_⟩
              rw [← performed]
              exact Registry.modifySession_eq_perform isSession (.setOptions clock options)

theorem settles_postBatch
    (clock : String)
    (now : UInt64)
    (viewId : String)
    (request : Request)
    (registry : Registry) :
    Settles viewId .batches registry (postBatch clock now viewId request registry) := by
  unfold postBatch
  cases request.decode Batch with
  | error response => exact Or.inl rfl
  | ok batch =>
      cases found_eq : registry.find? viewId with
      | none => exact Or.inl rfl
      | some found =>
          obtain ⟨id, session⟩ := found
          obtain ⟨present, isSession⟩ := Registry.of_find? found_eq
          refine Or.inr ⟨rfl, _, .change (by decide) present (.applyBatch clock batch now), ?_⟩
          exact Registry.modifySession_eq_perform isSession (.applyBatch clock batch now)

theorem settles_postPositions
    (clock viewId : String)
    (request : Request)
    (registry : Registry) :
    Settles viewId .positions registry (postPositions clock viewId request registry) := by
  unfold postPositions
  cases request.decode (List PositionUpdate) with
  | error response => exact Or.inl rfl
  | ok updates =>
      cases found_eq : registry.find? viewId with
      | none => exact Or.inl rfl
      | some found =>
          obtain ⟨id, session⟩ := found
          obtain ⟨present, isSession⟩ := Registry.of_find? found_eq
          refine Or.inr ⟨rfl, _, .change (by decide) present (.mergePositions clock updates), ?_⟩
          exact Registry.modifySession_eq_perform isSession (.mergePositions clock updates)

theorem settles_deleteView
    (viewId : String)
    (registry : Registry) :
    Settles viewId .view registry (deleteView viewId registry) := by
  unfold deleteView
  cases present : registry.get? viewId with
  | none =>
      rw [Registry.close_of_get?_eq_none present]
      exact Or.inl rfl
  | some id =>
      have answered := Registry.close_of_get?_eq_some present
      refine Or.inr ⟨?_, _, .close present, rfl⟩
      rw [answered]
      rfl

theorem get_fst
    (viewId : String)
    (answer : SessionId → Session → Response)
    (registry : Registry) :
    (get viewId answer registry).1 = registry := by
  unfold get
  split <;> rfl

/-- Whatever is asked of a view, it is answered without an effect or done. -/
theorem settles_ofView
    (clock : String)
    (now : UInt64)
    (viewId : String)
    (resource : Resource)
    (request : Request)
    (registry : Registry) :
    Settles viewId resource registry
      (ofView clock now viewId resource request registry) := by
  cases resource with
  | view => exact settles_deleteView viewId registry
  | source => exact settles_putSource clock viewId request registry
  | options => exact settles_putOptions clock viewId request registry
  | batches => exact settles_postBatch clock now viewId request registry
  | positions => exact settles_postPositions clock viewId request registry
  | graph => exact Or.inl (get_fst viewId _ registry)
  | stats => exact Or.inl (get_fst viewId _ registry)
  | stream => exact Or.inl (get_fst viewId _ registry)

end Service
end Http
end TrafficGraph
