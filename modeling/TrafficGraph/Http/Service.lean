import TrafficGraph.Http.MediaType
import TrafficGraph.Http.Route
import TrafficGraph.Wire.Session
import TrafficGraph.Wire.Source

/-!
# The service

The service answers requests from the views of a registry.  A request is first
checked for its route, its method, the identity of its view and its body; only
then it can have an effect.  Declaring the source of a view opens the view.
-/

namespace TrafficGraph
namespace Http

/-- A response with a value. -/
def Response.value {α : Type} [Wire α] (content : α) : Response :=
  ⟨.ok, .json (Wire.encode content)⟩

/-- The largest body. -/
def bodyLimit : Nat := 2097152

/-- The value in the body of a request, or the response to a body without one.
Text behind the value is ignored. -/
def Request.decode (α : Type) [Wire α] (request : Request) : Except Response α :=
  if !request.mediaType.any isJsonType then
    .error (.text .unsupportedMediaType "Expected request with `Content-Type: application/json`")
  else if bodyLimit < request.body.length then
    .error (.text .contentTooLarge "Failed to buffer the request body: length limit exceeded")
  else match Wire.parseFirst α request.body with
    | .ok value => .ok value
    | .error .malformed =>
      .error (.text .badRequest "Failed to parse the request body as JSON")
    | .error .mismatch =>
      .error (.text .unprocessable "Failed to deserialize the JSON body into the target type")

/-- The response to a request for a view that is not open. -/
def noView : Response := .bare .notFound

namespace Service

/-- Declares the source of a view, which is opened if it is not open. -/
def putSource (clock viewId : String) (request : Request) (registry : Registry) :
    Registry × Response :=
  match request.decode Source.Description with
  | .error response => (registry, response)
  | .ok source =>
    let (opened, id) := registry.openView viewId
    let after := opened.modifySession id fun session => (session.setSource clock source).1
    (after, .value (Source.inspect source))

/-- Gives other options to an open view. -/
def putOptions (clock viewId : String) (request : Request) (registry : Registry) :
    Registry × Response :=
  match request.decode GraphOptions with
  | .error response => (registry, response)
  | .ok options =>
    match registry.find? viewId with
    | none => (registry, .text .notFound "unknown view")
    | some (id, session) =>
      match session.setOptions clock options with
      | .error fault => (registry, .text .badRequest fault.message)
      | .ok (after, _) => (registry.modifySession id fun _ => after, .bare .noContent)

/-- Delivers a batch to an open view. -/
def postBatch (clock : String) (now : UInt64) (viewId : String) (request : Request)
    (registry : Registry) : Registry × Response :=
  match request.decode Batch with
  | .error response => (registry, response)
  | .ok batch =>
    match registry.find? viewId with
    | none => (registry, noView)
    | some (id, session) =>
      let (after, outcome) := session.applyBatch clock batch now
      (registry.modifySession id fun _ => after, .value outcome)

/-- Gives positions to nodes of an open view. -/
def postPositions (clock viewId : String) (request : Request) (registry : Registry) :
    Registry × Response :=
  match request.decode (List PositionUpdate) with
  | .error response => (registry, response)
  | .ok updates =>
    match registry.find? viewId with
    | none => (registry, noView)
    | some (id, session) =>
      let (after, applied) := session.mergePositions clock updates
      (registry.modifySession id fun _ => after, .value (PositionsResponse.mk applied))

/-- Closes a view. -/
def deleteView (viewId : String) (registry : Registry) : Registry × Response :=
  let (after, closed) := registry.close viewId
  (after, .bare (if closed then .noContent else .notFound))

/-- The graph of an open view. -/
def graphResponse (clock viewId : String) (session : Session) : GraphResponse where
  viewId
  version := session.version
  timestamp := clock
  snapshot := session.graph.snapshot

/-- What can be got of an open view. -/
def get (viewId : String) (answer : SessionId → Session → Response) (registry : Registry) :
    Registry × Response :=
  match registry.find? viewId with
  | none => (registry, noView)
  | some (id, session) => (registry, answer id session)

/-- Does what a request asks of a view. -/
def ofView (clock : String) (now : UInt64) (viewId : String) (resource : Resource)
    (request : Request) (registry : Registry) : Registry × Response :=
  match resource with
  | .view => deleteView viewId registry
  | .source => putSource clock viewId request registry
  | .options => putOptions clock viewId request registry
  | .batches => postBatch clock now viewId request registry
  | .positions => postPositions clock viewId request registry
  | .graph => get viewId (fun _ session => .value (graphResponse clock viewId session)) registry
  | .stats => get viewId (fun _ session => .value session.stats) registry
  | .stream =>
    get viewId (fun id session => ⟨.ok, .stream ⟨id, session.changes.subscribe⟩⟩) registry

/-- Does what a request asks at its route. -/
def atRoute (clock : String) (now : UInt64) (route : Route) (request : Request)
    (registry : Registry) : Registry × Response :=
  match route with
  | .health => (registry, ⟨.ok, .json (.object [("status", .string "ok")])⟩)
  | .views => (registry, ⟨.ok, .json (.array (registry.viewIds.map .string))⟩)
  | .ofView segment resource =>
    match viewId? segment with
    | none => (registry, .text .badRequest "Invalid URL: Invalid UTF-8 in `view_id`")
    | some viewId => ofView clock now viewId resource request registry

/-- Does what a request asks.  Every request for the options of communication is
granted, whatever its path. -/
def handle (clock : String) (now : UInt64) (request : Request) (registry : Registry) :
    Registry × Response :=
  if request.method = .options then (registry, .bare .ok)
  else
    match Route.ofPath? request.path with
    | none => (registry, .bare .notFound)
    | some route =>
      if route.accepts request.method then
        let (after, response) := atRoute clock now route request registry
        (after, if request.method = .head then response.withoutContent else response)
      else (registry, .bare .methodNotAllowed)

end Service

/-- What a stream delivers when it is read. -/
structure StreamReading where
  /-- The notifications since it was last read; lost ones are passed over. -/
  changes : List Change
  /-- The view is closed, so that nothing more will follow. -/
  ended : Bool
  /-- The stream after it. -/
  stream : ChangeStream

/-- Reads all that a stream has to deliver. -/
def ChangeStream.read (registry : Registry) (stream : ChangeStream) : StreamReading :=
  match registry.session? stream.session with
  | none => ⟨[], true, stream⟩
  | some session => {
      changes := (session.changes.pending stream.receiver).messages
      ended := registry.views.all fun view => view.session != stream.session
      stream := { stream with receiver := session.changes.subscribe } }

end Http
end TrafficGraph
