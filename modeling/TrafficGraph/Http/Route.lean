import TrafficGraph.Http.Message

/-!
# Routes

A path leads to the health of the process, to the list of views, to a view, or
to something of a view.  The identity of the view is one segment of the path; a
percent sign with two hexadecimal digits stands for a byte of it.  The segment may
be empty, but not at the end of the path.
-/

namespace TrafficGraph
namespace Http

/-- What can be reached of a view. -/
inductive Resource
  /-- The view itself. -/
  | view
  /-- The source that feeds it. -/
  | source
  /-- Its options. -/
  | options
  /-- The batches delivered to it. -/
  | batches
  /-- The positions given to its nodes. -/
  | positions
  /-- Its graph. -/
  | graph
  /-- Its counters. -/
  | stats
  /-- The stream of its notifications. -/
  | stream
  deriving DecidableEq

namespace Resource

/-- The resources of a view that have a name in a path. -/
def named : List Resource :=
  [.source, .options, .batches, .positions, .graph, .stats, .stream]

/-- The name in a path. -/
def name : Resource → String
  | .view => ""
  | .source => "source"
  | .options => "options"
  | .batches => "batches"
  | .positions => "positions"
  | .graph => "graph"
  | .stats => "stats"
  | .stream => "stream"

/-- What can be done with a resource. -/
def method : Resource → Method
  | .view => .delete
  | .source => .put
  | .options => .put
  | .batches => .post
  | .positions => .post
  | .graph => .get
  | .stats => .get
  | .stream => .get

end Resource

/-- Where a path leads. -/
inductive Route
  | health
  | views
  /-- Something of the view whose identity is written by a segment. -/
  | ofView (segment : Bytes) (resource : Resource)
  deriving DecidableEq

namespace Route

/-- The route behind the first two segments of a path. -/
def ofSegments? : List Bytes → Option Route
  | [name] =>
    if name = utf8 "health" then some .health
    else if name = utf8 "views" then some .views
    else none
  | [name, segment] =>
    if name = utf8 "views" ∧ segment ≠ [] then some (.ofView segment .view) else none
  | [name, segment, part] =>
    if name = utf8 "views" then
      (Resource.named.find? fun resource => utf8 resource.name == part).map (.ofView segment)
    else none
  | _ => none

/-- The route of a path. -/
def ofPath? (path : Bytes) : Option Route :=
  match Text.pieces 0x2F path with
  | [] :: first :: segments => if first = utf8 "api" then ofSegments? segments else none
  | _ => none

/-- What can be done at a route. -/
def method : Route → Method
  | .health => .get
  | .views => .get
  | .ofView _ resource => resource.method

/-- A request with this method can be done; where something can be got, the head
of the response can be got alone. -/
def accepts (route : Route) (method : Method) : Bool :=
  method == route.method || (method == .head && route.method == .get)

end Route

/-- The bytes meant by a segment; a percent sign without two hexadecimal digits
stands for itself. -/
def decodeSegment : Bytes → Bytes
  | 0x25 :: high :: low :: rest =>
    match Json.hexDigit? high, Json.hexDigit? low with
    | some high, some low => UInt8.ofNat (high * 16 + low) :: decodeSegment rest
    | _, _ => 0x25 :: decodeSegment (high :: low :: rest)
  | byte :: rest => byte :: decodeSegment rest
  | [] => []

/-- The identity of the view that a segment writes. -/
def viewId? (segment : Bytes) : Option String :=
  ofUtf8? (decodeSegment segment)

end Http
end TrafficGraph
