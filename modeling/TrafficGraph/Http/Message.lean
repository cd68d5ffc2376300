import TrafficGraph.Http.Target
import TrafficGraph.Json.Printer
import TrafficGraph.Registry.Basic

/-!
# Requests and responses

A request has a method, the path of its target, an optional media type and a
body.  A response has a status and carries nothing, a text, a JSON value, or the
beginning of a stream of notifications.
-/

namespace TrafficGraph
namespace Http

/-- What a request asks to be done. -/
inductive Method
  | get
  | head
  | post
  | put
  | delete
  | options
  /-- A method that nothing is defined for. -/
  | other (name : String)
  deriving DecidableEq

/-- The method with a name, if the name is a token. -/
def Method.ofName? (name : String) : Option Method :=
  let bytes := utf8 name
  if bytes = [] ∨ bytes.all isToken = false then none
  else match name with
    | "GET" => some .get
    | "HEAD" => some .head
    | "POST" => some .post
    | "PUT" => some .put
    | "DELETE" => some .delete
    | "OPTIONS" => some .options
    | name => some (.other name)

/-- The bytes of a header: no control characters but the tab. -/
def isHeaderByte (byte : UInt8) : Bool :=
  (0x20 ≤ byte && byte != 0x7F) || byte == 0x09

/-- A request. -/
structure Request where
  /-- What is to be done. -/
  method : Method
  /-- The path of the target. -/
  path : Bytes
  /-- The media type of the body. -/
  mediaType : Option Bytes
  /-- The body. -/
  body : Bytes

/-- The request with these parts, if the method is a token, the target is one and
the media type can be sent. -/
def Request.ofParts? (method : String) (target : Bytes) (mediaType : Option Bytes)
    (body : Bytes) : Option Request := do
  let method ← Method.ofName? method
  let path ← path? target
  if mediaType.all fun value => value.all isHeaderByte then
    some { method, path, mediaType, body }
  else none

/-- The status of a response. -/
inductive Status
  | ok
  | noContent
  | badRequest
  | notFound
  | methodNotAllowed
  | contentTooLarge
  | unsupportedMediaType
  | unprocessable
  deriving DecidableEq

namespace Status

/-- The number of a status. -/
def code : Status → Nat
  | ok => 200
  | noContent => 204
  | badRequest => 400
  | notFound => 404
  | methodNotAllowed => 405
  | contentTooLarge => 413
  | unsupportedMediaType => 415
  | unprocessable => 422

/-- The status tells that the request was done. -/
def isSuccess (status : Status) : Bool :=
  200 ≤ status.code && status.code < 300

end Status

/-- A stream of the notifications of one session. -/
structure ChangeStream where
  /-- The session. -/
  session : SessionId
  /-- What was received or lost so far. -/
  receiver : Receiver
  deriving DecidableEq

/-- What a response carries. -/
inductive Content
  | empty
  | text (content : String)
  | json (content : Json)
  | stream (content : ChangeStream)

/-- The bytes of what a response carries at once; those of a stream follow later. -/
def Content.bytes : Content → Bytes
  | .empty => []
  | .text content => utf8 content
  | .json content => content.print
  | .stream _ => []

/-- A response. -/
structure Response where
  /-- The status. -/
  status : Status
  /-- What it carries. -/
  content : Content

namespace Response

/-- A response that carries nothing. -/
def bare (status : Status) : Response := ⟨status, .empty⟩

/-- A response with a text. -/
def text (status : Status) (content : String) : Response := ⟨status, .text content⟩

/-- The response without what it carries. -/
def withoutContent (response : Response) : Response := ⟨response.status, .empty⟩

end Response
end Http
end TrafficGraph
