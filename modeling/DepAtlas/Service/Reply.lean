import DepAtlas.Differences
import DepAtlas.Document
import DepAtlas.Json.Spelled
import DepAtlas.Service.Sessions
import DepAtlas.Version

/-!
# Replies

A reply is an answer or a refusal, each with a status and a body in JSON.  The texts of a
reply are spelled out.  It is sent with the texts themselves, and cannot be sent if one of
them is uneven.
-/

namespace DepAtlas.Service

/-- What a request is answered with. -/
inductive Answer where
  | health
  | document (id : SessionId) (content : Document)
  | map (id : SessionId) (text : String) (content : Document)
  | dependencies (component : ComponentId) (ids : List ComponentId)
  | dependents (component : ComponentId) (ids : List ComponentId)
  | compared (old new : SessionId) (differences : Differences)
  | removed (id : SessionId)
  deriving DecidableEq, Repr

/-- Why a request is refused. -/
inductive Refusal where
  | unknownPath
  | wrongMethod
  /-- The body cannot be read. -/
  | unreadableBody
  /-- The query or the body is malformed. -/
  | invalid (issues : List Issue)
  /-- The input of an analysis contradicts itself. -/
  | rejected (fault : Fault)
  | unknownAnalysis
  | unknownComponent (id : ComponentId)
  /-- The service could not make up an answer. -/
  | failed
  deriving DecidableEq, Repr

/-- An answer or a refusal. -/
abbrev Reply := Except Refusal Answer

/-- The body of an answer. -/
def Answer.body : Answer → Json
  | .health => .object [("status", .text "ok"), ("version", .text version)]
  | .document id content => .object (("analysis_id", .text id) :: content.toFields)
  | .map id text content =>
      .object [
        ("analysis_id", .text id),
        ("map", .text text),
        ("entry_points", .texts content.entryPoints),
        ("most_connected_components", .texts content.mostConnected),
        ("cycles", .array (content.cycles.map .texts))]
  | .dependencies component ids =>
      .object [("component_id", .text component), ("dependencies", .texts ids)]
  | .dependents component ids =>
      .object [("component_id", .text component), ("dependents", .texts ids)]
  | .compared old new differences =>
      .object ([("old_id", .text old), ("new_id", .text new)] ++ differences.toFields)
  | .removed id => .object [("deleted", .text id)]

/-- The status of a refusal. -/
def Refusal.status : Refusal → Nat
  | .unknownPath => 404
  | .wrongMethod => 405
  | .unreadableBody => 400
  | .invalid _ => 422
  | .rejected _ => 400
  | .unknownAnalysis => 404
  | .unknownComponent _ => 404
  | .failed => 500

/-- What a refusal says. -/
def Refusal.detail : Refusal → Json
  | .unknownPath => .text "Not Found"
  | .wrongMethod => .text "Method Not Allowed"
  | .unreadableBody => .text "There was an error parsing the body"
  | .invalid issues => .array (issues.map (Issue.toJsonBy Text.quotedSpelled))
  | .rejected fault => .text (fault.messageBy Text.quotedSpelled)
  | .unknownAnalysis => .text "Analysis not found"
  | .unknownComponent id => .text s!"Component '{id}' not found"
  | .failed => .text "Internal Server Error"

namespace Reply

/-- The status of a reply. -/
def status : Reply → Nat
  | .ok _ => 200
  | .error refusal => refusal.status

/-- The body of a reply. -/
def body : Reply → Json
  | .ok answer => answer.body
  | .error refusal => .object [("detail", refusal.detail)]

end Reply

/-- What is sent. -/
structure Response where
  status : Nat
  body : Json
  deriving Repr

/-- What is sent for a reply. -/
def Reply.response (reply : Reply) : Response :=
  match reply.body.unspelled? with
  | some body => ⟨reply.status, body⟩
  | none => ⟨Refusal.failed.status, Reply.body (.error .failed)⟩

end DepAtlas.Service
