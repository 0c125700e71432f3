import DepAtlas.Map
import DepAtlas.Service.Call
import DepAtlas.Service.Reply

/-!
# The service

The service answers one request after another out of the sessions that it keeps.  An
analysis takes time: the request for it is accepted when it arrives, and other requests
may be served before the analysis is complete.  Only the completion of an analysis adds
a session, and only a removal takes one away.

Whatever the service is sent may be uneven.  It works on texts that are spelled out, which
are compared, ordered and joined as the texts themselves are.
-/

namespace DepAtlas.Service

/-- Faults that the input of an analysis can cause; any other one is a breakdown. -/
def refusalOf : Fault → Refusal
  | .absent _ | .unopened _ | .oversizedNumber => .failed
  | fault => .rejected fault

/-- The document of an analysis, as part of a reply. -/
def documentOf (result : Analysis) : Except Refusal Document :=
  match result.document with
  | .ok document => .ok document
  | .bad _ => .error .failed

/-- The map of a session. -/
def mapOf (session : Session) (focus : Option String) (showOrder showDependencies : Bool) :
    Except Refusal String :=
  match session.result.map
    { repository := some session.label, focus, showOrder, showDependencies } {} with
  | .ok text => .ok text
  | .error _ => .error .failed

/-- Answer what is read from a session. -/
def Session.answer (session : Session) : Query → Reply
  | .document => do
      let document ← documentOf session.result
      return .document session.id document
  | .map focus showOrder showDependencies => do
      let text ← mapOf session focus showOrder showDependencies
      let document ← documentOf session.result
      return .map session.id text document
  | .dependencies component =>
      match session.result.dependencies? component with
      | some ids => .ok (.dependencies component ids)
      | none => .error (.unknownComponent component)
  | .dependents component =>
      match session.result.dependents? component with
      | some ids => .ok (.dependents component ids)
      | none => .error (.unknownComponent component)

/-- The call that a request makes, or the refusal of one that makes none. -/
def Request.call (request : Request) : Except Refusal Call :=
  let address := request.destination
  match Endpoint.route request.method address with
  | .error .unknownPath => .error .unknownPath
  | .error .wrongMethod => .error .wrongMethod
  | .ok endpoint =>
      match Call.ofParts address.parameters request.body endpoint with
      | .error .unreadableBody => .error .unreadableBody
      | .error (.invalid issues) => .error (.invalid issues)
      | .ok call => .ok call

/-- Run an analysis that has been asked for. -/
def Job.outcome (job : Job) : Except Fault Analysis :=
  (analyze {} job.input.records job.input.references).outcome

/-- How a request is received. -/
inductive Reception where
  | answered (reply : Reply)
  /-- An analysis has been asked for, which will be answered when it is complete. -/
  | accepted (job : Job)

namespace Sessions

/-- The session with an id, or the refusal of a request that names it. -/
def lookup (sessions : Sessions) (id : SessionId) : Except Refusal Session :=
  match sessions.get? id with
  | some session => .ok session
  | none => .error .unknownAnalysis

/-- Compare two sessions. -/
def compare (sessions : Sessions) (old new : SessionId) : Reply := do
  let before ← sessions.lookup old
  let after ← sessions.lookup new
  return .compared before.id after.id (before.result.differences after.result)

/-- Complete an analysis: keep its result under an id and answer with the document. -/
def complete (sessions : Sessions) (id : SessionId) (job : Job) : Sessions × Reply :=
  match job.outcome with
  | .error fault => (sessions, .error (refusalOf fault))
  | .ok result =>
      (sessions.store ⟨id, job.label, result⟩, (documentOf result).map (Answer.document id))

/-- Act on a call.  A call for an analysis is accepted and not answered yet. -/
def dispatch (sessions : Sessions) : Call → Sessions × Reception
  | .health => (sessions, .answered (.ok .health))
  | .analyze job => (sessions, .accepted job)
  | .compare old new => (sessions, .answered (sessions.compare old new))
  | .read id query =>
      (sessions, .answered ((sessions.lookup id).bind fun session => session.answer query))
  | .remove id =>
      match sessions.lookup id with
      | .ok _ => (sessions.remove id, .answered (.ok (.removed id)))
      | .error refusal => (sessions, .answered (.error refusal))

/-- Receive a request. -/
def receive (sessions : Sessions) (request : Request) : Sessions × Reception :=
  match request.call with
  | .error refusal => (sessions, .answered (.error refusal))
  | .ok call => sessions.dispatch call

/-- Handle a request to its end: an analysis that it asks for is completed at once, under
the next id. -/
def handle (sessions : Sessions) (request : Request) : Sessions × Reply :=
  match sessions.receive request with
  | (sessions, .answered reply) => (sessions, reply)
  | (sessions, .accepted job) => sessions.complete sessions.nextId job

/-- The replies to requests that are handled one after another. -/
def handleAll (sessions : Sessions) : List Request → List Reply
  | [] => []
  | request :: requests =>
      let (next, reply) := sessions.handle request
      reply :: next.handleAll requests

end Sessions

/-- A running service: its sessions, and the analyses in flight in the order of their
arrival. -/
structure Server where
  sessions : Sessions := {}
  inFlight : List Job := []
  deriving Repr

/-- What happens to a running service. -/
inductive Event where
  | arrival (request : Request)
  /-- The analysis at a position among those in flight is complete, and an id has been drawn
  for it. -/
  | completion (position : Nat) (id : SessionId)
  deriving DecidableEq, Repr

namespace Server

/-- What an event does to the service, and the reply that it leads to. -/
def step (server : Server) : Event → Server × Option Reply
  | .arrival request =>
      match server.sessions.receive request with
      | (sessions, .answered reply) => ({ server with sessions }, some reply)
      | (sessions, .accepted job) => (⟨sessions, server.inFlight ++ [job]⟩, none)
  | .completion position id =>
      match server.inFlight[position]? with
      | none => (server, none)
      | some job =>
          let (sessions, reply) := server.sessions.complete id job
          (⟨sessions, server.inFlight.eraseIdx position⟩, some reply)

/-- The service after a list of events. -/
def run (server : Server) (events : List Event) : Server :=
  events.foldl (fun server event => (server.step event).1) server

end Server

end DepAtlas.Service
