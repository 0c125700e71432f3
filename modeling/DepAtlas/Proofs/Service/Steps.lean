import DepAtlas.Proofs.RoundTrip
import DepAtlas.Proofs.Service.Responses

/-!
# What a service does with an event

A call is refused for an unknown analysis exactly if it names an id that is not kept.  An analysis
that is complete is kept and answered with its document, unless its input contradicts itself.  From
this follow the few ways in which a service can take an event, each with what becomes of the service
and with the exchange that the event leads to.

An exchange holds what is sent.  Whether an analysis is kept does not depend on whether its document
can be sent.
-/

namespace DepAtlas.Service

/-! ## Exchanges -/

/-- Something that is answered, with what is sent for it.  An id has been drawn for an analysis that
is complete. -/
inductive Exchange where
  | answered (request : Request) (response : Response)
  | completed (job : Job) (id : SessionId) (response : Response)

namespace Exchange

/-- An id is given to an analysis: it is complete, and its input does not contradict itself. -/
def Opens (exchange : Exchange) (id : SessionId) (job : Job) : Prop :=
  ∃ response analysis, exchange = .completed job id response ∧ job.outcome = .ok analysis

/-- An id is removed: this was asked for, and done. -/
def Closes (exchange : Exchange) (id : SessionId) : Prop :=
  ∃ request response, exchange = .answered request response ∧ request.Asks (.remove id) ∧
    response.status = 200

/-- What is sent. -/
def response : Exchange → Response
  | answered _ response | completed _ _ response => response

/-- The analysis that is complete. -/
def finished? : Exchange → Option Job
  | .answered .. => none
  | .completed job _ _ => some job

@[simp] theorem not_opens_answered (request : Request) (response : Response) (id : SessionId)
    (job : Job) : ¬(answered request response).Opens id job := by
  rintro ⟨_, _, same, _⟩
  cases same

@[simp] theorem opens_completed_iff {posted job : Job} {given id : SessionId}
    {response : Response} :
    (completed posted given response).Opens id job ↔
      posted = job ∧ given = id ∧ ∃ analysis, job.outcome = .ok analysis := by
  simp [Opens, and_assoc]

@[simp] theorem closes_answered_iff {request : Request} {response : Response} {id : SessionId} :
    (answered request response).Closes id ↔
      request.Asks (.remove id) ∧ response.status = 200 := by
  simp [Closes]

@[simp] theorem not_closes_completed (job : Job) (given : SessionId) (response : Response)
    (id : SessionId) : ¬(completed job given response).Closes id := by
  rintro ⟨_, _, same, _⟩
  cases same

end Exchange

/-- The analysis that an event asks for. -/
def Event.posted? : Event → Option Job
  | .arrival request =>
      match request.call with
      | .ok (.analyze job) => some job
      | _ => none
  | .completion .. => none

theorem Event.posted?_eq_some_iff {event : Event} {job : Job} :
    event.posted? = some job ↔
      ∃ request, event = .arrival request ∧ request.Asks (.analyze job) := by
  cases event with
  | completion position id => simp [posted?]
  | arrival request =>
      simp only [Event.arrival.injEq, exists_eq_left', ← Request.call_eq_ok_iff]
      rw [posted?]
      split
      next asked called => simp [called]
      next other =>
        simp only [reduceCtorEq, false_iff]
        exact other job

/-- The reply to a request that is answered at once. -/
def Reception.reply? : Reception → Option Reply
  | .answered reply => some reply
  | .accepted _ => none

namespace Server

/-- What is sent for a request, if it is answered at once. -/
def response? (server : Server) (request : Request) : Option Response :=
  (server.step (.arrival request)).2.map Reply.response

/-- What an event leads the service to answer. -/
def exchange? (server : Server) : Event → Option Exchange
  | .arrival request => (server.response? request).map (.answered request)
  | .completion position id => do
      let job ← server.inFlight[position]?
      let reply ← (server.step (.completion position id)).2
      return .completed job id reply.response

end Server

/-! ## Replies to calls -/

theorem Request.status_of_call_eq_error {request : Request} {refusal : Refusal}
    (refused : request.call = .error refusal) : refusal.status ∈ [400, 404, 405, 422] := by
  simp only [call] at refused
  split at refused
  next =>
    cases refused
    decide
  next =>
    cases refused
    decide
  next =>
    split at refused
    next =>
      cases refused
      decide
    next =>
      cases refused
      simp [Refusal.status]
    next => cases refused

/-- Every analysis of an input document can be written out. -/
theorem Job.described {job : Job} {analysis : Analysis} (returned : job.outcome = .ok analysis) :
    ∃ document, analysis.document = .ok document := by
  have measured : ∀ record ∈ job.input.records, record.complexity.isSome = true := by
    intro record member
    obtain ⟨entry, _, rfl⟩ := List.mem_map.1 member
    rfl
  obtain ⟨_, _, _, _, _, measured⟩ := (Analysis.Returned.analyzed _ _ _ measured returned).loaded
  obtain ⟨document, describes⟩ := Analysis.described measured
  exact ⟨document, describes.written⟩

/-- The input of a job contradicts itself in one way only. -/
theorem Job.fault_of_outcome {job : Job} {fault : Fault} (failed : job.outcome = .error fault) :
    ∃ id firstFile secondFile, fault = .duplicate id firstFile secondFile :=
  Store.duplicate_of_load (load_of_analyze_error failed)

/-- The ids that a call names. -/
def Call.named : Call → List SessionId
  | .health | .analyze _ => []
  | .compare old new => [old, new]
  | .read id _ => [id]
  | .remove id => [id]

theorem documentOf_error {result : Analysis} {refusal : Refusal}
    (failed : documentOf result = .error refusal) : refusal = .failed := by
  rw [documentOf] at failed
  split at failed <;> cases failed
  rfl

theorem mapOf_error {session : Session} {focus : Option String} {showOrder showDependencies : Bool}
    {refusal : Refusal} (failed : mapOf session focus showOrder showDependencies = .error refusal) :
    refusal = .failed := by
  rw [mapOf] at failed
  split at failed <;> cases failed
  rfl

/-- Reading a session does not miss it. -/
theorem Session.answer_ne_unknown (session : Session) (query : Query) :
    session.answer query ≠ .error .unknownAnalysis := by
  cases query with
  | document =>
      rw [answer]
      cases written : documentOf session.result with
      | ok document => exact nofun
      | error refusal => simp [Bind.bind, Except.bind, documentOf_error written]
  | map focus showOrder showDependencies =>
      rw [answer]
      cases drawn : mapOf session focus showOrder showDependencies with
      | error refusal => simp [Bind.bind, Except.bind, mapOf_error drawn]
      | ok text =>
          cases written : documentOf session.result with
          | ok document => exact nofun
          | error refusal => simp [Bind.bind, Except.bind, documentOf_error written]
  | dependencies component | dependents component =>
      rw [answer]
      split <;> exact nofun

namespace Sessions

variable {sessions : Sessions} {id old new : SessionId} {session before after : Session}

theorem lookup_of_none (absent : sessions.get? id = none) :
    sessions.lookup id = .error .unknownAnalysis := by
  rw [lookup, absent]

theorem lookup_of_some (found : sessions.get? id = some session) :
    sessions.lookup id = .ok session := by
  rw [lookup, found]

theorem dispatch_read (found : sessions.get? id = some session) (query : Query) :
    sessions.dispatch (.read id query) = (sessions, .answered (session.answer query)) := by
  rw [dispatch, lookup_of_some found]
  rfl

theorem dispatch_compare (first : sessions.get? old = some before)
    (second : sessions.get? new = some after) :
    sessions.dispatch (.compare old new) = (sessions,
      .answered (.ok (.compared old new (before.result.differences after.result)))) := by
  rw [dispatch, compare, lookup_of_some first, lookup_of_some second, ← id_of_get? first,
    ← id_of_get? second]
  rfl

theorem dispatch_remove (found : sessions.get? id = some session) :
    sessions.dispatch (.remove id) = (sessions.remove id, .answered (.ok (.removed id))) := by
  rw [dispatch, lookup_of_some found]

theorem dispatch_of_absent {call : Call} (named : id ∈ call.named)
    (absent : sessions.get? id = none) :
    sessions.dispatch call = (sessions, .answered (.error .unknownAnalysis)) := by
  cases call with
  | health | analyze job => cases named
  | compare old new =>
      rw [dispatch, compare]
      rcases List.mem_pair.1 named with rfl | rfl
      · rw [lookup_of_none absent]
        rfl
      · rw [lookup_of_none absent]
        cases found : sessions.get? old with
        | none =>
            rw [lookup_of_none found]
            rfl
        | some before =>
            rw [lookup_of_some found]
            rfl
  | read other query =>
      cases List.mem_singleton.1 named
      rw [dispatch, lookup_of_none absent]
      rfl
  | remove other =>
      cases List.mem_singleton.1 named
      rw [dispatch, lookup_of_none absent]

/-- The ways in which sessions deal with a call. -/
inductive Dispatched (sessions : Sessions) (call : Call) : Sessions × Reception → Prop
  | accepted {job : Job} (asked : call = .analyze job) :
      Dispatched sessions call (sessions, .accepted job)
  | removed {id : SessionId} (asked : call = .remove id)
      (known : ∀ id ∈ call.named, sessions.get? id ≠ none) :
      Dispatched sessions call (sessions.remove id, .answered (.ok (.removed id)))
  | answered {reply : Reply} (unasked : ∀ job, call ≠ .analyze job)
      (kept : ∀ id, call = .remove id → reply = .error .unknownAnalysis)
      (unknown : reply = .error .unknownAnalysis ↔ ∃ id ∈ call.named, sessions.get? id = none) :
      Dispatched sessions call (sessions, .answered reply)

theorem dispatched (sessions : Sessions) (call : Call) :
    sessions.Dispatched call (sessions.dispatch call) := by
  -- An id that is not kept decides the reply, whatever is asked of it.
  by_cases missing : ∃ id ∈ call.named, sessions.get? id = none
  · obtain ⟨id, named, absent⟩ := missing
    rw [dispatch_of_absent named absent]
    refine .answered ?_ (fun _ _ => rfl) (iff_of_true rfl ⟨id, named, absent⟩)
    rintro job rfl
    cases named
  · have known : ∀ id ∈ call.named, sessions.get? id ≠ none := fun id named absent =>
      missing ⟨id, named, absent⟩
    have kept : ∀ id ∈ call.named, ∃ session, sessions.get? id = some session := fun id named =>
      Option.ne_none_iff_exists'.1 (known id named)
    cases call with
    | health => exact .answered (by simp) (by simp) (iff_of_false (by simp) missing)
    | analyze job => exact .accepted rfl
    | compare old new =>
        obtain ⟨before, first⟩ := kept old (by simp [Call.named])
        obtain ⟨after, second⟩ := kept new (by simp [Call.named])
        rw [dispatch_compare first second]
        exact .answered (by simp) (by simp) (iff_of_false (by simp) missing)
    | read id query =>
        obtain ⟨session, found⟩ := kept id (by simp [Call.named])
        rw [dispatch_read found]
        exact .answered (by simp) (by simp)
          (iff_of_false (session.answer_ne_unknown query) missing)
    | remove id =>
        obtain ⟨session, found⟩ := kept id (by simp [Call.named])
        rw [dispatch_remove found]
        exact .removed rfl known

/-- A call is refused for an unknown analysis exactly if it names an id that is not kept. -/
theorem refuses_iff (sessions : Sessions) (call : Call) :
    (sessions.dispatch call).2.reply? = some (.error .unknownAnalysis) ↔
      ∃ id ∈ call.named, sessions.get? id = none := by
  have done := sessions.dispatched call
  generalize sessions.dispatch call = result at done ⊢
  cases done with
  | accepted asked =>
      subst asked
      simp [Reception.reply?, Call.named]
  | removed asked known =>
      refine iff_of_false (by simp [Reception.reply?]) ?_
      rintro ⟨id, named, absent⟩
      exact known id named absent
  | answered _ _ unknown => rw [← unknown, Reception.reply?, Option.some.injEq]

/-- A completed analysis is stored and answered with its document, or else it is rejected. -/
theorem complete_cases (sessions : Sessions) (id : SessionId) (job : Job) :
    (∃ fault, job.outcome = .error fault ∧
        sessions.complete id job = (sessions, .error (.rejected fault))) ∨
      ∃ analysis document, job.outcome = .ok analysis ∧ analysis.document = .ok document ∧
        sessions.complete id job =
          (sessions.store ⟨id, job.label, analysis⟩, .ok (.document id document)) := by
  cases returned : job.outcome with
  | error fault =>
      obtain ⟨clashing, first, second, rfl⟩ := Job.fault_of_outcome returned
      refine .inl ⟨_, rfl, ?_⟩
      rw [complete, returned]
      rfl
  | ok analysis =>
      obtain ⟨document, written⟩ := Job.described returned
      refine .inr ⟨analysis, document, rfl, written, ?_⟩
      rw [complete, returned]
      simp only [documentOf, written, Except.map]

end Sessions

/-! ## The ways of a step -/

namespace Server

/-- The ways in which a service takes an event: what becomes of it, and what is answered. -/
inductive Step (server : Server) : Event → Server → Option Exchange → Prop
  | accepted {request : Request} {job : Job} (asks : request.Asks (.analyze job)) :
      Step server (.arrival request) { server with inFlight := server.inFlight ++ [job] } none
  | answered {request : Request} {response : Response}
      (unposted : ∀ job, ¬request.Asks (.analyze job))
      (kept : ∀ id, request.Asks (.remove id) → response.status ≠ 200) :
      Step server (.arrival request) server (some (.answered request response))
  | removed {request : Request} {id : SessionId} {response : Response}
      (asks : request.Asks (.remove id)) (done : response.status = 200) :
      Step server (.arrival request) { server with sessions := server.sessions.remove id }
        (some (.answered request response))
  | vacant {position : Nat} {id : SessionId} : Step server (.completion position id) server none
  | rejected {position : Nat} {id : SessionId} {job : Job} {fault : Fault}
      (flying : server.inFlight[position]? = some job) (failed : job.outcome = .error fault) :
      Step server (.completion position id)
        { server with inFlight := server.inFlight.eraseIdx position }
        (some (.completed job id (Reply.response (.error (.rejected fault)))))
  | stored {position : Nat} {id : SessionId} {job : Job} {analysis : Analysis}
      {document : Document} (flying : server.inFlight[position]? = some job)
      (returned : job.outcome = .ok analysis) (written : analysis.document = .ok document) :
      Step server (.completion position id)
        ⟨server.sessions.store ⟨id, job.label, analysis⟩, server.inFlight.eraseIdx position⟩
        (some (.completed job id (Reply.response (.ok (.document id document)))))

/-- A step goes in one of these ways. -/
theorem step_cases (server : Server) (event : Event) :
    server.Step event (server.step event).1 (server.exchange? event) := by
  cases event with
  | arrival request =>
      cases called : request.call with
      | error refusal =>
          have silent : ∀ call, ¬request.Asks call := fun call asks => by
            rw [Request.call_eq_ok_iff.2 asks] at called
            cases called
          simp only [exchange?, response?, step, Sessions.receive, called]
          exact .answered (fun _ => silent _) fun _ asks => absurd asks (silent _)
      | ok call =>
          have asks := Request.call_eq_ok_iff.1 called
          have only : ∀ other, request.Asks other → call = other := fun other asksToo => by
            rw [Request.call_eq_ok_iff.2 asksToo] at called
            cases called
            rfl
          have done := server.sessions.dispatched call
          simp only [exchange?, response?, step, Sessions.receive, called]
          generalize server.sessions.dispatch call = result at done ⊢
          cases done with
          | accepted asked =>
              subst asked
              exact .accepted asks
          | removed asked =>
              subst asked
              obtain ⟨name, rfl⟩ := asks.exists_spelled
              exact .removed asks (by rw [Reply.response_removed])
          | answered unasked kept =>
              refine .answered (fun job asksToo => unasked job (only _ asksToo)) ?_
              intro id asksToo
              rw [kept id (only _ asksToo), Reply.response_eq_unknownAnalysis_iff.2 rfl]
              decide
  | completion position id =>
      cases flying : server.inFlight[position]? with
      | none =>
          simp only [exchange?, step, flying]
          exact .vacant
      | some job =>
          rcases server.sessions.complete_cases id job with
            ⟨fault, failed, done⟩ | ⟨analysis, document, returned, written, done⟩
          · simp only [exchange?, step, flying, done]
            exact .rejected flying failed
          · simp only [exchange?, step, flying, done]
            exact .stored flying returned written

theorem response?_of_asks (server : Server) {request : Request} {call : Call}
    (asks : request.Asks call) :
    server.response? request = (server.sessions.dispatch call).2.reply?.map Reply.response := by
  rw [response?, step, Sessions.receive, Request.call_eq_ok_iff.2 asks]
  simp only
  split <;> next done => rw [done]; rfl

/-- A request that asks for nothing is refused. -/
theorem response?_of_not_asks (server : Server) {request : Request}
    (silent : ∀ call, ¬request.Asks call) :
    ∃ refusal : Refusal, refusal.status ∈ [400, 404, 405, 422] ∧
      server.response? request = some (Reply.response (.error refusal)) := by
  cases called : request.call with
  | ok call => exact absurd (Request.call_eq_ok_iff.1 called) (silent call)
  | error refusal =>
      refine ⟨refusal, Request.status_of_call_eq_error called, ?_⟩
      rw [response?, step, Sessions.receive, called]
      rfl

end Server

end DepAtlas.Service
