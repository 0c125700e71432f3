import DepAtlas.Proofs.Service.Addresses
import DepAtlas.Proofs.Service.Steps

/-!
# What a service knows by an id

The history of what a service has answered tells which ids are open, and which analysis each of
them stands for: an analysis that is complete opens the id that it is given, a removal that is done
closes it, and no other answer makes a difference.  The sessions of a service are accounted for by
its history, whatever the events were and in whatever order analyses became complete.
-/

namespace DepAtlas.Service

/-! ## Histories -/

namespace Server

/-- A service that has taken certain events since its start. -/
def after (events : List Event) : Server :=
  ({} : Server).run events

/-- All that the service answers to a list of events, in order. -/
def history (server : Server) : List Event → List Exchange
  | [] => []
  | event :: events =>
      (server.exchange? event).toList ++ (server.step event).1.history events

/-- All that a service has answered to certain events since its start. -/
def answersTo (events : List Event) : List Exchange :=
  ({} : Server).history events

theorem after_snoc (events : List Event) (event : Event) :
    after (events ++ [event]) = ((after events).step event).1 := by
  rw [after, run, List.foldl_append]
  rfl

theorem history_snoc (server : Server) (events : List Event) (event : Event) :
    server.history (events ++ [event]) =
      server.history events ++ ((server.run events).exchange? event).toList := by
  induction events generalizing server with
  | nil => exact List.append_nil _
  | cons first events ih =>
      rw [List.cons_append, history, ih, history, List.append_assoc]
      rfl

theorem answersTo_snoc (events : List Event) (event : Event) :
    answersTo (events ++ [event]) =
      answersTo events ++ ((after events).exchange? event).toList :=
  history_snoc {} events event

end Server

/-- Something of one kind is in a history, and nothing of another kind has come since. -/
def Since (history : List Exchange) (Began Ended : Exchange → Prop) : Prop :=
  ∃ before exchange after, history = before ++ exchange :: after ∧ Began exchange ∧
    ∀ later ∈ after, ¬Ended later

/-- An id has been given to an analysis and has not been removed since. -/
def IsOpen (history : List Exchange) (id : SessionId) : Prop :=
  Since history (fun exchange => ∃ job, exchange.Opens id job) (·.Closes id)

/-- An id has been given to a certain analysis, and has neither been removed nor given to another
one since. -/
def StandsFor (history : List Exchange) (id : SessionId) (job : Job) : Prop :=
  Since history (·.Opens id job) fun exchange =>
    exchange.Closes id ∨ ∃ other, exchange.Opens id other

section Since

variable {history : List Exchange} {exchange : Exchange} {Began Ended : Exchange → Prop}

theorem not_since_nil : ¬Since [] Began Ended := by
  rintro ⟨before, exchange, after, split, _⟩
  exact absurd split (by simp)

theorem since_snoc :
    Since (history ++ [exchange]) Began Ended ↔
      Began exchange ∨ (Since history Began Ended ∧ ¬Ended exchange) := by
  constructor
  · rintro ⟨before, began, after, split, begins, lasts⟩
    -- What began it is the last exchange, or the last exchange has come since.
    rcases List.eq_nil_or_concat after with rfl | ⟨front, last, rfl⟩
    · obtain ⟨_, same⟩ := List.append_inj' split rfl
      cases same
      exact .inl begins
    · rw [List.concat_eq_append, ← List.cons_append, ← List.append_assoc] at split
      obtain ⟨rfl, same⟩ := List.append_inj' split rfl
      cases same
      refine .inr ⟨⟨before, began, front, rfl, begins, ?_⟩, lasts _ (by simp)⟩
      intro later member
      exact lasts later (by simp [member])
  · rintro (begins | ⟨⟨before, began, after, rfl, begins, lasts⟩, goesOn⟩)
    · exact ⟨history, exchange, [], rfl, begins, by simp⟩
    · refine ⟨before, began, after ++ [exchange], by simp, begins, ?_⟩
      intro later member
      rcases List.mem_append.1 member with old | new
      · exact lasts later old
      · rw [List.mem_singleton.1 new]
        exact goesOn

/-- An open id stands for the analysis that it was given to last. -/
theorem isOpen_iff {id : SessionId} : IsOpen history id ↔ ∃ job, StandsFor history id job := by
  constructor
  · intro opened
    induction history using List.reverseRecOn with
    | nil => exact absurd opened not_since_nil
    | append_singleton history exchange ih =>
        by_cases opens : ∃ job, exchange.Opens id job
        · obtain ⟨job, opens⟩ := opens
          exact ⟨job, since_snoc.2 (.inl opens)⟩
        · rcases since_snoc.1 opened with new | ⟨old, keeps⟩
          · exact absurd new opens
          · obtain ⟨job, stands⟩ := ih old
            exact ⟨job, since_snoc.2 (.inr ⟨stands, not_or.2 ⟨keeps, opens⟩⟩)⟩
  · rintro ⟨job, before, exchange, after, split, opens, lasts⟩
    exact ⟨before, exchange, after, split, ⟨job, opens⟩, fun later member closes =>
      lasts later member (.inl closes)⟩

end Since

/-! ## Runs -/

/-- Sessions are what a history makes of them: the ids that are open are kept, each with the
analysis that it stands for. -/
structure Sessions.AccountedFor (sessions : Sessions) (history : List Exchange) : Prop where
  kept : ∀ id, IsOpen history id ↔ ∃ session, sessions.get? id = some session
  standing : ∀ id job, StandsFor history id job → ∃ analysis, job.outcome = .ok analysis ∧
    sessions.get? id = some ⟨id, job.label, analysis⟩

namespace Sessions.AccountedFor

variable {sessions : Sessions} {history : List Exchange}

theorem empty : ({} : Sessions).AccountedFor [] where
  kept id := by
    rw [get?_empty]
    exact ⟨fun opened => absurd opened not_since_nil, fun ⟨_, found⟩ => nomatch found⟩
  standing id job stands := absurd stands not_since_nil

variable (accounted : sessions.AccountedFor history)

include accounted

/-- An answer that neither opens nor closes an id makes no difference. -/
theorem keep {exchange : Exchange}
    (silent : ∀ id, ¬exchange.Closes id ∧ ∀ job, ¬exchange.Opens id job) :
    sessions.AccountedFor (history ++ [exchange]) where
  kept id := by
    rw [← accounted.kept, IsOpen, since_snoc]
    simp [silent id, IsOpen]
  standing id job stands := by
    refine accounted.standing id job ?_
    rw [StandsFor, since_snoc] at stands
    rcases stands with opens | ⟨stands, _⟩
    · exact absurd opens ((silent id).2 job)
    · exact stands

theorem remove {request : Request} {response : Response} {removed : SessionId}
    (asks : request.Asks (.remove removed)) (done : response.status = 200) :
    (sessions.remove removed).AccountedFor (history ++ [.answered request response]) := by
  have closes : ∀ id, (Exchange.answered request response).Closes id ↔ id = removed := by
    intro id
    rw [Exchange.closes_answered_iff]
    constructor
    · rintro ⟨asksToo, _⟩
      cases (Request.call_eq_ok_iff.2 asks).symm.trans (Request.call_eq_ok_iff.2 asksToo)
      rfl
    · rintro rfl
      exact ⟨asks, done⟩
  constructor
  case kept =>
    intro id
    have before := accounted.kept id
    rw [IsOpen] at before ⊢
    rw [since_snoc, before, get?_remove, closes]
    by_cases same : id = removed
    · simp [same]
    · simp [same]
  case standing =>
    intro id job stands
    rw [StandsFor, since_snoc] at stands
    rcases stands with opens | ⟨stands, keeps⟩
    · exact absurd opens (by simp)
    · have other : id ≠ removed := fun same => keeps (.inl ((closes id).2 same))
      rw [get?_remove, if_neg other]
      exact accounted.standing id job stands

theorem store {job : Job} {analysis : Analysis} (returned : job.outcome = .ok analysis)
    (given : SessionId) (response : Response) :
    (sessions.store ⟨given, job.label, analysis⟩).AccountedFor
      (history ++ [.completed job given response]) where
  kept id := by
    have before := accounted.kept id
    rw [IsOpen] at before ⊢
    rw [since_snoc, before, get?_store]
    by_cases same : id = given
    · simp [same, returned]
    · simp [same, Ne.symm same]
  standing id other stands := by
    rw [StandsFor, since_snoc] at stands
    rw [get?_store]
    rcases stands with opens | ⟨stands, keeps⟩
    · obtain ⟨rfl, rfl, _⟩ := Exchange.opens_completed_iff.1 opens
      exact ⟨analysis, returned, if_pos rfl⟩
    · have other : id ≠ given := fun same =>
        keeps (.inr ⟨job, Exchange.opens_completed_iff.2 ⟨rfl, same.symm, analysis, returned⟩⟩)
      rw [if_neg other]
      exact accounted.standing id _ stands

end Sessions.AccountedFor

namespace Server

theorem Step.accountedFor {server next : Server} {event : Event} {exchange : Option Exchange}
    (step : server.Step event next exchange) {history : List Exchange}
    (accounted : server.sessions.AccountedFor history) :
    next.sessions.AccountedFor (history ++ exchange.toList) := by
  cases step with
  | accepted | vacant => simpa using accounted
  | answered _ kept => exact accounted.keep fun id => ⟨by simpa using kept id, by simp⟩
  | removed asks done => exact accounted.remove asks done
  | rejected _ failed => exact accounted.keep fun id => ⟨by simp, by simp [failed]⟩
  | stored _ returned => exact accounted.store returned _ _

/-- A run leaves the sessions that its history accounts for. -/
theorem accountedFor_after (events : List Event) :
    (after events).sessions.AccountedFor (answersTo events) := by
  induction events using List.reverseRecOn with
  | nil => exact .empty
  | append_singleton events event ih =>
      rw [after_snoc, answersTo_snoc]
      exact ((after events).step_cases event).accountedFor ih

/-- An analysis that is asked for goes into flight, and leaves it to be answered. -/
theorem Step.inFlight_perm {server next : Server} {event : Event} {exchange : Option Exchange}
    (step : server.Step event next exchange) :
    (server.inFlight ++ event.posted?.toList).Perm
      (exchange.toList.filterMap Exchange.finished? ++ next.inFlight) := by
  have landing : ∀ {position job}, server.inFlight[position]? = some job →
      server.inFlight.Perm (job :: server.inFlight.eraseIdx position) := by
    intro position job flying
    obtain ⟨short, rfl⟩ := List.getElem?_eq_some_iff.1 flying
    exact (List.getElem_cons_eraseIdx_perm short).symm
  have idle : ∀ {event : Event}, (∀ job, event.posted? ≠ some job) → event.posted? = none :=
    Option.eq_none_iff_forall_ne_some.2
  cases step with
  | accepted asks =>
      rw [Event.posted?_eq_some_iff.2 ⟨_, rfl, asks⟩]
      exact .refl _
  | answered unposted =>
      rw [idle fun job posted => ?_, Option.toList_none, List.append_nil]
      · exact .refl _
      · obtain ⟨_, same, asks⟩ := Event.posted?_eq_some_iff.1 posted
        cases same
        exact unposted job asks
  | removed asks =>
      rw [idle fun job posted => ?_, Option.toList_none, List.append_nil]
      · exact .refl _
      · obtain ⟨_, same, asksToo⟩ := Event.posted?_eq_some_iff.1 posted
        cases same
        cases (Request.call_eq_ok_iff.2 asks).symm.trans (Request.call_eq_ok_iff.2 asksToo)
  | vacant =>
      rw [Event.posted?, Option.toList_none, List.append_nil]
      exact .refl _
  | rejected flying | stored flying =>
      rw [Event.posted?, Option.toList_none, List.append_nil]
      exact landing flying

/-- Every analysis that was asked for is complete or still in flight, and no other one is. -/
theorem posted_perm (events : List Event) :
    (events.filterMap Event.posted?).Perm
      ((answersTo events).filterMap Exchange.finished? ++ (after events).inFlight) := by
  induction events using List.reverseRecOn with
  | nil => exact .refl _
  | append_singleton events event ih =>
      have one : [event].filterMap Event.posted? = event.posted?.toList := by
        cases posted : event.posted? <;> simp [posted]
      have landed := ((after events).step_cases event).inFlight_perm
      rw [answersTo_snoc, after_snoc, List.filterMap_append, List.filterMap_append, one,
        List.append_assoc]
      refine (ih.append_right _).trans ?_
      rw [List.append_assoc]
      exact landed.append_left _

/-- An analysis that an id stands for was asked for. -/
theorem posted_of_standsFor {events : List Event} {id : SessionId} {job : Job}
    (stands : StandsFor (answersTo events) id job) :
    ∃ request, Event.arrival request ∈ events ∧ request.Asks (.analyze job) := by
  obtain ⟨before, exchange, later, split, ⟨response, _, rfl, _⟩, _⟩ := stands
  have finished : job ∈ (answersTo events).filterMap Exchange.finished? :=
    List.mem_filterMap.2 ⟨_, split ▸ List.mem_append_right _ (.head _), rfl⟩
  obtain ⟨event, member, posted⟩ :=
    List.mem_filterMap.1 ((posted_perm events).mem_iff.2 (List.mem_append_left _ finished))
  obtain ⟨request, rfl, asks⟩ := Event.posted?_eq_some_iff.1 posted
  exact ⟨request, member, asks⟩

/-- What a complete analysis is answered with. -/
theorem Step.completed {server next : Server} {event : Event} {job : Job} {id : SessionId}
    {response : Response} (step : server.Step event next (some (.completed job id response))) :
    (∃ fault, job.outcome = .error fault ∧ response =
        ⟨400, .object [("detail", .text (fault.messageBy Text.quotedSpelled))]⟩) ∨
      ∃ analysis document, job.outcome = .ok analysis ∧ analysis.document = .ok document ∧
        response.Shows 200 (.object (("analysis_id", .text id) :: document.toFields)) := by
  cases step with
  | rejected _ failed =>
      obtain ⟨clashing, first, second, rfl⟩ := Job.fault_of_outcome failed
      exact .inl ⟨_, failed, Reply.response_rejected (mark_not_mem_duplicate clashing first second)⟩
  | stored _ returned written =>
      exact .inr ⟨_, _, returned, written, Reply.shows_response (.ok (.document id _))⟩

theorem mem_history {server : Server} {events : List Event} {exchange : Exchange}
    (member : exchange ∈ server.history events) :
    ∃ (before : Server) (event : Event), before.exchange? event = some exchange := by
  induction events generalizing server with
  | nil => cases member
  | cons event events ih =>
      rcases List.mem_append.1 member with now | later
      · exact ⟨server, event, Option.mem_toList.1 now⟩
      · exact ih later

/-! ## What an id is good for -/

/-- What is sent for a request at once shows a status and a body. -/
def Shows (server : Server) (request : Request) (status : Nat) (body : Json) : Prop :=
  ∃ response, server.response? request = some response ∧ response.Shows status body

theorem shows_of_response? {server : Server} {request : Request} {reply : Reply}
    (told : server.response? request = some reply.response) :
    server.Shows request reply.status reply.body :=
  ⟨_, told, reply.shows_response⟩

/-- A service answers all requests that name an id out of one analysis, which was posted with a
label. -/
structure Serves (server : Server) (id : SessionId) (label : String) (analysis : Analysis) :
    Prop where
  document : ∀ request, request.Asks (.read id .document) → ∃ document,
    analysis.document = .ok document ∧
    server.Shows request 200 (.object (("analysis_id", .text id) :: document.toFields))
  map : ∀ request focus showOrder showDependencies,
    request.Asks (.read id (.map focus showOrder showDependencies)) →
    (∃ text document,
      analysis.map { repository := some label, focus, showOrder, showDependencies } {} = .ok text ∧
      analysis.document = .ok document ∧
      server.Shows request 200 (.object [
        ("analysis_id", .text id),
        ("map", .text text),
        ("entry_points", .texts document.entryPoints),
        ("most_connected_components", .texts document.mostConnected),
        ("cycles", .array (document.cycles.map .texts))])) ∨
    ∃ fault,
      analysis.map { repository := some label, focus, showOrder, showDependencies } {} =
        .error fault ∧
      ∃ response, server.response? request = some response ∧ response.status = 500
  dependencies : ∀ request component, request.Asks (.read id (.dependencies component)) →
    match analysis.dependencies? component with
    | some ids => server.Shows request 200
        (.object [("component_id", .text component), ("dependencies", .texts ids)])
    | none => server.Shows request 404
        (.object [("detail", .text s!"Component '{component}' not found")])
  dependents : ∀ request component, request.Asks (.read id (.dependents component)) →
    match analysis.dependents? component with
    | some ids => server.Shows request 200
        (.object [("component_id", .text component), ("dependents", .texts ids)])
    | none => server.Shows request 404
        (.object [("detail", .text s!"Component '{component}' not found")])
  removal : ∀ request, request.Asks (.remove id) → ∃ name, id = Text.spelled name ∧
    server.response? request = some ⟨200, .object [("deleted", .text name)]⟩

theorem serves_of_get? {server : Server} {id : SessionId} {label : String} {analysis : Analysis}
    {document : Document} (written : analysis.document = .ok document)
    (found : server.sessions.get? id = some ⟨id, label, analysis⟩) :
    server.Serves id label analysis := by
  have read : ∀ request query, request.Asks (.read id query) → server.response? request =
      some (Session.answer ⟨id, label, analysis⟩ query).response := by
    intro request query asks
    rw [server.response?_of_asks asks, Sessions.dispatch_read found]
    rfl
  have told : documentOf analysis = .ok document := by rw [documentOf, written]
  constructor
  case document =>
    intro request asks
    have answered : Session.answer ⟨id, label, analysis⟩ .document =
        .ok (.document id document) := by
      rw [Session.answer, told]
      rfl
    exact ⟨document, written, shows_of_response? (answered ▸ read request _ asks)⟩
  case map =>
    intro request focus showOrder showDependencies asks
    have answer := read request _ asks
    rw [Session.answer, mapOf, told] at answer
    cases drawn : analysis.map
        { repository := some label, focus, showOrder, showDependencies } {} with
    | ok text =>
        simp only [drawn] at answer
        exact .inl ⟨text, document, rfl, written, shows_of_response? answer⟩
    | error fault =>
        simp only [drawn] at answer
        exact .inr ⟨fault, rfl, _, answer, Reply.status_response_failed⟩
  case dependencies | dependents =>
    intro request component asks
    have answer := read request _ asks
    rw [Session.answer] at answer
    split
    next ids known =>
      simp only [known] at answer
      exact shows_of_response? answer
    next unknown =>
      simp only [unknown] at answer
      exact shows_of_response? answer
  case removal =>
    intro request asks
    obtain ⟨name, rfl⟩ := asks.exists_spelled
    refine ⟨name, rfl, ?_⟩
    rw [server.response?_of_asks asks, Sessions.dispatch_remove found]
    exact congrArg some (Reply.response_removed name)

end Server

/-- After any events, what is sent for a well-formed request says that an analysis is unknown
exactly if the request names an id that is not open: one that no complete analysis was given, or
that was removed since.  An open id stands for the analysis that it was given to last, and what is
sent for every request that names it shows what the analysis makes of the input that was posted,
whatever came in between.  Each analysis that was asked for is answered once, with its document or
with the fault of its input, unless it is still in flight.  Only an answer that opens or closes an
id changes the sessions.

The names in a path that is written plainly are the ones that the request leads to, and the
parameters beside it are the ones that it has. -/
theorem responses_follow_history (events : List Event) :
    (∀ request call, request.Asks call →
      ((Server.after events).response? request =
          some ⟨404, .object [("detail", .text "Analysis not found")]⟩ ↔
        ∃ id ∈ call.named, ¬IsOpen (Server.answersTo events) id)) ∧
    (∀ request, (∀ call, ¬request.Asks call) → ∃ status ∈ [400, 404, 405, 422], ∃ detail,
      (Server.after events).Shows request status (.object [("detail", detail)])) ∧
    (∀ (request : Request) names, names ≠ [] → (∀ name ∈ names, IsPlain name) →
      request.address.toList = Address.pathTo names →
      request.LeadsTo names ∧ request.destination.parameters =
        (request.query.getD []).map fun (name, value) => (Text.spelled name, Text.spelled value)) ∧
    (∀ id, IsOpen (Server.answersTo events) id ↔
      ∃ job, StandsFor (Server.answersTo events) id job) ∧
    (∀ id job, StandsFor (Server.answersTo events) id job →
      (∃ request, Event.arrival request ∈ events ∧ request.Asks (.analyze job)) ∧
      ∃ analysis, job.outcome = .ok analysis ∧
        (Server.after events).Serves id job.label analysis ∧
        ∀ new other, StandsFor (Server.answersTo events) new other → ∃ later,
          other.outcome = .ok later ∧ ∀ request, request.Asks (.compare id new) →
            (Server.after events).Shows request 200
              (.object ([("old_id", .text id), ("new_id", .text new)] ++
                (analysis.differences later).toFields))) ∧
    (events.filterMap Event.posted?).Perm
      ((Server.answersTo events).filterMap Exchange.finished? ++
        (Server.after events).inFlight) ∧
    (∀ event job, Event.posted? event = some job ↔
      ∃ request, event = .arrival request ∧ request.Asks (.analyze job)) ∧
    (∀ job id response, Exchange.completed job id response ∈ Server.answersTo events →
      (∃ fault, job.outcome = .error fault ∧ response =
          ⟨400, .object [("detail", .text (fault.messageBy Text.quotedSpelled))]⟩) ∨
        ∃ analysis document, job.outcome = .ok analysis ∧ analysis.document = .ok document ∧
          response.Shows 200 (.object (("analysis_id", .text id) :: document.toFields))) ∧
    ∀ event, ((Server.after events).step event).1.sessions = (Server.after events).sessions ∨
      ∃ exchange id, (Server.after events).exchange? event = some exchange ∧
        (exchange.Closes id ∨ ∃ job, exchange.Opens id job) := by
  have accounted := Server.accountedFor_after events
  refine ⟨?_, ?_, fun request names some plain addressed =>
    ⟨Request.leadsTo_of_plain some plain addressed,
      Request.parameters_of_plain some plain addressed⟩, fun id => isOpen_iff, ?_,
    Server.posted_perm events, fun event job => Event.posted?_eq_some_iff, ?_, ?_⟩
  · intro request call asks
    rw [Server.response?_of_asks _ asks]
    have unknown := Sessions.refuses_iff (Server.after events).sessions call
    simp only [accounted.kept, not_exists, ← Option.eq_none_iff_forall_ne_some]
    rw [← unknown, Option.map_eq_some_iff]
    constructor
    · rintro ⟨reply, replied, same⟩
      rw [replied, Reply.response_eq_unknownAnalysis_iff.1 same]
    · intro refused
      exact ⟨_, refused, Reply.response_eq_unknownAnalysis_iff.2 rfl⟩
  · intro request silent
    obtain ⟨refusal, listed, told⟩ := Server.response?_of_not_asks _ silent
    exact ⟨_, listed, _, Server.shows_of_response? told⟩
  · intro id job stands
    obtain ⟨analysis, returned, found⟩ := accounted.standing id job stands
    obtain ⟨document, written⟩ := Job.described returned
    refine ⟨Server.posted_of_standsFor stands, analysis, returned,
      Server.serves_of_get? written found, ?_⟩
    intro new other standsToo
    obtain ⟨later, returnedToo, foundToo⟩ := accounted.standing new other standsToo
    refine ⟨later, returnedToo, ?_⟩
    intro request asks
    have told := Server.response?_of_asks (Server.after events) asks
    rw [Sessions.dispatch_compare found foundToo] at told
    exact Server.shows_of_response? told
  · intro job id response member
    obtain ⟨server, event, answered⟩ := Server.mem_history member
    have step := server.step_cases event
    rw [answered] at step
    exact step.completed
  · intro event
    have step := (Server.after events).step_cases event
    generalize ((Server.after events).step event).1 = next at step ⊢
    generalize (Server.after events).exchange? event = exchange at step ⊢
    cases step with
    | accepted | answered | vacant | rejected => exact .inl rfl
    | removed asks done => exact .inr ⟨_, _, rfl, .inl ⟨_, _, rfl, asks, done⟩⟩
    | stored _ returned => exact .inr ⟨_, _, rfl, .inr ⟨_, _, _, rfl, returned⟩⟩

/-- An id is unknown while its analysis is in flight, and again when it has been removed.  In
between a request for it is answered with the document of the analysis. -/
theorem responses_follow_history_in_flight :
    let post : Request :=
      { method := .post, address := "/api/analysis/analyze", body := "\x7b\x7d" }
    let read : Request := { method := .get, address := "/api/analysis/x" }
    let remove : Request := { method := .delete, address := "/api/analysis/x" }
    let unknown : Response := ⟨404, .object [("detail", .text "Analysis not found")]⟩
    let landed := [.arrival post, .arrival read, .completion 0 "x"]
    read.Asks (.read "x" .document) ∧
    (Server.after [.arrival post]).response? read = some unknown ∧
    (∃ job analysis document, StandsFor (Server.answersTo landed) "x" job ∧
      job.outcome = .ok analysis ∧ analysis.document = .ok document ∧
      (Server.after landed).Shows read 200
        (.object (("analysis_id", .text "x") :: document.toFields))) ∧
    (Server.after (landed ++ [.arrival remove])).response? read = some unknown ∧
    (Server.answersTo (landed ++ [.arrival read, .arrival remove, .arrival read])).map
      (·.response.status) = [404, 200, 200, 200, 404] := by
  intro post read remove unknown landed
  have plain : ∀ name ∈ ["api", "analysis", "x"], IsPlain name := by decide
  have asks : read.Asks (.read "x" .document) := by
    have leads := ((responses_follow_history []).2.2.1 read _ (by simp) plain (by decide)).1
    exact ⟨_, leads, _, .document (by decide), .document⟩
  have refused : ∀ events, ((Server.after events).sessions.get? "x").isNone = true →
      (Server.after events).response? read = some unknown := by
    intro events absent
    refine ((responses_follow_history events).1 read _ asks).2 ⟨"x", .head _, ?_⟩
    rw [(Server.accountedFor_after events).kept, Option.isNone_iff_eq_none.1 absent]
    simp
  refine ⟨asks, refused _ (by decide +kernel), ?_, refused _ (by decide +kernel), by decide +kernel⟩
  have kept : ((Server.after landed).sessions.get? "x").isSome = true := by decide +kernel
  have opened := ((Server.accountedFor_after landed).kept "x").2 (Option.isSome_iff_exists.1 kept)
  obtain ⟨_, _, _, known, standing, _⟩ := responses_follow_history landed
  obtain ⟨job, stands⟩ := (known "x").1 opened
  obtain ⟨_, analysis, returned, serves, _⟩ := standing "x" job stands
  obtain ⟨document, written, told⟩ := serves.document read asks
  exact ⟨job, analysis, document, stands, returned, written, told⟩

/-- An escaped slash ends an id.  A label with half of a surrogate pair keeps a map from being sent,
and an id with one keeps a document from being sent, but not its analysis from being kept. -/
theorem responses_beyond_history :
    let post (body : String) : Event :=
      .arrival { method := .post, address := "/api/analysis/analyze", body }
    let plain := [post "\x7b\x7d", .completion 0 "x"]
    let labelled := [post "\x7b\"label\": \"\\ud800\"\x7d", .completion 0 "x"]
    let dangling :=
      [post "\x7b\"references\": [\x7b\"from_id\": \"\\ud800\", \"to_id\": \"b\"\x7d]\x7d"]
    (((Server.after plain).response? { method := .get, address := "/api/analysis/x%2Fmap" }).map
        (·.status) = some 200 ∧ ¬IsOpen (Server.answersTo plain) "x/map") ∧
    (((Server.after labelled).response? { method := .get, address := "/api/analysis/x/map" }).map
        (·.status) = some 500 ∧ IsOpen (Server.answersTo labelled) "x") ∧
    (((Server.after dangling).exchange? (.completion 0 "x")).map (·.response.status) = some 500 ∧
      ¬IsOpen (Server.answersTo dangling) "x" ∧
      IsOpen (Server.answersTo (dangling ++ [.completion 0 "x"])) "x") := by
  intro post plain labelled dangling
  have opened : ∀ events id, IsOpen (Server.answersTo events) id ↔
      ((Server.after events).sessions.get? id).isSome = true := fun events id => by
    rw [(Server.accountedFor_after events).kept, Option.isSome_iff_exists]
  simp only [opened]
  refine ⟨⟨?_, ?_⟩, ⟨?_, ?_⟩, ?_, ?_, ?_⟩ <;> decide +kernel

end DepAtlas.Service
