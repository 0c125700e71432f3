import DepAtlas.Rebuild
import DepAtlas.Proofs.Survey

/-!
# Analysing and rebuilding

Both ways to an analysis load records into a store, enter edges and survey the graph.  Analysing
puts references without stored ends aside; rebuilding fails at the first of them.  Where all
ends are stored, the two do the same.
-/

namespace DepAtlas

/-! ## Loading -/

namespace Store

/-- An open store stays open, and refuses a record only because of its id. -/
theorem insertMany_of_open {store : Store} (opened : store.isSealed = false)
    (records : List Symbol) :
    (store.insertMany records).store.isSealed = false ∧
      ∀ fault, (store.insertMany records).fault? = some fault →
        ∃ id first second, fault = .duplicate id first second := by
  induction records generalizing store with
  | nil => exact ⟨opened, fun fault failed => by cases failed⟩
  | cons record records ih =>
      have step := store.insertStep record
      rw [insertMany]
      generalize store.insert record = result at step
      cases step with
      | sealed closed => simp [opened] at closed
      | rejected | stored =>
          apply ih
          exact opened
      | repeated => exact ih opened
      | duplicate existing _ _ _ _ =>
          refine ⟨opened, fun fault failed => ?_⟩
          cases failed
          exact ⟨_, _, _, rfl⟩

/-- A batch into a fresh store that is not ended is what is loaded. -/
theorem load_eq_ok_iff {records : List Symbol} {store : Store} :
    (load records).outcome = .ok store ↔
      (({} : Store).insertMany records).fault? = none ∧
        (({} : Store).insertMany records).store = store := by
  rw [load]
  cases ended : (({} : Store).insertMany records).fault? <;> simp

theorem load_eq_error_iff {records : List Symbol} {fault : Fault} :
    (load records).outcome = .error fault ↔
      (({} : Store).insertMany records).fault? = some fault := by
  rw [load]
  cases ended : (({} : Store).insertMany records).fault? <;> simp

theorem eq_of_load {records : List Symbol} {store : Store}
    (loaded : (load records).outcome = .ok store) :
    store = (({} : Store).insertMany records).store :=
  (load_eq_ok_iff.1 loaded).2.symm

/-- A loaded store is open and well-formed. -/
theorem of_load {records : List Symbol} {store : Store}
    (loaded : (load records).outcome = .ok store) :
    store.isSealed = false ∧ store.WellFormed := by
  rw [eq_of_load loaded]
  exact ⟨(insertMany_of_open rfl records).1, wellFormed_empty.insertMany records⟩

/-- Loading fails for no other reason than an id that two files claim. -/
theorem duplicate_of_load {records : List Symbol} {fault : Fault}
    (failed : (load records).outcome = .error fault) :
    ∃ id first second, fault = .duplicate id first second :=
  (insertMany_of_open rfl records).2 fault (load_eq_error_iff.1 failed)

theorem topic_load {records : List Symbol} {notice : Notice}
    (member : notice ∈ (load records).notices) : notice.topic = .store := by
  obtain ⟨insertion, _, inside⟩ := List.mem_flatMap.1 member
  cases insertion with
  | stored component => simp [Insertion.notices] at inside
  | repeated existing | rejected record =>
      rw [List.mem_singleton.1 inside]
      rfl

theorem filter_takes_of_dangling_eq_nil {store : Store} {references : List Reference}
    (none : references.filterMap store.dangling? = []) :
    references.filter store.takes = references := by
  rw [List.filter_eq_self]
  intro reference member
  have kept := List.filterMap_eq_nil_iff.1 none reference member
  rw [dangling?, Option.map_eq_none_iff] at kept
  rw [takes, kept]
  rfl

end Store

namespace Graph

/-- Entering edges into an open graph stops at the first one without stored ends. -/
theorem insertEdges_of_open {graph : Graph} (opened : graph.store.isSealed = false)
    (edges : List Reference) :
    graph.insertEdges edges =
      match edges.filterMap graph.store.dangling? with
      | [] => .ok (graph.linked edges)
      | first :: _ => .error (.unknownEndpoint first.missing) := by
  induction edges generalizing graph with
  | nil => rw [insertEdges, linked_nil]; rfl
  | cons edge edges ih =>
      have step := graph.insertEdgeStep edge
      rw [insertEdges]
      generalize graph.insertEdge edge = result at step
      cases step with
      | sealed closed => simp [opened] at closed
      | missing id _ absent =>
          have put : graph.store.dangling? edge = some ⟨edge, id⟩ := by
            rw [Store.dangling?, absent]
            rfl
          rw [List.filterMap_cons_some put]
      | linked _ present =>
          have kept : graph.store.dangling? edge = none := by
            rw [Store.dangling?, present]
            rfl
          have same := Store.dangling?_congr (graph.keys_linked_singleton edge)
          have stillOpen : (graph.linked [edge]).store.isSealed = false := by
            rw [isSealed_linked, opened]
          rw [List.filterMap_cons_none kept, linked_cons graph edge edges, ← same]
          exact ih stillOpen

theorem topic_building {building : Building} {notice : Notice}
    (member : notice ∈ building.traced.notices) : notice.topic = .graph := by
  rcases List.mem_append.1 member with dropped | summed
  · obtain ⟨dangling, _, rfl⟩ := List.mem_map.1 dropped
    rfl
  · split at summed
    next => simp at summed
    next =>
      rcases List.mem_append.1 summed with counted | built
      · split at counted
        next => simp at counted
        next =>
          rw [List.mem_singleton.1 counted]
          rfl
      · rw [List.mem_singleton.1 built]
        rfl

/-- The graph over a store with some edges, before it is surveyed. -/
def ofEdges (store : Store) (edges : List Reference) : Graph :=
  ({ store } : Graph).linked edges

theorem wellFormed_ofEdges {store : Store} (wf : store.WellFormed) {edges : List Reference}
    (taken : ∀ edge ∈ edges, store.takes edge = true) : (ofEdges store edges).WellFormed := by
  have bare : ({ store } : Graph).WellFormed := ⟨wf, by simp⟩
  exact bare.linked taken

end Graph

/-! ## Analyses of a store -/

/-- What makes up an analysis of a loaded store under some edges, apart from what was put
aside. -/
structure Analysis.Of (analysis : Analysis) (store : Store) (edges : List Reference) : Prop where
  taken : ∀ edge ∈ edges, store.takes edge = true
  surveyed : Survey.Of ⟨analysis.graph, analysis.order, analysis.overview⟩
    (Graph.ofEdges store edges) analysis.settings

/-- The analysis of records whose store could be loaded. -/
theorem analyze_of_load (settings : Settings) {records : List Symbol}
    (references : List Reference) {store : Store}
    (loaded : (Store.load records).outcome = .ok store) :
    ∃ analysis, (analyze settings records references).outcome = .ok analysis ∧
      analysis.Of store (references.filter store.takes) ∧
      analysis.dangling = references.filterMap store.dangling? ∧
      analysis.rejected = store.rejected ∧ analysis.settings = settings := by
  obtain ⟨opened, wf⟩ := Store.of_load loaded
  have taken : ∀ edge ∈ references.filter store.takes, store.takes edge = true :=
    fun edge member => (List.mem_filter.1 member).2
  obtain ⟨survey, surveyed⟩ := (Graph.wellFormed_ofEdges wf taken).survey settings
  have whole := Graph.outcome_survey_eq_ok_iff.1 surveyed
  have bare : ({ store } : Graph).store.isSealed = false := opened
  have built := Graph.addReferences_of_open bare references
  have rejected : survey.graph.store.rejected = store.rejected := by
    rw [whole.finished]
    exact Graph.rejected_linked { store } (references.filter store.takes)
  refine ⟨{
    graph := survey.graph
    order := survey.order
    overview := survey.overview
    dangling := references.filterMap store.dangling?
    rejected := survey.graph.store.rejected
    settings }, ?_, ⟨taken, whole⟩, rfl, rejected, rfl⟩
  simp only [analyze, Traced.outcome_bind, loaded, Except.bind, Graph.build, built,
    Building.traced, Traced.outcome_note]
  rw [show (({ store } : Graph).linked (references.filter store.takes)) =
    Graph.ofEdges store (references.filter store.takes) from rfl, surveyed]
  rfl

theorem analyze_of_load_error (settings : Settings) {records : List Symbol}
    (references : List Reference) {fault : Fault}
    (failed : (Store.load records).outcome = .error fault) :
    (analyze settings records references).outcome = .error fault := by
  simp only [analyze, Traced.outcome_bind, failed, Except.bind]

/-- Nothing but loading the records can fail. -/
theorem load_of_analyze_error {settings : Settings} {records : List Symbol}
    {references : List Reference} {fault : Fault}
    (failed : (analyze settings records references).outcome = .error fault) :
    (Store.load records).outcome = .error fault := by
  cases loaded : (Store.load records).outcome with
  | error other =>
      rw [analyze_of_load_error settings references loaded] at failed
      cases failed
      rfl
  | ok store =>
      obtain ⟨analysis, returned, _⟩ := analyze_of_load settings references loaded
      rw [returned] at failed
      cases failed

/-- What is returned by analysing records and references. -/
theorem of_analyze {settings : Settings} {records : List Symbol} {references : List Reference}
    {analysis : Analysis} (returned : (analyze settings records references).outcome = .ok analysis) :
    ∃ store, (Store.load records).outcome = .ok store ∧
      analysis.Of store (references.filter store.takes) ∧
      analysis.dangling = references.filterMap store.dangling? ∧
      analysis.rejected = store.rejected ∧ analysis.settings = settings := by
  cases loaded : (Store.load records).outcome with
  | error fault =>
      rw [analyze_of_load_error settings references loaded] at returned
      cases returned
  | ok store =>
      obtain ⟨again, outcome, whole⟩ := analyze_of_load settings references loaded
      rw [returned] at outcome
      cases outcome
      exact ⟨store, rfl, whole⟩

namespace Document

/-- The records that the components of a document stand for. -/
def records (document : Document) : List Symbol :=
  document.components.map Component.toSymbol

theorem outcome_rebuild (document : Document) :
    document.rebuild.outcome = document.replay.outcome := by
  simp only [rebuild, Traced.outcome_bind, Traced.outcome_note, Traced.outcome_pure, Except.bind]
  cases document.replay.outcome <;> rfl

theorem rebuild_of_load_error {document : Document} {fault : Fault}
    (failed : (Store.load document.records).outcome = .error fault) :
    document.rebuild.outcome = .error fault := by
  rw [records] at failed
  rw [outcome_rebuild]
  simp only [replay, graph, Traced.outcome_bind, failed, Except.bind]

/-- A document whose edges all have stored ends can be rebuilt. -/
theorem rebuild_of_load {document : Document} {store : Store}
    (loaded : (Store.load document.records).outcome = .ok store)
    (none : document.edges.filterMap store.dangling? = []) :
    ∃ analysis, document.rebuild.outcome = .ok analysis ∧ analysis.Of store document.edges ∧
      analysis.dangling = document.dangling ∧
      analysis.rejected = document.rejected.map RejectedEntry.toSymbol ∧
      analysis.settings = document.limits.settings := by
  obtain ⟨opened, wf⟩ := Store.of_load loaded
  have bare : ({ store } : Graph).store.isSealed = false := opened
  have entered : ({ store } : Graph).insertEdges document.edges =
      .ok (Graph.ofEdges store document.edges) := by
    rw [Graph.insertEdges_of_open bare, none]
    rfl
  have taken : ∀ edge ∈ document.edges, store.takes edge = true :=
    List.filter_eq_self.1 (Store.filter_takes_of_dangling_eq_nil none)
  obtain ⟨survey, surveyed⟩ := (Graph.wellFormed_ofEdges wf taken).survey document.limits.settings
  have whole := Graph.outcome_survey_eq_ok_iff.1 surveyed
  refine ⟨{
    graph := survey.graph
    order := survey.order
    overview := survey.overview
    dangling := document.dangling
    rejected := document.rejected.map RejectedEntry.toSymbol
    settings := document.limits.settings }, ?_, ⟨taken, whole⟩, rfl, rfl, rfl⟩
  rw [records] at loaded
  rw [outcome_rebuild]
  simp only [replay, graph, Traced.outcome_bind, loaded, Except.bind, Traced.outcome_ofExcept,
    entered, surveyed, Traced.outcome_pure]

/-- The rebuilding of a document stops at the first edge without stored ends. -/
theorem rebuild_of_load_dangling {document : Document} {store : Store}
    (loaded : (Store.load document.records).outcome = .ok store) {first : DanglingReference}
    {rest : List DanglingReference}
    (dangling : document.edges.filterMap store.dangling? = first :: rest) :
    document.rebuild.outcome = .error (.unknownEndpoint first.missing) := by
  have bare : ({ store } : Graph).store.isSealed = false := (Store.of_load loaded).1
  have entered : ({ store } : Graph).insertEdges document.edges =
      .error (.unknownEndpoint first.missing) := by
    rw [Graph.insertEdges_of_open bare, dangling]
  rw [records] at loaded
  rw [outcome_rebuild]
  simp only [replay, graph, Traced.outcome_bind, loaded, Except.bind, Traced.outcome_ofExcept,
    entered]

/-- What is returned by rebuilding a document. -/
theorem of_rebuild {document : Document} {analysis : Analysis}
    (returned : document.rebuild.outcome = .ok analysis) :
    ∃ store, (Store.load document.records).outcome = .ok store ∧
      document.edges.filterMap store.dangling? = [] ∧ analysis.Of store document.edges ∧
      analysis.dangling = document.dangling ∧
      analysis.rejected = document.rejected.map RejectedEntry.toSymbol ∧
      analysis.settings = document.limits.settings := by
  cases loaded : (Store.load document.records).outcome with
  | error fault =>
      rw [rebuild_of_load_error loaded] at returned
      cases returned
  | ok store =>
      cases left : document.edges.filterMap store.dangling? with
      | cons first rest =>
          rw [rebuild_of_load_dangling loaded left] at returned
          cases returned
      | nil =>
          obtain ⟨again, outcome, whole⟩ := rebuild_of_load loaded left
          rw [returned] at outcome
          cases outcome
          exact ⟨store, rfl, left, whole⟩

end Document

end DepAtlas
