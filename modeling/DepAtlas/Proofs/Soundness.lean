import DepAtlas.Proofs.LoggedWarnings
import DepAtlas.Proofs.Pipelines
import Mathlib.Algebra.Module.Submodule.Lattice
import Mathlib.Data.List.Permutation

/-!
# Sound analyses

An analysis comes from records and references or from a document.  Either way it is sound: its
graph is well-formed, its cycles are those of its graph, and its order is the processing order of
its graph.

The cycles are found along the dependencies, the blocked components by counting along the
dependents.  The main statement is that the two agree, and that the warning about blocked
components is given exactly when there are cycles.
-/

namespace DepAtlas

/-- What an analysis is made from. -/
inductive Origin where
  | analyzed (settings : Settings) (records : List Symbol) (references : List Reference)
  | rebuilt (document : Document)

/-- The analysis of an origin. -/
def Origin.trace : Origin → Traced Analysis
  | .analyzed settings records references => analyze settings records references
  | .rebuilt document => document.rebuild

/-! ## The parts of an analysis -/

/-- What holds of an analysis wherever it comes from. -/
structure Analysis.Sound (analysis : Analysis) : Prop where
  wellFormed : analysis.graph.WellFormed
  cycles : analysis.graph.store.AreCycles analysis.graph.cycles
  order : analysis.graph.dependencyOrder = .ok analysis.order

/-- Neither the cycles nor the seal of a graph has to do with its dependencies. -/
theorem Graph.sameDependencies_finished (graph : Graph) (cycles : List (List ComponentId)) :
    graph.store.SameDependencies ({ graph with cycles } : Graph).sealed.store :=
  ⟨.refl _, fun _ _ => Iff.rfl⟩

theorem Graph.WellFormed.finished {graph : Graph} (wf : graph.WellFormed)
    (cycles : List (List ComponentId)) : ({ graph with cycles } : Graph).sealed.WellFormed :=
  ⟨wf.store.sealed, wf.edges⟩

theorem Survey.Of.sound {analysis : Analysis} {graph : Graph} {settings : Settings}
    (surveyed : Survey.Of ⟨analysis.graph, analysis.order, analysis.overview⟩ graph settings)
    (wf : graph.WellFormed) : analysis.Sound := by
  have finished := surveyed.finished
  simp only at finished
  constructor
  case wellFormed =>
    rw [finished]
    exact wf.finished analysis.graph.cycles
  case cycles =>
    obtain ⟨cycles, found, correct⟩ := wf.findCycles
    have same : cycles = analysis.graph.cycles := by
      have again := surveyed.found
      rw [found] at again
      exact Except.ok.inj again
    rw [finished, ← same]
    exact (graph.sameDependencies_finished cycles).areCycles correct
  case order =>
    rw [finished, ← Graph.dependencyOrder_eq_of_same wf (wf.finished analysis.graph.cycles)
      (graph.sameDependencies_finished analysis.graph.cycles)]
    exact surveyed.ordered

/-! ## Notices about the order -/

section Order

variable {notice : Notice} (order : notice.topic = .order)

include order

/-- Of the stages of a survey only the sort reports on the order. -/
theorem Graph.mem_notices_survey {graph : Graph} {settings : Settings}
    {cycles : List (List ComponentId)} (found : graph.findCycles = .ok cycles) :
    notice ∈ (graph.survey settings).notices ↔ notice ∈ graph.dependencyOrderTraced.notices := by
  have searched : graph.findCyclesTraced.outcome = .ok cycles := found
  have sorted : ({ graph with cycles } : Graph).dependencyOrderTraced =
      graph.dependencyOrderTraced := rfl
  rw [Graph.survey, Traced.mem_notices_bind]
  constructor
  · rintro (early | ⟨again, ended, later⟩)
    · simp [topic_findCycles early] at order
    · rw [searched] at ended
      cases ended
      rcases Traced.mem_notices_bind.1 later with reported | ⟨_, _, later⟩
      · exact sorted ▸ reported
      · rcases Traced.mem_notices_bind.1 later with drawn | ⟨_, _, last⟩
        · simp [topic_overview drawn] at order
        · simp at last
  · intro reported
    exact .inr ⟨cycles, searched, Traced.mem_notices_bind.2 (.inl (sorted ▸ reported))⟩

theorem mem_notices_analyze {settings : Settings} {records : List Symbol}
    {references : List Reference} {store : Store}
    (loaded : (Store.load records).outcome = .ok store) :
    notice ∈ (analyze settings records references).notices ↔
      notice ∈ ((Graph.ofEdges store (references.filter store.takes)).survey settings).notices := by
  have bare : ({ store } : Graph).store.isSealed = false := (Store.of_load loaded).1
  have built := Graph.addReferences_of_open bare references
  have ended : (Graph.build store references).traced.outcome =
      .ok (Graph.build store references) := by
    simp only [Building.traced, Graph.build, built]
  have graph : (Graph.build store references).graph =
      Graph.ofEdges store (references.filter store.takes) := by
    simp only [Graph.build, built, Graph.ofEdges]
  have loading : notice ∉ (Store.load records).notices := fun member => by
    simp [Store.topic_load member] at order
  have building : notice ∉ (Graph.build store references).traced.notices := fun member => by
    simp [Graph.topic_building member] at order
  have apart : ∀ other : Notice, other.topic = .analysis → notice ≠ other := by
    rintro other topic rfl
    simp [topic] at order
  have rejections := apart (.rejections store.rejected.length) rfl
  have started := apart (.started store.size) rfl
  have finished : ∀ components edges cycles, notice ≠ .finished components edges cycles :=
    fun components edges cycles => apart (.finished components edges cycles) rfl
  simp [analyze, Traced.mem_notices_bind, loaded, ended, graph, loading, building, rejections,
    started, finished]

theorem Document.mem_notices_rebuild {document : Document} {store : Store}
    (loaded : (Store.load document.records).outcome = .ok store)
    (none : document.edges.filterMap store.dangling? = []) :
    notice ∈ document.rebuild.notices ↔
      notice ∈ ((Graph.ofEdges store document.edges).survey
        document.limits.settings).notices := by
  have bare : ({ store } : Graph).store.isSealed = false := (Store.of_load loaded).1
  have entered : ({ store } : Graph).insertEdges document.edges =
      .ok (Graph.ofEdges store document.edges) := by
    rw [Graph.insertEdges_of_open bare, none]
    rfl
  have loading : notice ∉ (Store.load document.records).notices := fun member => by
    simp [Store.topic_load member] at order
  have outdated : ∀ fields, notice ≠ .outOfDate fields := by
    rintro fields rfl
    simp [Notice.topic] at order
  rw [Document.records] at loaded loading
  simp [Document.rebuild, Document.replay, Document.graph, Traced.mem_notices_bind, loaded, entered,
    loading, outdated, Except.bind]

end Order

/-- The graph that an analysis of some origin surveys.  Nothing but its sort reports on the order.
-/
theorem Origin.made {origin : Origin} {analysis : Analysis}
    (returned : origin.trace.outcome = .ok analysis) :
    ∃ store edges, store.WellFormed ∧ analysis.Of store edges ∧
      ∀ notice, notice.topic = .order → (notice ∈ origin.trace.notices ↔
        notice ∈ (Graph.ofEdges store edges).dependencyOrderTraced.notices) := by
  cases origin with
  | analyzed settings records references =>
      obtain ⟨store, loaded, made, _⟩ := of_analyze returned
      refine ⟨store, _, (Store.of_load loaded).2, made, ?_⟩
      intro notice order
      rw [← Graph.mem_notices_survey order made.surveyed.found]
      exact mem_notices_analyze order loaded
  | rebuilt document =>
      obtain ⟨store, loaded, none, made, _⟩ := Document.of_rebuild returned
      refine ⟨store, _, (Store.of_load loaded).2, made, ?_⟩
      intro notice order
      rw [← Graph.mem_notices_survey order made.surveyed.found]
      exact Document.mem_notices_rebuild order loaded none

theorem Origin.sound {origin : Origin} {analysis : Analysis}
    (returned : origin.trace.outcome = .ok analysis) : analysis.Sound := by
  obtain ⟨store, edges, wf, made, _⟩ := Origin.made returned
  exact made.surveyed.sound (Graph.wellFormed_ofEdges wf made.taken)

/-- Neither the cycles nor the seal of a graph changes its overview. -/
theorem Origin.drawn {origin : Origin} {analysis : Analysis}
    (returned : origin.trace.outcome = .ok analysis) :
    analysis.graph.overview analysis.settings = .ok analysis.overview := by
  obtain ⟨store, edges, _, made, _⟩ := Origin.made returned
  have finished := made.surveyed.finished
  simp only at finished
  rw [finished]
  exact made.surveyed.drawn

/-- All parts of an overview but its layers are read off the store and the edges as they are. -/
theorem Origin.overview_eq {origin : Origin} {analysis : Analysis}
    (returned : origin.trace.outcome = .ok analysis) :
    analysis.overview = {
      totalFiles := analysis.graph.store.files.length
      totalComponents := analysis.graph.store.size
      totalEdges := analysis.graph.edges.length
      entryPoints := analysis.graph.store.entryPoints
      mostConnected := analysis.graph.store.mostConnected analysis.settings.mostConnected
      hotspots := analysis.graph.store.hotspots analysis.settings.hotspots
      complexFiles := analysis.graph.store.complexFiles analysis.settings.complexFiles
      layers := analysis.overview.layers } := by
  have drawn := Origin.drawn returned
  rw [Graph.overview] at drawn
  cases grouped : analysis.graph.layers with
  | error fault =>
      rw [grouped] at drawn
      cases drawn
  | ok layers =>
      rw [grouped] at drawn
      rw [← Except.ok.inj drawn]

/-! ## Cycles and blocked components -/

/-- The sort that an analysis took its order from, with the warnings that it gave. -/
theorem Origin.schedule {origin : Origin} {analysis : Analysis}
    (returned : origin.trace.outcome = .ok analysis) :
    ∃ schedule, analysis.graph.schedule = .ok schedule ∧
      analysis.order = ⟨schedule.emitted ++ schedule.blocked, !schedule.blocked.isEmpty⟩ ∧
      ∀ count, Notice.blocked count ∈ origin.trace.notices ↔
        schedule.blocked ≠ [] ∧ count = schedule.blocked.length := by
  obtain ⟨store, edges, wf, made, reported⟩ := Origin.made returned
  have wfOver := Graph.wellFormed_ofEdges wf made.taken
  have sound := made.surveyed.sound wfOver
  -- The graph was sorted before it was finished, but it has the same schedule behind that.
  have same := (Graph.ofEdges store edges).sameDependencies_finished analysis.graph.cycles
  rw [← made.surveyed.finished] at same
  obtain ⟨schedule, twin, scheduled, scheduledTwin, _, blocked⟩ :=
    Graph.schedules_agree wfOver sound.wellFormed same
  have ordered := sound.order
  rw [Graph.dependencyOrder, scheduledTwin] at ordered
  refine ⟨twin, scheduledTwin, (Except.ok.inj ordered).symm, ?_⟩
  intro count
  rw [reported _ rfl, Graph.mem_notices_dependencyOrder scheduled, blocked, Notice.blocked.injEq]

/-- A sound analysis has blocked components exactly when it has cycles: the members of cycles are
blocked, and whatever is blocked leads to one. -/
theorem Analysis.Sound.blocked {analysis : Analysis} (sound : analysis.Sound) {schedule : Schedule}
    (scheduled : analysis.graph.schedule = .ok schedule) {id : ComponentId} :
    id ∈ schedule.blocked ↔ ∃ member ∈ analysis.graph.cycles.flatten,
      analysis.graph.store.Leads id member := by
  rw [sound.wellFormed.mem_blocked_iff scheduled]
  constructor
  · rintro ⟨around, leads, cycle⟩
    exact ⟨around, sound.cycles.mem_flatten_iff.2 cycle, leads⟩
  · rintro ⟨member, listed, leads⟩
    exact ⟨member, leads, sound.cycles.mem_flatten_iff.1 listed⟩

theorem Analysis.Sound.blocked_ne_nil_iff {analysis : Analysis} (sound : analysis.Sound)
    {schedule : Schedule} (scheduled : analysis.graph.schedule = .ok schedule) :
    schedule.blocked ≠ [] ↔ analysis.graph.cycles ≠ [] := by
  constructor
  · intro some none
    obtain ⟨id, isBlocked⟩ := List.exists_mem_of_ne_nil _ some
    obtain ⟨member, listed, _⟩ := (sound.blocked scheduled).1 isBlocked
    simp [none] at listed
  · intro some
    obtain ⟨members, member⟩ := List.exists_mem_of_ne_nil _ some
    obtain ⟨id, inside⟩ := List.exists_mem_of_ne_nil members (sound.cycles.ne_nil members member)
    apply List.ne_nil_of_mem
    exact (sound.blocked scheduled).2 ⟨id, List.mem_flatten.2 ⟨members, member, inside⟩, .refl⟩

/-- The two searches for cycles agree in every analysis.  Components are blocked, and a warning
with their number is given and stands in a log of any level, exactly when cycles are listed; the
members of the cycles are blocked; and a blocked component is a member of a cycle or reaches one. -/
theorem blocked_iff_cycles {origin : Origin} {analysis : Analysis}
    (returned : origin.trace.outcome = .ok analysis) :
    ∃ schedule, analysis.graph.schedule = .ok schedule ∧
      analysis.order.order = schedule.emitted ++ schedule.blocked ∧
      (analysis.order.cyclesPresent = true ↔ analysis.graph.cycles ≠ []) ∧
      (∀ count, Notice.blocked count ∈ origin.trace.notices ↔
        analysis.graph.cycles ≠ [] ∧ count = schedule.blocked.length) ∧
      (∀ least count, blockedLine count ∈ Notice.lines least origin.trace.notices ↔
        analysis.graph.cycles ≠ [] ∧ count = schedule.blocked.length) ∧
      (∀ members ∈ analysis.graph.cycles, ∀ id ∈ members, id ∈ schedule.blocked) ∧
      ∀ id ∈ schedule.blocked, (∃ members ∈ analysis.graph.cycles, id ∈ members) ∨
        ∃ members ∈ analysis.graph.cycles, ∃ member ∈ members,
          analysis.graph.store.Reaches id member := by
  have sound := Origin.sound returned
  obtain ⟨schedule, scheduled, order, warned⟩ := Origin.schedule returned
  have present := sound.blocked_ne_nil_iff scheduled
  refine ⟨schedule, scheduled, by rw [order], ?_, ?_, ?_, ?_, ?_⟩
  · rw [order, ← present]
    simp
  · intro count
    rw [warned, present]
  · intro least count
    rw [Notice.blockedLine_mem_lines_iff, warned, present]
  · intro members member id inside
    exact (sound.blocked scheduled).2 ⟨id, List.mem_flatten.2 ⟨members, member, inside⟩, .refl⟩
  · intro id isBlocked
    obtain ⟨around, listed, leads⟩ := (sound.blocked scheduled).1 isBlocked
    obtain ⟨members, member, inside⟩ := List.mem_flatten.1 listed
    rcases Relation.reflTransGen_iff_eq_or_transGen.1 leads with rfl | reaches
    · exact .inl ⟨members, member, inside⟩
    · exact .inr ⟨members, member, around, inside, reaches⟩

/-- A component behind two that depend on each other. -/
theorem blocked_iff_cycles_behind_pair :
    ∃ origin analysis schedule, origin = Origin.analyzed {}
        [{ id := "c", name := "c", file := "f", startLine := 1, endLine := 1 },
          { id := "a", name := "a", file := "f", startLine := 2, endLine := 2 },
          { id := "b", name := "b", file := "f", startLine := 3, endLine := 3 }]
        [⟨"a", "b", .call⟩, ⟨"b", "a", .importing⟩, ⟨"c", "a", .call⟩] ∧
      origin.trace.outcome = .ok analysis ∧ analysis.graph.schedule = .ok schedule ∧
      analysis.graph.cycles = [["a", "b"]] ∧
      analysis.order = ⟨["a", "b", "c"], true⟩ ∧ schedule.blocked = ["a", "b", "c"] ∧
      (∀ count, Notice.blocked count ∈ origin.trace.notices ↔ count = 3) ∧
      "WARNING repo_mapper.analysis.sequencer: Cycles detected in dependency graph; " ++
        "3 component(s) appended to the processing order by id" ∈
        Notice.lines .warning origin.trace.notices := by
  have evaluated : (analyze {}
      [{ id := "c", name := "c", file := "f", startLine := 1, endLine := 1 },
        { id := "a", name := "a", file := "f", startLine := 2, endLine := 2 },
        { id := "b", name := "b", file := "f", startLine := 3, endLine := 3 }]
      [⟨"a", "b", .call⟩, ⟨"b", "a", .importing⟩, ⟨"c", "a", .call⟩]).outcome.toOption.map
        (fun analysis => (analysis.graph.cycles, analysis.order,
          analysis.graph.schedule.toOption.map Schedule.blocked)) =
      some ([["a", "b"]], ⟨["a", "b", "c"], true⟩, some ["a", "b", "c"]) := by
    cbv
  obtain ⟨analysis, known, values⟩ := Option.map_eq_some_iff.1 evaluated
  have returned := Traced.outcome_of_toOption known
  simp only [Prod.mk.injEq] at values
  obtain ⟨cycles, order, behind⟩ := values
  obtain ⟨schedule, scheduled, _, _, warned, logged, _⟩ :=
    @blocked_iff_cycles (.analyzed _ _ _) analysis returned
  have blocked : schedule.blocked = ["a", "b", "c"] := by
    simpa [scheduled, Except.toOption] using behind
  simp only [cycles, blocked] at warned logged
  have worded : blockedLine 3 =
      "WARNING repo_mapper.analysis.sequencer: Cycles detected in dependency graph; " ++
        "3 component(s) appended to the processing order by id" := by
    decide +kernel
  have warning := (logged .warning 3).2 (by simp)
  rw [worded] at warning
  exact ⟨_, analysis, schedule, rfl, returned, scheduled, cycles, order, blocked,
    by simpa using warned, warning⟩

end DepAtlas
