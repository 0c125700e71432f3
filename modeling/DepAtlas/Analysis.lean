import DepAtlas.CycleSearch
import DepAtlas.Overview
import DepAtlas.DependencyOrder

/-!
# Analyses

An analysis takes symbol records and references and runs through its stages: the store,
the graph, the cycles, the processing order and the overview.  Its result is finished;
nothing can be added to it.
-/

namespace DepAtlas

/-- A finished analysis. -/
structure Analysis where
  graph : Graph
  order : DependencyOrder
  overview : Overview
  dangling : List DanglingReference
  rejected : List Symbol
  settings : Settings
  deriving Repr

/-- The stages behind the graph: cycles, order and overview of a graph, which is sealed
at the end. -/
structure Survey where
  graph : Graph
  order : DependencyOrder
  overview : Overview
  deriving Repr

/-- Survey a graph. -/
def Graph.survey (graph : Graph) (settings : Settings) : Traced Survey := do
  let cycles ← graph.findCyclesTraced
  let graph := { graph with cycles }
  let order ← graph.dependencyOrderTraced
  let overview ← graph.overviewTraced settings
  return ⟨graph.sealed, order, overview⟩

/-- Analyse records and references. -/
def analyze (settings : Settings) (records : List Symbol)
    (references : List Reference) : Traced Analysis := do
  let store ← Store.load records
  Traced.note [.started store.size]
  Traced.note (if store.rejected.isEmpty then [] else [.rejections store.rejected.length])
  let building ← (Graph.build store references).traced
  let survey ← building.graph.survey settings
  Traced.note
    [.finished survey.graph.store.size survey.graph.edges.length survey.graph.cycles.length]
  return {
    graph := survey.graph
    order := survey.order
    overview := survey.overview
    dangling := building.dangling
    rejected := survey.graph.store.rejected
    settings }

namespace Analysis

/-- The component with an id. -/
def component? (analysis : Analysis) (id : ComponentId) : Option Component :=
  analysis.graph.store.get? id

/-- What a component depends on, if it is stored. -/
def dependencies? (analysis : Analysis) (id : ComponentId) : Option (List ComponentId) :=
  (analysis.component? id).map (·.dependencies)

/-- What depends on a component, if it is stored. -/
def dependents? (analysis : Analysis) (id : ComponentId) : Option (List ComponentId) :=
  (analysis.component? id).map (·.dependents)

/-- The component with an id, or else the first one, by ascending id, with that name. -/
def resolve? (analysis : Analysis) (nameOrId : String) : Option Component :=
  match analysis.component? nameOrId with
  | some component => some component
  | none =>
      (analysis.graph.store.ids.filterMap analysis.graph.store.get?).find? fun component =>
        component.name = nameOrId

/-- Two analyses agree when all their parts do; the settings may differ. -/
def agrees (a b : Analysis) : Bool :=
  a.graph.agrees b.graph && a.order == b.order && a.overview == b.overview &&
    a.dangling == b.dangling && a.rejected == b.rejected

end Analysis

end DepAtlas
