import DepAtlas.Store

/-!
# The dependency graph

The edges of a graph are references between stored components.  Parallel edges all
count as edges; the lists of neighbours in the components hold every neighbour once.
-/

namespace DepAtlas

/-- Depend on a component. -/
def Component.addDependency (component : Component) (id : ComponentId) : Component :=
  { component with dependencies := addNew component.dependencies id }

/-- Be depended on by a component. -/
def Component.addDependent (component : Component) (id : ComponentId) : Component :=
  { component with dependents := addNew component.dependents id }

/-- What an edge does to a component. -/
def Component.link (component : Component) (edge : Reference) : Component :=
  let entered :=
    if component.id = edge.source then component.addDependency edge.target else component
  if component.id = edge.target then entered.addDependent edge.source else entered

@[simp] theorem Component.id_link (component : Component) (edge : Reference) :
    (component.link edge).id = component.id := by
  unfold Component.link
  split <;> split <;> rfl

theorem Component.mem_dependencies_link {component : Component} {edge : Reference}
    {id : ComponentId} :
    id ∈ (component.link edge).dependencies ↔
      id ∈ component.dependencies ∨ component.id = edge.source ∧ id = edge.target := by
  unfold Component.link
  split <;> split <;> simp_all [addDependency, addDependent]

theorem Component.mem_dependents_link {component : Component} {edge : Reference}
    {id : ComponentId} :
    id ∈ (component.link edge).dependents ↔
      id ∈ component.dependents ∨ component.id = edge.target ∧ id = edge.source := by
  unfold Component.link
  split <;> split <;> simp_all [addDependency, addDependent]

/-- A store with edges between its components, and the cycles that were found in it. -/
structure Graph where
  store : Store := {}
  edges : List Reference := []
  cycles : List (List ComponentId) := []
  deriving DecidableEq, Repr

/-- What became of a list of references: the graph behind it, the references that were
dropped, and the fault that ended the building early. -/
structure Building where
  graph : Graph
  dangling : List DanglingReference
  fault? : Option Fault
  deriving Repr

/-- Enter an edge in the lists of neighbours of its two ends. -/
def Store.link (store : Store) (edge : Reference) : Store :=
  (store.update edge.source (·.addDependency edge.target)).update edge.target
    (·.addDependent edge.source)

theorem Store.components_link (store : Store) (edge : Reference) :
    (store.link edge).components = store.components.map fun component => component.link edge := by
  simp only [Store.link, Store.update, List.map_map]
  apply List.map_congr_left
  intro component _
  simp only [Function.comp_apply, Component.link]
  split <;> rfl

@[simp] theorem Store.keys_link (store : Store) (edge : Reference) :
    (store.link edge).keys = store.keys := by
  simp [Store.keys, Store.components_link, Function.comp_def]

/-- The first end of a reference that is not stored. -/
def Store.missingEnd? (store : Store) (reference : Reference) : Option ComponentId :=
  if !store.contains reference.source then some reference.source
  else if !store.contains reference.target then some reference.target
  else none

namespace Graph

/-- Add an edge.  A failure leaves the graph as it was. -/
def insertEdge (graph : Graph) (edge : Reference) : Graph × Except Fault Unit :=
  if graph.store.isSealed then (graph, .error .graphSealed)
  else
    match graph.store.missingEnd? edge with
    | some id => (graph, .error (.unknownEndpoint id))
    | none =>
        ({ graph with store := graph.store.link edge, edges := graph.edges ++ [edge] }, .ok ())

/-- Whether a component depends on itself. -/
def dependsOnItself (graph : Graph) (id : ComponentId) : Bool :=
  match graph.store.get? id with
  | some component => component.dependencies.contains id
  | none => false

/-- Add the references whose ends are stored, one after the other, and put the others
aside. -/
def addReferences (graph : Graph) : List Reference → Building
  | [] => ⟨graph, [], none⟩
  | reference :: references =>
      match graph.store.missingEnd? reference with
      | some id =>
          let building := graph.addReferences references
          { building with dangling := ⟨reference, id⟩ :: building.dangling }
      | none =>
          match graph.insertEdge reference with
          | (next, .ok ()) => next.addReferences references
          | (next, .error fault) => ⟨next, [], some fault⟩

/-- A graph over a store with the given references. -/
def build (store : Store) (references : List Reference) : Building :=
  ({ store } : Graph).addReferences references

/-- Add edges, all of whose ends have to be stored. -/
def insertEdges (graph : Graph) : List Reference → Except Fault Graph
  | [] => .ok graph
  | edge :: edges =>
      match graph.insertEdge edge with
      | (next, .ok ()) => next.insertEdges edges
      | (_, .error fault) => .error fault

/-- Take nothing more. -/
def sealed (graph : Graph) : Graph :=
  { graph with store := graph.store.sealed }

/-- Two graphs agree when their stores do and their edges and cycles are the same. -/
def agrees (a b : Graph) : Bool :=
  a.store.agrees b.store && a.edges == b.edges && a.cycles == b.cycles

end Graph

namespace Building

/-- The notices of building a graph; a failure is not summed up. -/
def notices (building : Building) : List Notice :=
  building.dangling.map .dropped ++
    match building.fault? with
    | some _ => []
    | none =>
        (if building.dangling.isEmpty then [] else [.drops building.dangling.length]) ++
          [.built building.graph.store.size building.graph.edges.length]

/-- Building as a computation. -/
def traced (building : Building) : Traced Building :=
  ⟨building.notices, match building.fault? with
    | none => .ok building
    | some fault => .error fault⟩

end Building

end DepAtlas
