import DepAtlas.Graph

/-!
# Architectural layers

Components are grouped by the top-level directory of their files.  Each layer lists its
files and describes itself by three numbers: its components, its files, and the edges
that lead from it into other layers.
-/

namespace DepAtlas

/-- A layer of a code base. -/
structure Layer where
  name : String
  files : List String
  description : String
  deriving DecidableEq, Repr

/-- The description of a layer. -/
def Layer.summary (components files outgoing : Nat) : String :=
  s!"{components} component(s) in {files} file(s), {outgoing} outgoing cross-layer edge(s)"

/-- The layer of a component. -/
def Component.layer (component : Component) : String :=
  fileLayer component.file

namespace Store

/-- The components of a layer. -/
def layerComponents (store : Store) (layer : String) : List Component :=
  store.components.filter fun component => component.layer = layer

/-- The files of a layer in ascending order. -/
def layerFiles (store : Store) (layer : String) : List String :=
  ascending (distinct ((store.layerComponents layer).map (·.file)))

/-- The names of all layers in ascending order. -/
def layerNames (store : Store) : List String :=
  ascending (distinct (store.components.map (·.layer)))

end Store

namespace Graph

/-- The layers at the two ends of an edge. -/
def edgeLayers (graph : Graph) (edge : Reference) : Except Fault (String × String) := do
  let source ← graph.store.get edge.source
  let target ← graph.store.get edge.target
  return (source.layer, target.layer)

/-- The number of edges that lead out of a layer; parallel edges all count. -/
def outgoing (crossings : List (String × String)) (layer : String) : Nat :=
  crossings.countP fun (source, target) => source = layer && source != target

/-- The layers of a graph in ascending order. -/
def layers (graph : Graph) : Except Fault (List Layer) := do
  let crossings ← graph.edges.mapM graph.edgeLayers
  return graph.store.layerNames.map fun name =>
    let files := graph.store.layerFiles name
    let components := (graph.store.layerComponents name).length
    ⟨name, files, Layer.summary components files.length (outgoing crossings name)⟩

end Graph

end DepAtlas
