import DepAtlas.Layers
import DepAtlas.Ranking
import DepAtlas.Settings

/-!
# The overview of a graph

An overview sums a graph up: totals, entry points, rankings and layers.  Every part is a
function of the graph and of the ranking limits.
-/

namespace DepAtlas

/-- The overview of a graph. -/
structure Overview where
  totalFiles : Nat
  totalComponents : Nat
  totalEdges : Nat
  entryPoints : List ComponentId
  mostConnected : List ComponentId
  hotspots : List ComponentId
  complexFiles : List String
  layers : List Layer
  deriving DecidableEq, Repr

/-- The overview of a graph under some settings. -/
def Graph.overview (graph : Graph) (settings : Settings) : Except Fault Overview := do
  let layers ← graph.layers
  return {
    totalFiles := graph.store.files.length
    totalComponents := graph.store.size
    totalEdges := graph.edges.length
    entryPoints := graph.store.entryPoints
    mostConnected := graph.store.mostConnected settings.mostConnected
    hotspots := graph.store.hotspots settings.hotspots
    complexFiles := graph.store.complexFiles settings.complexFiles
    layers }

/-- The overview with its notices. -/
def Graph.overviewTraced (graph : Graph) (settings : Settings) : Traced Overview :=
  ⟨[.drawingOverview], graph.overview settings⟩

end DepAtlas
