import DepAtlas.Document

/-!
# Rebuilding an analysis from its document

The components and edges of a document are entered anew, and everything else is computed
from them again.  Stored values that disagree with the computed ones are out of date:
they are reported and dropped.  The audit lists are taken over as they stand.
-/

namespace DepAtlas

namespace Document

/-- A value of a document that is computed from its graph. -/
inductive DerivedField where
  | totalComponents
  | totalFiles
  | totalEdges
  | cycles
  | cyclesPresent
  | entryPoints
  | mostConnected
  | hotspots
  | complexFiles
  | layers
  | order
  deriving DecidableEq, Repr

namespace DerivedField

/-- The derived fields in the order in which they are reported. -/
def all : List DerivedField :=
  [.totalComponents, .totalFiles, .totalEdges, .cycles, .cyclesPresent, .entryPoints,
    .mostConnected, .hotspots, .complexFiles, .layers, .order]

/-- The name of a derived field. -/
def name : DerivedField → String
  | .totalComponents => "total_components"
  | .totalFiles => "total_files"
  | .totalEdges => "total_edges"
  | .cycles => "cycles"
  | .cyclesPresent => "cycles_present"
  | .entryPoints => "entry_points"
  | .mostConnected => "most_connected_components"
  | .hotspots => "dependency_hotspots"
  | .complexFiles => "most_complex_files"
  | .layers => "architectural_layers"
  | .order => "processing_order"

/-- Whether two documents have the same value in a field. -/
def same (a b : Document) : DerivedField → Bool
  | .totalComponents => a.totalComponents == b.totalComponents
  | .totalFiles => a.totalFiles == b.totalFiles
  | .totalEdges => a.totalEdges == b.totalEdges
  | .cycles => a.cycles == b.cycles
  | .cyclesPresent => a.cyclesPresent == b.cyclesPresent
  | .entryPoints => a.entryPoints == b.entryPoints
  | .mostConnected => a.mostConnected == b.mostConnected
  | .hotspots => a.hotspots == b.hotspots
  | .complexFiles => a.complexFiles == b.complexFiles
  | .layers => a.layers == b.layers
  | .order => a.order == b.order

end DerivedField

/-- The derived fields of a stored document that a fresh one contradicts. -/
def outdatedFields (stored fresh : Document) : List DerivedField :=
  DerivedField.all.filter fun field => !field.same stored fresh

/-- The graph of a document: its components entered in order, then its edges. -/
def graph (document : Document) : Traced Graph := do
  let store ← Store.load (document.components.map Component.toSymbol)
  Traced.ofExcept (({ store } : Graph).insertEdges document.edges)

/-- The analysis that a document describes, before its stored values are looked at. -/
def replay (document : Document) : Traced Analysis := do
  let settings := document.limits.settings
  let graph ← document.graph
  let survey ← graph.survey settings
  return {
    graph := survey.graph
    order := survey.order
    overview := survey.overview
    dangling := document.dangling
    rejected := document.rejected.map RejectedEntry.toSymbol
    settings }

/-- The fields of a document that are out of date with an analysis. -/
def outdatedAgainst (document : Document) (analysis : Analysis) : List DerivedField :=
  match analysis.document with
  | .ok fresh => document.outdatedFields fresh
  | .bad _ => []

/-- Rebuild the analysis of a document. -/
def rebuild (document : Document) : Traced Analysis := do
  let analysis ← document.replay
  let stale := document.outdatedAgainst analysis
  Traced.note (if stale.isEmpty then [] else [.outOfDate (stale.map DerivedField.name)])
  return analysis

end Document

end DepAtlas
