import DepAtlas.Proofs.Adjacency
import DepAtlas.Proofs.FirstRecords
import DepAtlas.Proofs.Layering

/-!
# Parallel references

A reference may join two components that an earlier one joins already, by the same type of edge or
by another.  It is one more edge, but a neighbour that a component has is not listed again.

So the store is the same without it, and with the store the cycles, the order and whatever else is
computed from the components.  What is counted by edges is one less: all edges, and those that lead
from one layer to another.
-/

namespace DepAtlas

/-- Two references with the same ends. -/
def Reference.Parallel (reference other : Reference) : Prop :=
  reference.source = other.source ∧ reference.target = other.target

/-! ## Edges that add no neighbours -/

namespace Component

/-- An edge changes nothing of a component that knows the neighbours which it gives it. -/
theorem link_eq_self {component : Component} {edge : Reference}
    (dependency : component.id = edge.source → edge.target ∈ component.dependencies)
    (dependent : component.id = edge.target → edge.source ∈ component.dependents) :
    component.link edge = component := by
  have entered : (if component.id = edge.source then component.addDependency edge.target
      else component) = component := by
    split
    next leaves => rw [addDependency, addNew, if_pos (dependency leaves)]
    next => rfl
  simp only [link, entered]
  split
  next leads => rw [addDependent, addNew, if_pos (dependent leads)]
  next => rfl

variable {front back : List Reference} {earlier later : Reference}

theorem linked_parallel (component : Component) (known : earlier ∈ front)
    (parallel : earlier.Parallel later) :
    (front ++ later :: back).foldl link component = (front ++ back).foldl link component := by
  have same : (front.foldl link component).link later = front.foldl link component := by
    apply link_eq_self
    · intro leaves
      rw [id_linked, ← parallel.1] at leaves
      rw [dependencies_linked, mem_foldl_addNew, ← parallel.2]
      exact .inr (List.mem_map_of_mem (List.mem_filter.2 ⟨known, decide_eq_true leaves⟩))
    · intro leads
      rw [id_linked, ← parallel.2] at leads
      rw [dependents_linked, mem_foldl_addNew, ← parallel.1]
      exact .inr (List.mem_map_of_mem (List.mem_filter.2 ⟨known, decide_eq_true leads⟩))
  rw [List.foldl_append, List.foldl_cons, same, List.foldl_append]

end Component

/-- Without a parallel edge an analysis has the same components with the same neighbours. -/
theorem Analysis.Of.store_eq_of_parallel {analysis again : Analysis} {store : Store}
    {front back : List Reference} {earlier later : Reference}
    (made : analysis.Of store (front ++ later :: back)) (remade : again.Of store (front ++ back))
    (known : earlier ∈ front) (parallel : earlier.Parallel later) :
    analysis.graph.store = again.graph.store := by
  have linked : ∀ component : Component, (front ++ later :: back).foldl Component.link component =
      (front ++ back).foldl Component.link component :=
    fun component => component.linked_parallel known parallel
  rw [made.graph_eq, remade.graph_eq]
  simp only [linked]

/-! ## What is read off the store -/

namespace Analysis

/-- What two analyses with the same components have in common: everything but the edges, the layers'
descriptions and what was put aside. -/
structure SameStructure (analysis again : Analysis) : Prop where
  store : analysis.graph.store = again.graph.store
  cycles : analysis.graph.cycles = again.graph.cycles
  order : analysis.order = again.order
  totalFiles : analysis.overview.totalFiles = again.overview.totalFiles
  totalComponents : analysis.overview.totalComponents = again.overview.totalComponents
  entryPoints : analysis.overview.entryPoints = again.overview.entryPoints
  mostConnected : analysis.overview.mostConnected = again.overview.mostConnected
  hotspots : analysis.overview.hotspots = again.overview.hotspots
  complexFiles : analysis.overview.complexFiles = again.overview.complexFiles
  layerNames : analysis.overview.layers.map (·.name) = again.overview.layers.map (·.name)
  layerFiles : analysis.overview.layers.map (·.files) = again.overview.layers.map (·.files)
  rejected : analysis.rejected = again.rejected
  settings : analysis.settings = again.settings

end Analysis

/-- The layers of a graph, one for each name. -/
theorem Graph.IsLayering.eq_map {graph : Graph} {layers : List Layer}
    (layering : graph.IsLayering layers) :
    layers = graph.store.layerNames.map fun name =>
      ⟨name, graph.store.layerFiles name, Layer.summary (graph.componentsIn name)
        (graph.store.layerFiles name).length (graph.edgesOutOf name)⟩ := by
  rw [← layering.names, List.map_map]
  refine (List.map_id layers).symm.trans (List.map_congr_left ?_)
  intro layer member
  have files := layering.files layer member
  have description := layering.description layer member
  rw [files] at description
  cases layer
  simp only [id_eq, Function.comp_apply, Layer.mk.injEq, true_and]
  exact ⟨files, description⟩

/-- Analyses of the same components have the same structure, whatever their edges are. -/
theorem Origin.sameStructure {origin other : Origin} {analysis again : Analysis}
    (returned : origin.trace.outcome = .ok analysis)
    (returnedAgain : other.trace.outcome = .ok again)
    (store : analysis.graph.store = again.graph.store)
    (cycles : analysis.graph.cycles = again.graph.cycles)
    (rejected : analysis.rejected = again.rejected)
    (settings : analysis.settings = again.settings) : analysis.SameStructure again := by
  have overview := Origin.overview_eq returned
  have overviewAgain := Origin.overview_eq returnedAgain
  rw [store, settings] at overview
  have layers := (Origin.isLayering returned).eq_map
  have layersAgain := (Origin.isLayering returnedAgain).eq_map
  rw [store] at layers
  constructor
  case store => exact store
  case cycles => exact cycles
  case order =>
    have ordered := (Origin.sound returned).order
    rw [Graph.dependencyOrder, Graph.schedule, store] at ordered
    exact Except.ok.inj (ordered.symm.trans (Origin.sound returnedAgain).order)
  case layerNames => rw [layers, layersAgain, List.map_map, List.map_map]; rfl
  case layerFiles => rw [layers, layersAgain, List.map_map, List.map_map]; rfl
  case rejected => exact rejected
  case settings => exact settings
  all_goals rw [overview, overviewAgain]

/-! ## What is counted by edges -/

/-- Two layers that differ in nothing but the number of edges that lead out of them. -/
structure Layer.Exceeds (layer other : Layer) (more : Nat) : Prop where
  name : layer.name = other.name
  files : layer.files = other.files
  description : ∃ components files outgoing,
    layer.description = Layer.summary components files (outgoing + more) ∧
      other.description = Layer.summary components files outgoing

namespace Graph

variable {graph other : Graph} {front back : List Reference} {edge : Reference}

theorem edgesOutOf_of_insert (store : graph.store = other.store)
    (edges : graph.edges = front ++ edge :: back) (edgesOther : other.edges = front ++ back)
    (name : String) :
    graph.edgesOutOf name = other.edgesOutOf name +
      if layerOf graph.store edge.source = name ∧ graph.crosses edge = true then 1 else 0 := by
  have crosses : graph.crosses = other.crosses := by
    funext reference
    rw [Graph.crosses, Graph.crosses, store]
  rw [edgesOutOf, edgesOutOf, edges, edgesOther, crosses, store, List.countP_append,
    List.countP_append, List.countP_cons]
  simp only [Bool.and_eq_true, decide_eq_true_eq]
  omega

/-- Taking an edge away lowers the count of one layer, if the edge leads to another. -/
theorem IsLayering.exceeds {layers others : List Layer} (layering : graph.IsLayering layers)
    (layeringOther : other.IsLayering others) (store : graph.store = other.store)
    (edges : graph.edges = front ++ edge :: back) (edgesOther : other.edges = front ++ back) :
    List.Forall₂ (fun layer twin => layer.Exceeds twin
      (if layerOf graph.store edge.source = layer.name ∧ graph.crosses edge = true then 1 else 0))
        layers others := by
  have components : graph.componentsIn = other.componentsIn := by
    funext name
    rw [componentsIn, componentsIn, store]
  rw [layering.eq_map, layeringOther.eq_map, ← store, ← components, List.forall₂_map_left_iff,
    List.forall₂_map_right_iff, List.forall₂_same]
  intro name _
  have count := edgesOutOf_of_insert store edges edgesOther name
  exact ⟨rfl, rfl, _, _, _, by rw [count], rfl⟩

end Graph

/-! ## Analyses -/

namespace Analysis

/-- What an analysis loses with an edge that is parallel to another one: the edge itself, and a
count in the description of the layer that it leads out of. -/
structure LosesEdge (analysis again : Analysis) (edge : Reference) : Prop where
  edges : ∃ front back, analysis.graph.edges = front ++ edge :: back ∧
    again.graph.edges = front ++ back
  totalEdges : analysis.overview.totalEdges = again.overview.totalEdges + 1
  layers : List.Forall₂ (fun layer twin => layer.Exceeds twin
    (if Graph.layerOf analysis.graph.store edge.source = layer.name ∧
        analysis.graph.crosses edge = true then 1 else 0))
    analysis.overview.layers again.overview.layers
  dangling : analysis.dangling = again.dangling

/-- What an analysis loses with a reference to a component that is not stored: the entry that says
so. -/
def LosesDangling (analysis again : Analysis) (reference : Reference) : Prop :=
  ∃ front entry back, entry.reference = reference ∧
    analysis.dangling = front ++ entry :: back ∧
    again = { analysis with dangling := front ++ back }

end Analysis

/-- The search for cycles finds the same in the same components. -/
theorem Analysis.Of.cycles_eq_of_store {analysis again : Analysis} {store : Store}
    {edges others : List Reference} (made : analysis.Of store edges) (remade : again.Of store others)
    (wf : store.WellFormed) (same : analysis.graph.store = again.graph.store) :
    analysis.graph.cycles = again.graph.cycles := by
  have components : (Graph.ofEdges store edges).store.components =
      (Graph.ofEdges store others).store.components := by
    rw [← made.surveyed_components, ← remade.surveyed_components, same]
  have unique := (Graph.wellFormed_ofEdges wf made.taken).store.keys_nodup
  have found := Graph.findCycles_eq_of_perm (.of_eq components) unique
  exact Except.ok.inj (made.surveyed.found.symm.trans (found.trans remade.surveyed.found))

theorem Origin.losesEdge {origin other : Origin} {analysis again : Analysis}
    {front back : List Reference} {edge : Reference}
    (returned : origin.trace.outcome = .ok analysis)
    (returnedAgain : other.trace.outcome = .ok again)
    (store : analysis.graph.store = again.graph.store)
    (edges : analysis.graph.edges = front ++ edge :: back)
    (edgesAgain : again.graph.edges = front ++ back) (dangling : analysis.dangling = again.dangling) :
    analysis.LosesEdge again edge := by
  have layering := Origin.isLayering returned
  refine ⟨⟨front, back, edges, edgesAgain⟩, ?_,
    layering.exceeds (Origin.isLayering returnedAgain) store edges edgesAgain, dangling⟩
  rw [Origin.overview_eq returned, Origin.overview_eq returnedAgain, edges, edgesAgain]
  simp only [List.length_append, List.length_cons]
  omega

/-- Of the same edges there is one analysis, but for what was put aside. -/
theorem Analysis.Of.eq_withDangling {analysis again : Analysis} {store : Store}
    {edges : List Reference} (made : analysis.Of store edges) (remade : again.Of store edges)
    (rejected : analysis.rejected = again.rejected)
    (settings : analysis.settings = again.settings) :
    again = { analysis with dangling := again.dangling } := by
  obtain ⟨graph, order, overview⟩ := made.unique remade (congrArg Settings.limits settings)
  rw [graph, order, overview, rejected, settings]

/-- A reference may be taken away that is parallel to an earlier one.  The analysis then ends with
the same fault, or it succeeds again and has the same structure: components with their neighbours in
order, cycles, processing order, entry points, rankings, files and layers.  If both ends are stored,
there is one edge less, which is counted among all edges and, if it leads from a layer to another,
among those that lead out of the first.  Otherwise one entry of the dangling references is gone and
nothing else. -/
theorem analyze_of_parallel (settings : Settings) (records : List Symbol)
    {before after : List Reference} {later : Reference}
    (repeated : ∃ earlier ∈ before, earlier.Parallel later) :
    (∃ fault, (analyze settings records (before ++ later :: after)).outcome = .error fault ∧
      (analyze settings records (before ++ after)).outcome = .error fault) ∨
    ∃ analysis again,
      (analyze settings records (before ++ later :: after)).outcome = .ok analysis ∧
      (analyze settings records (before ++ after)).outcome = .ok again ∧
      analysis.SameStructure again ∧
      (later.source ∈ analysis.graph.store.keys ∧ later.target ∈ analysis.graph.store.keys →
        analysis.LosesEdge again later) ∧
      (¬(later.source ∈ analysis.graph.store.keys ∧ later.target ∈ analysis.graph.store.keys) →
        analysis.LosesDangling again later) := by
  cases loaded : (Store.load records).outcome with
  | error fault =>
      exact .inl ⟨fault, analyze_of_load_error settings _ loaded,
        analyze_of_load_error settings _ loaded⟩
  | ok store =>
      obtain ⟨earlier, known, parallel⟩ := repeated
      obtain ⟨analysis, returned, made, dangling, rejects, set⟩ :=
        analyze_of_load settings (before ++ later :: after) loaded
      obtain ⟨again, returnedAgain, remade, danglingAgain, rejectsAgain, setAgain⟩ :=
        analyze_of_load settings (before ++ after) loaded
      have rejected : analysis.rejected = again.rejected := rejects.trans rejectsAgain.symm
      have sameSettings : analysis.settings = again.settings := set.trans setAgain.symm
      rw [List.filter_append] at made remade
      rw [List.filterMap_append] at dangling danglingAgain
      refine .inr ⟨analysis, again, returned, returnedAgain, ?_⟩
      rw [made.graph_keys]
      by_cases stored : later.source ∈ store.keys ∧ later.target ∈ store.keys
      · have kept : store.takes later = true := Store.takes_iff.2 stored
        have keptEarlier : store.takes earlier = true := by
          rw [Store.takes_iff, parallel.1, parallel.2]
          exact stored
        have nothing : store.dangling? later = none := by
          rw [Store.dangling?_eq, if_pos stored]
        rw [List.filter_cons_of_pos kept] at made
        rw [List.filterMap_cons_none nothing, ← danglingAgain] at dangling
        have sameStore := made.store_eq_of_parallel remade
          (List.mem_filter.2 ⟨known, keptEarlier⟩) parallel
        have cycles := made.cycles_eq_of_store remade (Store.of_load loaded).2 sameStore
        have same := @Origin.sameStructure (.analyzed _ _ _) (.analyzed _ _ _) _ _ returned
          returnedAgain sameStore cycles rejected sameSettings
        have less := @Origin.losesEdge (.analyzed _ _ _) (.analyzed _ _ _) _ _ _ _ _ returned
          returnedAgain sameStore made.graph_edges remade.graph_edges dangling
        exact ⟨same, fun _ => less, fun missing => absurd stored missing⟩
      · have dropped : ¬store.takes later = true := fun kept => stored (Store.takes_iff.1 kept)
        have put := store.dangling?_eq later
        rw [if_neg stored] at put
        rw [List.filter_cons_of_neg dropped] at made
        rw [List.filterMap_cons_some put] at dangling
        have rest := made.eq_withDangling remade rejected sameSettings
        have same : analysis.SameStructure again := by
          constructor <;> rw [rest]
        exact ⟨same, fun held => absurd held stored,
          fun _ => ⟨_, _, _, rfl, dangling, by rw [rest, danglingAgain]⟩⟩

/-- Two references from one layer to another and two to a component that is missing, each pair with
different types. -/
theorem analyze_of_parallel_crossing :
    ∃ records analysis again third,
      records = [{ id := "a", name := "a", file := "s/f", startLine := 1, endLine := 1 },
        { id := "b", name := "b", file := "t/f", startLine := 1, endLine := 1 }] ∧
      (analyze {} records [⟨"a", "b", .call⟩, ⟨"a", "x", .call⟩, ⟨"a", "b", .importing⟩,
        ⟨"a", "x", .importing⟩]).outcome = .ok analysis ∧
      (analyze {} records [⟨"a", "b", .call⟩, ⟨"a", "x", .call⟩,
        ⟨"a", "x", .importing⟩]).outcome = .ok again ∧
      (analyze {} records [⟨"a", "b", .call⟩, ⟨"a", "x", .call⟩,
        ⟨"a", "b", .importing⟩]).outcome = .ok third ∧
      analysis.overview.layers =
        [⟨"s", ["s/f"], Layer.summary 1 1 2⟩, ⟨"t", ["t/f"], Layer.summary 1 1 0⟩] ∧
      again.overview.layers =
        [⟨"s", ["s/f"], Layer.summary 1 1 1⟩, ⟨"t", ["t/f"], Layer.summary 1 1 0⟩] ∧
      analysis.SameStructure again ∧ analysis.LosesEdge again ⟨"a", "b", .importing⟩ ∧
      analysis.SameStructure third ∧ analysis.LosesDangling third ⟨"a", "x", .importing⟩ := by
  let records : List Symbol :=
    [{ id := "a", name := "a", file := "s/f", startLine := 1, endLine := 1 },
      { id := "b", name := "b", file := "t/f", startLine := 1, endLine := 1 }]
  have before : (analyze {} records [⟨"a", "b", .call⟩, ⟨"a", "x", .call⟩, ⟨"a", "b", .importing⟩,
      ⟨"a", "x", .importing⟩]).outcome.toOption.map (fun analysis =>
        (analysis.graph.store.keys, analysis.overview.layers)) =
      some (["a", "b"],
        [⟨"s", ["s/f"], Layer.summary 1 1 2⟩, ⟨"t", ["t/f"], Layer.summary 1 1 0⟩]) := by
    cbv
  have after : (analyze {} records [⟨"a", "b", .call⟩, ⟨"a", "x", .call⟩,
      ⟨"a", "x", .importing⟩]).outcome.toOption.map (·.overview.layers) =
      some [⟨"s", ["s/f"], Layer.summary 1 1 1⟩, ⟨"t", ["t/f"], Layer.summary 1 1 0⟩] := by
    cbv
  have repeatedEdge : ∃ earlier ∈ ([⟨"a", "b", .call⟩, ⟨"a", "x", .call⟩] : List Reference),
      earlier.Parallel ⟨"a", "b", .importing⟩ :=
    ⟨⟨"a", "b", .call⟩, by simp, rfl, rfl⟩
  have repeatedDangling : ∃ earlier ∈ ([⟨"a", "b", .call⟩, ⟨"a", "x", .call⟩,
      ⟨"a", "b", .importing⟩] : List Reference), earlier.Parallel ⟨"a", "x", .importing⟩ :=
    ⟨⟨"a", "x", .call⟩, by simp, rfl, rfl⟩
  obtain ⟨fault, failed, _⟩ | ⟨analysis, again, returned, returnedAgain, same, edge, _⟩ :=
    @analyze_of_parallel {} records _ [⟨"a", "x", .importing⟩] _ repeatedEdge
  · rw [List.cons_append, List.cons_append, List.nil_append] at failed
    rw [failed] at before
    cases before
  obtain ⟨fault, failed, _⟩ | ⟨whole, third, returnedWhole, returnedThird, sameThird, _, dangling⟩ :=
    @analyze_of_parallel {} records _ [] _ repeatedDangling
  · exact absurd (returned.symm.trans failed) (by simp)
  obtain rfl : analysis = whole := Except.ok.inj (returned.symm.trans returnedWhole)
  rw [List.cons_append, List.cons_append, List.nil_append] at returned returnedAgain
  rw [returned] at before
  rw [returnedAgain] at after
  obtain ⟨keys, layers⟩ := Prod.mk.inj (Option.some.inj before)
  simp only [keys] at edge dangling
  exact ⟨records, analysis, again, third, rfl, returned, returnedAgain, returnedThird, layers,
    Option.some.inj after, same, edge (by simp), sameThird, dangling (by simp)⟩

end DepAtlas
