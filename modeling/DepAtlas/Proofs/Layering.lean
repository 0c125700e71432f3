import DepAtlas.Proofs.Soundness
import Mathlib.Data.Multiset.Count

/-!
# How layers divide a code base

The layers of a graph are the fibres of one function: a component belongs to the layer of its file.
So every file stands in one layer, and what the layers count adds up to the totals, each computed
without the others.  An edge between two layers is counted where it starts.

The main statement is about the layers of every analysis, and about the counts that their
descriptions are written with.
-/

namespace DepAtlas

/-! ## What a description says -/

/-- A number in front of a blank can be read off. -/
theorem toDigits_append_blank_inj {number other : Nat} {rest others : List Char} :
    Nat.toDigits 10 number ++ ' ' :: rest = Nat.toDigits 10 other ++ ' ' :: others ↔
      number = other ∧ rest = others := by
  have digits : ∀ (n : Nat) (later : List Char),
      (Nat.toDigits 10 n ++ ' ' :: later).takeWhile Char.isDigit = Nat.toDigits 10 n := by
    intro n later
    have all : ∀ c ∈ Nat.toDigits 10 n, c.isDigit = true := fun c member =>
      Nat.isDigit_of_mem_toDigits (by decide) (by decide) member
    rw [List.takeWhile_append_of_pos all, List.takeWhile_cons_of_neg (by decide), List.append_nil]
  constructor
  · intro same
    have front := congrArg (List.takeWhile Char.isDigit) same
    rw [digits, digits] at front
    rw [front] at same
    have number_eq := congrArg (Nat.ofDigitChars 10 · 0) front
    simp only [Nat.ofDigitChars_ten_toDigits] at number_eq
    exact ⟨number_eq, List.tail_eq_of_cons_eq (List.append_cancel_left same)⟩
  · rintro ⟨rfl, rfl⟩
    rfl

theorem Layer.toList_summary (components files outgoing : Nat) :
    (Layer.summary components files outgoing).toList =
      Nat.toDigits 10 components ++ ' ' :: ("component(s) in ".toList ++
        (Nat.toDigits 10 files ++ ' ' :: ("file(s), ".toList ++
          (Nat.toDigits 10 outgoing ++ ' ' :: "outgoing cross-layer edge(s)".toList)))) := by
  simp only [Layer.summary, String.toList_append, Nat.toString_eq_repr, Nat.toList_repr,
    List.append_assoc]
  rfl

/-- A description determines its three numbers. -/
theorem Layer.summary_inj {components files outgoing components' files' outgoing' : Nat} :
    Layer.summary components files outgoing = Layer.summary components' files' outgoing' ↔
      components = components' ∧ files = files' ∧ outgoing = outgoing' := by
  rw [← String.toList_inj, Layer.toList_summary, Layer.toList_summary, toDigits_append_blank_inj,
    List.append_cancel_left_eq, toDigits_append_blank_inj, List.append_cancel_left_eq,
    toDigits_append_blank_inj]
  simp only [and_true]

/-! ## Counting by layers -/

/-- Items that are counted group by group are all counted, and each of them once. -/
theorem sum_countP_groups {α : Type} {names : List String} (nodup : names.Nodup)
    (group : α → String) {items : List α} (covered : ∀ item ∈ items, group item ∈ names) :
    (names.map fun name => items.countP fun item => group item = name).sum = items.length := by
  have counts : ∀ name, (items.countP fun item => group item = name) =
      Multiset.count name (items.map group : List String) := by
    intro name
    rw [Multiset.coe_count, List.count_eq_countP, List.countP_map]
    rfl
  have inside : ∀ name ∈ (items.map group : Multiset String), name ∈ names.toFinset := by
    intro name member
    obtain ⟨item, listed, rfl⟩ := List.mem_map.1 (Multiset.mem_coe.1 member)
    exact List.mem_toFinset.2 (covered item listed)
  simp only [counts]
  rw [← List.sum_toFinset _ nodup, Multiset.sum_count_eq_card inside, Multiset.coe_card,
    List.length_map]

namespace Store

variable {store : Store}

theorem mem_layerNames {name : String} :
    name ∈ store.layerNames ↔ ∃ component ∈ store.components, fileLayer component.file = name := by
  simp [layerNames, Component.layer]

theorem mem_files {file : String} :
    file ∈ store.files ↔ ∃ component ∈ store.components, component.file = file := by
  simp [files]

theorem mem_layerFiles {name file : String} :
    file ∈ store.layerFiles name ↔ fileLayer file = name ∧ file ∈ store.files := by
  simp only [layerFiles, layerComponents, mem_ascending, mem_distinct, List.mem_map, mem_files]
  constructor
  · rintro ⟨component, member, rfl⟩
    obtain ⟨stored, inLayer⟩ := List.mem_filter.1 member
    exact ⟨of_decide_eq_true inLayer, component, stored, rfl⟩
  · rintro ⟨inLayer, component, stored, rfl⟩
    exact ⟨component, List.mem_filter.2 ⟨stored, decide_eq_true inLayer⟩, rfl⟩

theorem layerFiles_strict (store : Store) (name : String) :
    (store.layerFiles name).Pairwise (· < ·) :=
  ascending_strict (nodup_distinct _)

theorem layerNames_strict (store : Store) : store.layerNames.Pairwise (· < ·) :=
  ascending_strict (nodup_distinct _)

theorem length_layerFiles (name : String) :
    (store.layerFiles name).length = store.files.countP fun file => fileLayer file = name := by
  have perm : (store.layerFiles name).Perm
      (store.files.filter fun file => fileLayer file = name) := by
    apply (List.perm_ext_iff_of_nodup (nodup_of_strict (store.layerFiles_strict name))
      ((nodup_distinct _).filter _)).2
    intro file
    rw [mem_layerFiles, List.mem_filter, decide_eq_true_eq, and_comm]
    rfl
  rw [perm.length_eq, List.countP_eq_length_filter]

end Store

namespace Graph

/-- The number of components of a layer. -/
def componentsIn (graph : Graph) (name : String) : Nat :=
  graph.store.components.countP fun component => fileLayer component.file = name

/-- Whether an edge leads from one layer to another. -/
def crosses (graph : Graph) (edge : Reference) : Bool :=
  layerOf graph.store edge.source != layerOf graph.store edge.target

/-- The number of edges that lead from a layer to another; parallel edges all count. -/
def edgesOutOf (graph : Graph) (name : String) : Nat :=
  graph.edges.countP fun edge => layerOf graph.store edge.source = name && graph.crosses edge

variable {graph : Graph}

theorem layerOf_of_get? {store : Store} {id : ComponentId} {component : Component}
    (found : store.get? id = some component) : layerOf store id = fileLayer component.file := by
  rw [layerOf, found]
  rfl

theorem outgoing_crossings (graph : Graph) (name : String) :
    outgoing graph.crossings name = graph.edgesOutOf name := by
  rw [outgoing, crossings, List.countP_map, edgesOutOf]
  apply List.countP_congr
  intro edge _
  simp only [Function.comp_apply, crosses]

/-- What the layers of a graph are. -/
structure IsLayering (graph : Graph) (layers : List Layer) : Prop where
  names : layers.map (·.name) = graph.store.layerNames
  files : ∀ layer ∈ layers, layer.files = graph.store.layerFiles layer.name
  description : ∀ layer ∈ layers, layer.description = Layer.summary
    (graph.componentsIn layer.name) layer.files.length (graph.edgesOutOf layer.name)

theorem WellFormed.isLayering (wf : graph.WellFormed) {settings : Settings} {overview : Overview}
    (drawn : graph.overview settings = .ok overview) : graph.IsLayering overview.layers := by
  rw [Graph.overview, wf.layers] at drawn
  cases drawn
  constructor
  case names => simp [Function.comp_def]
  case files =>
    intro layer member
    obtain ⟨name, _, rfl⟩ := List.mem_map.1 member
    rfl
  case description =>
    intro layer member
    obtain ⟨name, _, rfl⟩ := List.mem_map.1 member
    have components : (graph.store.layerComponents name).length = graph.componentsIn name :=
      List.countP_eq_length_filter.symm
    simp only [components, outgoing_crossings]

namespace IsLayering

variable {layers : List Layer} (layering : graph.IsLayering layers)

include layering

theorem names_strict : (layers.map (·.name)).Pairwise (· < ·) := by
  rw [layering.names]
  exact graph.store.layerNames_strict

theorem mem_files_iff {layer : Layer} (member : layer ∈ layers) {file : String} :
    file ∈ layer.files ↔ fileLayer file = layer.name ∧
      ∃ component ∈ graph.store.components, component.file = file := by
  rw [layering.files layer member, Store.mem_layerFiles, Store.mem_files]

theorem files_strict {layer : Layer} (member : layer ∈ layers) :
    layer.files.Pairwise (· < ·) := by
  rw [layering.files layer member]
  exact graph.store.layerFiles_strict layer.name

theorem files_ne_nil {layer : Layer} (member : layer ∈ layers) : layer.files ≠ [] := by
  have named : layer.name ∈ graph.store.layerNames := by
    rw [← layering.names]
    exact List.mem_map_of_mem member
  obtain ⟨component, stored, inLayer⟩ := Store.mem_layerNames.1 named
  exact List.ne_nil_of_mem ((layering.mem_files_iff member).2 ⟨inLayer, component, stored, rfl⟩)

/-- Names are unique among layers. -/
theorem eq_of_name_eq {layer other : Layer} (member : layer ∈ layers) (listed : other ∈ layers)
    (same : layer.name = other.name) : layer = other :=
  List.inj_on_of_nodup_map (nodup_of_strict layering.names_strict) member listed same

theorem existsUnique_layer {component : Component} (stored : component ∈ graph.store.components) :
    ∃! layer, layer ∈ layers ∧ component.file ∈ layer.files := by
  have named : fileLayer component.file ∈ layers.map (·.name) := by
    rw [layering.names]
    exact Store.mem_layerNames.2 ⟨component, stored, rfl⟩
  obtain ⟨layer, member, same⟩ := List.mem_map.1 named
  have inside := (layering.mem_files_iff member).2 ⟨same.symm, component, stored, rfl⟩
  refine ⟨layer, ⟨member, inside⟩, ?_⟩
  rintro other ⟨listed, within⟩
  have layerOfFile := ((layering.mem_files_iff listed).1 within).1
  exact layering.eq_of_name_eq listed member (layerOfFile.symm.trans same.symm)

theorem description_iff {layer : Layer} (member : layer ∈ layers)
    {components files outgoing : Nat} :
    layer.description = Layer.summary components files outgoing ↔
      components = graph.componentsIn layer.name ∧ files = layer.files.length ∧
        outgoing = graph.edgesOutOf layer.name := by
  rw [layering.description layer member, Layer.summary_inj]
  simp only [eq_comm]

/-- What is counted layer by layer is counted by the names of the layers. -/
theorem sum_groups {α : Type} (group : α → String) {items : List α}
    (covered : ∀ item ∈ items, ∃ component ∈ graph.store.components,
      fileLayer component.file = group item) :
    (layers.map fun layer => items.countP fun item => group item = layer.name).sum =
      items.length := by
  have names := layering.names
  rw [← sum_countP_groups (nodup_of_strict graph.store.layerNames_strict) group
    fun item member => Store.mem_layerNames.2 (covered item member), ← names, List.map_map]
  rfl

theorem sum_components :
    (layers.map fun layer => graph.componentsIn layer.name).sum = graph.store.size := by
  simp only [componentsIn]
  apply layering.sum_groups
  intro component stored
  exact ⟨component, stored, rfl⟩

theorem sum_files :
    (layers.map fun layer => layer.files.length).sum = graph.store.files.length := by
  have lengths : ∀ layer ∈ layers, layer.files.length =
      graph.store.files.countP fun file => fileLayer file = layer.name := by
    intro layer member
    rw [layering.files layer member, Store.length_layerFiles]
  rw [List.map_congr_left lengths]
  apply layering.sum_groups fileLayer
  intro file member
  obtain ⟨component, stored, rfl⟩ := Store.mem_files.1 member
  exact ⟨component, stored, rfl⟩

theorem sum_edges (wf : graph.WellFormed) :
    (layers.map fun layer => graph.edgesOutOf layer.name).sum =
      graph.edges.countP graph.crosses := by
  have counts : ∀ layer ∈ layers, graph.edgesOutOf layer.name =
      (graph.edges.filter graph.crosses).countP fun edge =>
        layerOf graph.store edge.source = layer.name := by
    intro layer _
    rw [List.countP_filter, edgesOutOf]
  rw [List.map_congr_left counts, List.countP_eq_length_filter]
  apply layering.sum_groups
  intro edge member
  obtain ⟨component, found, _⟩ := wf.edges edge (List.mem_filter.1 member).1
  exact ⟨component, (Store.mem_of_get? found).1, (layerOf_of_get? found).symm⟩

end IsLayering

end Graph

/-! ## The layers of an analysis -/

theorem Origin.isLayering {origin : Origin} {analysis : Analysis}
    (returned : origin.trace.outcome = .ok analysis) :
    analysis.graph.IsLayering analysis.overview.layers :=
  (Origin.sound returned).wellFormed.isLayering (Origin.drawn returned)

/-- The layers of every analysis divide its code base.  Their names ascend, and so do the files of
each, of which there is at least one; every file of a component is listed in one layer, the one that
it belongs to.  The numbers in a description are those of its components, its files and the edges
that lead from it to another layer.  They add up: to all components, to all files, and to all edges
between different layers. -/
theorem layers_partition {origin : Origin} {analysis : Analysis}
    (returned : origin.trace.outcome = .ok analysis) :
    (analysis.overview.layers.map (·.name)).Pairwise (· < ·) ∧
      (∀ layer ∈ analysis.overview.layers, layer.files.Pairwise (· < ·) ∧ layer.files ≠ []) ∧
      (∀ component ∈ analysis.graph.store.components, ∃! layer,
        layer ∈ analysis.overview.layers ∧ component.file ∈ layer.files) ∧
      (∀ layer ∈ analysis.overview.layers, ∀ file, file ∈ layer.files ↔
        fileLayer file = layer.name ∧
          ∃ component ∈ analysis.graph.store.components, component.file = file) ∧
      (∀ layer ∈ analysis.overview.layers, ∀ components files outgoing,
        layer.description = Layer.summary components files outgoing ↔
          components = analysis.graph.componentsIn layer.name ∧ files = layer.files.length ∧
            outgoing = analysis.graph.edgesOutOf layer.name) ∧
      (analysis.overview.layers.map fun layer => analysis.graph.componentsIn layer.name).sum =
        analysis.overview.totalComponents ∧
      (analysis.overview.layers.map fun layer => layer.files.length).sum =
        analysis.overview.totalFiles ∧
      (analysis.overview.layers.map fun layer => analysis.graph.edgesOutOf layer.name).sum =
        analysis.graph.edges.countP analysis.graph.crosses := by
  have layering := Origin.isLayering returned
  have overview := Origin.overview_eq returned
  refine ⟨layering.names_strict, ?_, ?_, ?_, ?_, ?_, ?_, ?_⟩
  · intro layer member
    exact ⟨layering.files_strict member, layering.files_ne_nil member⟩
  · intro component stored
    exact layering.existsUnique_layer stored
  · intro layer member file
    exact layering.mem_files_iff member
  · intro layer member components files outgoing
    exact layering.description_iff member
  · rw [overview]
    exact layering.sum_components
  · rw [overview]
    exact layering.sum_files
  · exact layering.sum_edges (Origin.sound returned).wellFormed

/-- Two parallel edges from one directory to another, one back, one inside, and one from a file at
the top level. -/
theorem layers_partition_parallel :
    ∃ analysis, (Origin.analyzed {}
        [{ id := "a", name := "a", file := "s/f", startLine := 1, endLine := 1 },
          { id := "b", name := "b", file := "s/f", startLine := 2, endLine := 2 },
          { id := "c", name := "c", file := "/s//g", startLine := 1, endLine := 1 },
          { id := "d", name := "d", file := "l/h", startLine := 1, endLine := 1 },
          { id := "m", name := "m", file := "./m", startLine := 1, endLine := 1 }]
        [⟨"a", "d", .call⟩, ⟨"a", "d", .importing⟩, ⟨"a", "c", .call⟩, ⟨"d", "b", .call⟩,
          ⟨"m", "a", .call⟩]).trace.outcome = .ok analysis ∧
      (∃ layer ∈ analysis.overview.layers, layer.name = "s" ∧ layer.files = ["/s/g", "s/f"] ∧
        layer.description = Layer.summary 3 2 2) ∧
      analysis.overview.totalComponents = 5 ∧ analysis.overview.totalFiles = 4 ∧
      analysis.graph.edges.countP analysis.graph.crosses = 4 := by
  have evaluated : (Origin.analyzed {}
      [{ id := "a", name := "a", file := "s/f", startLine := 1, endLine := 1 },
        { id := "b", name := "b", file := "s/f", startLine := 2, endLine := 2 },
        { id := "c", name := "c", file := "/s//g", startLine := 1, endLine := 1 },
        { id := "d", name := "d", file := "l/h", startLine := 1, endLine := 1 },
        { id := "m", name := "m", file := "./m", startLine := 1, endLine := 1 }]
      [⟨"a", "d", .call⟩, ⟨"a", "d", .importing⟩, ⟨"a", "c", .call⟩, ⟨"d", "b", .call⟩,
        ⟨"m", "a", .call⟩]).trace.outcome.toOption.map (fun analysis =>
          analysis.overview.layers.map fun layer => (layer.name, layer.files,
            analysis.graph.componentsIn layer.name, analysis.graph.edgesOutOf layer.name)) =
      some [("l", ["l/h"], 1, 1), ("root", ["m"], 1, 1), ("s", ["/s/g", "s/f"], 3, 2)] := by
    cbv
  obtain ⟨analysis, known, entries⟩ := Option.map_eq_some_iff.1 evaluated
  have returned := Traced.outcome_of_toOption known
  obtain ⟨_, _, _, _, described, components, files, edges⟩ := layers_partition returned
  refine ⟨analysis, returned, ?_, ?_, ?_, ?_⟩
  · have last : ("s", ["/s/g", "s/f"], 3, 2) ∈ analysis.overview.layers.map fun layer =>
        (layer.name, layer.files, analysis.graph.componentsIn layer.name,
          analysis.graph.edgesOutOf layer.name) := by
      rw [entries]
      simp
    obtain ⟨layer, member, same⟩ := List.mem_map.1 last
    simp only [Prod.mk.injEq] at same
    obtain ⟨name, listed, stored, leaving⟩ := same
    have length : 2 = layer.files.length := by rw [listed]; rfl
    exact ⟨layer, member, name, listed,
      (described layer member 3 2 2).2 ⟨stored.symm, length, leaving.symm⟩⟩
  · have counts := congrArg (fun listed => (listed.map fun entry => entry.2.2.1).sum) entries
    rw [List.map_map] at counts
    exact components.symm.trans counts
  · have counts := congrArg (fun listed => (listed.map fun entry => entry.2.1.length).sum) entries
    rw [List.map_map] at counts
    exact files.symm.trans counts
  · have counts := congrArg (fun listed => (listed.map fun entry => entry.2.2.2).sum) entries
    rw [List.map_map] at counts
    exact edges.symm.trans counts

end DepAtlas
