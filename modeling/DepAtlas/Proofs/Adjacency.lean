import DepAtlas.Proofs.RoundTrip
import DepAtlas.Proofs.Soundness
import Mathlib.Algebra.BigOperators.Group.Finset.Basic
import Mathlib.Algebra.Order.BigOperators.Group.Finset

/-!
# What becomes of the references

A reference whose two ends are stored becomes an edge, and every other one is put aside with the
first of its ends that is missing.  Nothing is lost, made up or moved.

The lists of neighbours are read off the edges: a component depends on the targets of the edges that
leave it, each listed where it came up first, and the sources of the edges that lead to it depend on
it.  So dependencies and dependents are the same pairs of components, counted from either end.
-/

namespace DepAtlas

/-! ## Edges and dangling references -/

namespace Store

variable (store : Store)

theorem takes_eq : store.takes = fun reference =>
    decide (reference.source ∈ store.keys ∧ reference.target ∈ store.keys) := by
  funext reference
  rw [Bool.eq_iff_iff, takes_iff, decide_eq_true_iff]

/-- The missing end of a reference is its source, unless that is stored. -/
theorem dangling?_eq (reference : Reference) :
    store.dangling? reference =
      if reference.source ∈ store.keys ∧ reference.target ∈ store.keys then none
      else some ⟨reference,
        if reference.source ∈ store.keys then reference.target else reference.source⟩ := by
  have held (id : ComponentId) : store.contains id = decide (id ∈ store.keys) := by
    rw [Bool.eq_iff_iff, contains_iff, decide_eq_true_iff]
  rw [dangling?, missingEnd?, held, held]
  by_cases source : reference.source ∈ store.keys
  · by_cases target : reference.target ∈ store.keys <;> simp [source, target]
  · simp [source]

theorem filterMap_dangling? (references : List Reference) :
    references.filterMap store.dangling? =
      (references.filter fun reference =>
        ¬(reference.source ∈ store.keys ∧ reference.target ∈ store.keys)).map fun reference =>
          ⟨reference,
            if reference.source ∈ store.keys then reference.target else reference.source⟩ := by
  induction references with
  | nil => rfl
  | cons reference references ih =>
      by_cases stored : reference.source ∈ store.keys ∧ reference.target ∈ store.keys
      · have kept : store.dangling? reference = none := by rw [dangling?_eq, if_pos stored]
        rw [List.filterMap_cons_none kept, ih, List.filter_cons_of_neg (by simp [stored])]
      · have put := store.dangling?_eq reference
        rw [if_neg stored] at put
        rw [List.filterMap_cons_some put, ih, List.filter_cons, if_pos (decide_eq_true stored),
          List.map_cons]

end Store

/-! ## Neighbours -/

/-- What stands at the far ends of the edges whose near end is a component, each listed once. -/
def farEnds (near far : Reference → ComponentId) (edges : List Reference) (id : ComponentId) :
    List ComponentId :=
  ((edges.filter fun edge => near edge = id).map far).eraseDups

theorem mem_farEnds {near far : Reference → ComponentId} {edges : List Reference}
    {id target : ComponentId} :
    target ∈ farEnds near far edges id ↔ ∃ edge ∈ edges, near edge = id ∧ far edge = target := by
  simp [farEnds, and_assoc]

/-- The far ends of all near ends are as many as there are pairs of ends. -/
theorem sum_length_farEnds (near far : Reference → ComponentId) {edges : List Reference}
    {ids : List ComponentId} (nodup : ids.Nodup) (covered : ∀ edge ∈ edges, near edge ∈ ids) :
    (ids.map fun id => (farEnds near far edges id).length).sum =
      (edges.map fun edge => (near edge, far edge)).toFinset.card := by
  let pairs := (edges.map fun edge => (near edge, far edge)).toFinset
  have inside : Set.MapsTo Prod.fst (pairs : Set (ComponentId × ComponentId))
      (ids.toFinset : Set ComponentId) := by
    intro pair member
    obtain ⟨edge, listed, rfl⟩ := List.mem_map.1 (List.mem_toFinset.1 member)
    exact List.mem_toFinset.2 (covered edge listed)
  have fibre : ∀ id, (farEnds near far edges id).length =
      (pairs.filter fun pair => pair.1 = id).card := by
    intro id
    have image : (pairs.filter fun pair => pair.1 = id).image Prod.snd =
        (farEnds near far edges id).toFinset := by
      ext target
      simp only [pairs, farEnds, Finset.mem_image, Finset.mem_filter, List.mem_toFinset,
        List.mem_eraseDups, List.mem_map, List.mem_filter, decide_eq_true_eq]
      constructor
      · rintro ⟨_, ⟨⟨edge, listed, rfl⟩, same⟩, rfl⟩
        exact ⟨edge, ⟨listed, same⟩, rfl⟩
      · rintro ⟨edge, ⟨listed, same⟩, rfl⟩
        exact ⟨_, ⟨⟨edge, listed, rfl⟩, same⟩, rfl⟩
    have injective : Set.InjOn Prod.snd
        ((pairs.filter fun pair => pair.1 = id : Finset (ComponentId × ComponentId)) :
          Set (ComponentId × ComponentId)) := by
      intro first member second other same
      have firstId := (Finset.mem_filter.1 member).2
      have secondId := (Finset.mem_filter.1 other).2
      exact Prod.ext (firstId.trans secondId.symm) same
    have distinctEnds : (farEnds near far edges id).Nodup := by
      rw [farEnds, ← distinct_eq_eraseDups]
      exact nodup_distinct _
    rw [← List.toFinset_card_of_nodup distinctEnds, ← image, Finset.card_image_of_injOn injective]
  calc (ids.map fun id => (farEnds near far edges id).length).sum
      = ids.toFinset.sum fun id => (farEnds near far edges id).length :=
        (List.sum_toFinset _ nodup).symm
    _ = ids.toFinset.sum fun id => (pairs.filter fun pair => pair.1 = id).card :=
        Finset.sum_congr rfl fun id _ => fibre id
    _ = pairs.card := (Finset.card_eq_sum_card_fiberwise inside).symm

/-- It makes no difference from which end pairs are counted. -/
theorem card_pairs_swap (edges : List Reference) :
    (edges.map fun edge => (edge.target, edge.source)).toFinset.card =
      (edges.map fun edge => (edge.source, edge.target)).toFinset.card := by
  have swapped : (edges.map fun edge => (edge.target, edge.source)).toFinset =
      (edges.map fun edge => (edge.source, edge.target)).toFinset.image Prod.swap := by
    ext pair
    simp [Prod.ext_iff, and_comm]
  rw [swapped, Finset.card_image_of_injective _ Prod.swap_injective]

/-- A component that is entered without neighbours depends on what the edges that leave it lead to,
and is depended on by what the edges that lead to it leave. -/
theorem Component.neighbours_linked_bare (component : Component) (edges : List Reference) :
    (edges.foldl link component.bare).dependencies =
        farEnds (·.source) (·.target) edges component.id ∧
      (edges.foldl link component.bare).dependents =
        farEnds (·.target) (·.source) edges component.id := by
  rw [dependencies_linked, dependents_linked, farEnds, farEnds, ← distinct_eq_eraseDups,
    ← distinct_eq_eraseDups, distinct, distinct]
  simp only [@eq_comm _ component.bare.id]
  exact ⟨rfl, rfl⟩

theorem Analysis.Of.neighbours_eq {analysis : Analysis} {store : Store} {edges : List Reference}
    (made : analysis.Of store edges)
    (bare : ∀ component ∈ store.components, component.bare = component) {component : Component}
    (stored : component ∈ analysis.graph.store.components) :
    component.dependencies = farEnds (·.source) (·.target) edges component.id ∧
      component.dependents = farEnds (·.target) (·.source) edges component.id := by
  rw [made.graph_components] at stored
  obtain ⟨before, member, rfl⟩ := List.mem_map.1 stored
  have neighbours := before.neighbours_linked_bare edges
  rwa [bare before member, ← before.id_linked edges] at neighbours

/-- One component depends on another when an edge leads from the one to the other. -/
theorem Analysis.Of.dependsOn_iff {analysis : Analysis} {store : Store} {edges : List Reference}
    (made : analysis.Of store edges)
    (bare : ∀ component ∈ store.components, component.bare = component)
    {source target : ComponentId} :
    analysis.graph.store.DependsOn source target ↔
      ∃ edge ∈ edges, edge.source = source ∧ edge.target = target := by
  constructor
  · rintro ⟨component, found, member⟩
    obtain ⟨stored, rfl⟩ := Store.mem_of_get? found
    rw [(made.neighbours_eq bare stored).1] at member
    exact mem_farEnds.1 member
  · rintro ⟨edge, member, rfl, rfl⟩
    have known : edge.source ∈ analysis.graph.store.keys := by
      rw [made.graph_keys]
      exact (Store.takes_iff.1 (made.taken edge member)).1
    obtain ⟨component, found⟩ := Store.exists_get? known
    obtain ⟨stored, same⟩ := Store.mem_of_get? found
    rw [Store.dependsOn_iff found, (made.neighbours_eq bare stored).1, same]
    exact mem_farEnds.2 ⟨edge, member, rfl, rfl⟩

/-! ## Analyses -/

/-- What is known of the neighbours of all stored components is answered for each of them, and for
no other. -/
theorem Analysis.map_component? {analysis : Analysis} {neighbours : Component → List ComponentId}
    {expected : ComponentId → List ComponentId}
    (agree : ∀ component ∈ analysis.graph.store.components,
      neighbours component = expected component.id) (id : ComponentId) :
    (analysis.component? id).map neighbours =
      if id ∈ analysis.graph.store.keys then some (expected id) else none := by
  cases found : analysis.component? id with
  | none => rw [if_neg (Store.get?_eq_none_iff.1 found), Option.map_none]
  | some component =>
      obtain ⟨stored, same⟩ := Store.mem_of_get? found
      rw [if_pos (Store.mem_keys_of_get? found), Option.map_some, agree component stored, same]

/-- Lists of far ends are as long together as there are pairs of ends. -/
theorem Store.sum_length_neighbours {store : Store} {edges : List Reference}
    {near far : Reference → ComponentId} {neighbours : Component → List ComponentId}
    (nodup : store.keys.Nodup) (covered : ∀ edge ∈ edges, near edge ∈ store.keys)
    (agree : ∀ component ∈ store.components,
      neighbours component = farEnds near far edges component.id) :
    (store.components.map fun component => (neighbours component).length).sum =
      (edges.map fun edge => (near edge, far edge)).toFinset.card := by
  rw [← sum_length_farEnds near far nodup covered, Store.keys, List.map_map]
  apply congrArg List.sum
  apply List.map_congr_left
  intro component stored
  exact congrArg List.length (agree component stored)

/-- The edges of an analysis are the references whose ends are both stored, in order; the others are
put aside in order, each with its source as the missing end, or its target where the source is
stored.  A stored component depends on the targets of the edges that leave it, listed once where
they came up first, and likewise for what depends on it; nothing is known of other components.  All
dependencies together are as many as all dependents, namely the pairs that edges join. -/
theorem edges_and_neighbours_of_analyze {settings : Settings} {records : List Symbol}
    {references : List Reference} {analysis : Analysis}
    (returned : (analyze settings records references).outcome = .ok analysis) :
    analysis.graph.edges = references.filter (fun reference =>
        reference.source ∈ analysis.graph.store.keys ∧
          reference.target ∈ analysis.graph.store.keys) ∧
      analysis.dangling = (references.filter fun reference =>
        ¬(reference.source ∈ analysis.graph.store.keys ∧
          reference.target ∈ analysis.graph.store.keys)).map (fun reference =>
            ⟨reference, if reference.source ∈ analysis.graph.store.keys then reference.target
              else reference.source⟩) ∧
      (∀ id, analysis.dependencies? id = if id ∈ analysis.graph.store.keys then
        some (((analysis.graph.edges.filter fun edge => edge.source = id).map
          (·.target)).eraseDups) else none) ∧
      (∀ id, analysis.dependents? id = if id ∈ analysis.graph.store.keys then
        some (((analysis.graph.edges.filter fun edge => edge.target = id).map
          (·.source)).eraseDups) else none) ∧
      (analysis.graph.store.components.map (·.dependencies.length)).sum =
        (analysis.graph.edges.map fun edge => (edge.source, edge.target)).toFinset.card ∧
      (analysis.graph.store.components.map (·.dependents.length)).sum =
        (analysis.graph.edges.map fun edge => (edge.source, edge.target)).toFinset.card := by
  obtain ⟨store, loaded, made, dangling, _⟩ := of_analyze returned
  have bare := Store.bare_of_load loaded
  have keys := made.graph_keys
  have nodup : analysis.graph.store.keys.Nodup := by
    rw [keys]
    exact (Store.of_load loaded).2.keys_nodup
  have neighbours := @Analysis.Of.neighbours_eq _ _ _ made bare
  have ends : ∀ edge ∈ analysis.graph.edges, edge.source ∈ analysis.graph.store.keys ∧
      edge.target ∈ analysis.graph.store.keys := by
    intro edge member
    rw [made.graph_edges] at member
    rw [keys]
    exact Store.takes_iff.1 (made.taken edge member)
  rw [← made.graph_edges] at neighbours
  refine ⟨?_, ?_, ?_, ?_, ?_, ?_⟩
  · rw [made.graph_edges, Store.takes_eq, keys]
  · rw [dangling, Store.filterMap_dangling?, keys]
  · exact Analysis.map_component? fun component stored => (neighbours stored).1
  · exact Analysis.map_component? fun component stored => (neighbours stored).2
  · exact Store.sum_length_neighbours nodup (fun edge member => (ends edge member).1)
      fun component stored => (neighbours stored).1
  · rw [← card_pairs_swap]
    exact Store.sum_length_neighbours nodup (fun edge member => (ends edge member).2)
      fun component stored => (neighbours stored).2

/-- Two parallel edges and one from a component to itself, among references that miss one end or
the other or both. -/
theorem edges_and_neighbours_of_parallel :
    ∃ analysis, (analyze {}
        [{ id := "a", name := "a", file := "f", startLine := 1, endLine := 1 },
          { id := "b", name := "b", file := "f", startLine := 2, endLine := 2 }]
        [⟨"b", "b", .call⟩, ⟨"x", "b", .call⟩, ⟨"a", "b", .call⟩, ⟨"a", "y", .inheritance⟩,
          ⟨"a", "b", .importing⟩, ⟨"x", "y", .call⟩]).outcome = .ok analysis ∧
      analysis.graph.edges =
        [⟨"b", "b", .call⟩, ⟨"a", "b", .call⟩, ⟨"a", "b", .importing⟩] ∧
      analysis.dangling = [⟨⟨"x", "b", .call⟩, "x"⟩, ⟨⟨"a", "y", .inheritance⟩, "y"⟩,
        ⟨⟨"x", "y", .call⟩, "x"⟩] ∧
      analysis.dependencies? "a" = some ["b"] ∧ analysis.dependents? "a" = some [] ∧
      analysis.dependents? "b" = some ["b", "a"] ∧ analysis.dependencies? "x" = none ∧
      (analysis.graph.store.components.map (·.dependencies.length)).sum = 2 ∧
      (analysis.graph.store.components.map (·.dependents.length)).sum = 2 := by
  have evaluated : (analyze {}
      [{ id := "a", name := "a", file := "f", startLine := 1, endLine := 1 },
        { id := "b", name := "b", file := "f", startLine := 2, endLine := 2 }]
      [⟨"b", "b", .call⟩, ⟨"x", "b", .call⟩, ⟨"a", "b", .call⟩, ⟨"a", "y", .inheritance⟩,
        ⟨"a", "b", .importing⟩, ⟨"x", "y", .call⟩]).outcome.toOption.map
        (·.graph.store.keys) = some ["a", "b"] := by
    cbv
  obtain ⟨analysis, known, keys⟩ := Option.map_eq_some_iff.1 evaluated
  have returned := Traced.outcome_of_toOption known
  obtain ⟨edges, dangling, dependencies, dependents, forwards, backwards⟩ :=
    edges_and_neighbours_of_analyze returned
  rw [keys] at edges dangling
  rw [edges] at dependencies dependents forwards backwards
  rw [keys] at dependencies dependents
  refine ⟨analysis, returned, edges.trans ?_, dangling.trans ?_, (dependencies "a").trans ?_,
    (dependents "a").trans ?_, (dependents "b").trans ?_, (dependencies "x").trans ?_,
    forwards.trans ?_, backwards.trans ?_⟩ <;> decide

end DepAtlas
