import DepAtlas.Proofs.WellFormed

/-!
# How graphs come about

The operations on a graph and its store, and what holds after any number of them: whatever
was inserted, linked, built or sealed, and whichever operations failed, the graph is
well-formed.

On an open store, building enters the references with stored ends as edges and puts the
others aside; on a sealed one it enters nothing.
-/

namespace DepAtlas

namespace Store

/-- Whether both ends of a reference are stored. -/
def takes (store : Store) (reference : Reference) : Bool :=
  (store.missingEnd? reference).isNone

/-- A reference with an end that is not stored, as it is put aside. -/
def dangling? (store : Store) (reference : Reference) : Option DanglingReference :=
  (store.missingEnd? reference).map fun id => ⟨reference, id⟩

theorem takes_iff {store : Store} {reference : Reference} :
    store.takes reference = true ↔
      reference.source ∈ store.keys ∧ reference.target ∈ store.keys := by
  rw [takes, Option.isNone_iff_eq_none, missingEnd?_eq_none_iff]

section SameKeys

variable {store other : Store} (same : store.keys.Perm other.keys)

include same

theorem missingEnd?_congr : store.missingEnd? = other.missingEnd? := by
  have contains_eq (id : ComponentId) : store.contains id = other.contains id := by
    rw [Bool.eq_iff_iff, contains_iff, contains_iff, same.mem_iff]
  funext reference
  simp only [missingEnd?, contains_eq]

theorem takes_congr : store.takes = other.takes := by
  funext reference
  rw [takes, takes, missingEnd?_congr same]

theorem dangling?_congr : store.dangling? = other.dangling? := by
  funext reference
  rw [dangling?, dangling?, missingEnd?_congr same]

end SameKeys

end Store

namespace Graph

/-- Enter edges one after the other. -/
def linked (graph : Graph) (edges : List Reference) : Graph :=
  { graph with
    store := edges.foldl Store.link graph.store
    edges := graph.edges ++ edges }

theorem linked_nil (graph : Graph) : graph.linked [] = graph := by
  simp [linked]

theorem linked_cons (graph : Graph) (edge : Reference) (edges : List Reference) :
    graph.linked (edge :: edges) = (graph.linked [edge]).linked edges := by
  simp [linked]

theorem keys_linked_singleton (graph : Graph) (edge : Reference) :
    (graph.linked [edge]).store.keys.Perm graph.store.keys :=
  .of_eq (Store.keys_link graph.store edge)

/-- Linking changes every component by itself, and nothing else in the store. -/
theorem store_linked (graph : Graph) (edges : List Reference) :
    (graph.linked edges).store = { graph.store with
      components := graph.store.components.map fun component =>
        edges.foldl Component.link component } := by
  induction edges generalizing graph with
  | nil => simp [linked_nil]
  | cons edge edges ih =>
      have first : (graph.linked [edge]).store = { graph.store with
          components := graph.store.components.map fun component => component.link edge } := by
        rw [← Store.components_link]
        rfl
      rw [linked_cons, ih, first]
      simp [Function.comp_def]

theorem isSealed_linked (graph : Graph) (edges : List Reference) :
    (graph.linked edges).store.isSealed = graph.store.isSealed := by
  rw [store_linked]

theorem rejected_linked (graph : Graph) (edges : List Reference) :
    (graph.linked edges).store.rejected = graph.store.rejected := by
  rw [store_linked]

/-- The ways in which adding an edge can go. -/
inductive InsertEdgeStep (graph : Graph) (edge : Reference) :
    Graph × Except Fault Unit → Prop where
  | sealed (closed : graph.store.isSealed = true) :
      InsertEdgeStep graph edge (graph, .error .graphSealed)
  | missing (id : ComponentId) (opened : graph.store.isSealed = false)
      (absent : graph.store.missingEnd? edge = some id) :
      InsertEdgeStep graph edge (graph, .error (.unknownEndpoint id))
  | linked (opened : graph.store.isSealed = false)
      (present : graph.store.missingEnd? edge = none) :
      InsertEdgeStep graph edge (graph.linked [edge], .ok ())

theorem insertEdgeStep (graph : Graph) (edge : Reference) :
    InsertEdgeStep graph edge (graph.insertEdge edge) := by
  rw [insertEdge]
  cases opened : graph.store.isSealed with
  | true =>
      rw [if_pos rfl]
      exact .sealed opened
  | false =>
      rw [if_neg (by simp)]
      cases ends : graph.store.missingEnd? edge with
      | some id => exact .missing id opened ends
      | none => exact .linked opened ends

theorem insertEdge_of_open {graph : Graph} {edge : Reference}
    (opened : graph.store.isSealed = false) (present : graph.store.missingEnd? edge = none) :
    graph.insertEdge edge = (graph.linked [edge], .ok ()) := by
  have step := graph.insertEdgeStep edge
  generalize graph.insertEdge edge = result at step
  cases step with
  | sealed closed => simp [opened] at closed
  | missing id _ absent => simp [present] at absent
  | linked => rfl

theorem insertEdge_of_sealed {graph : Graph} (edge : Reference)
    (closed : graph.store.isSealed = true) :
    graph.insertEdge edge = (graph, .error .graphSealed) := by
  rw [insertEdge, if_pos closed]

/-- On an open store the references with stored ends become edges, and nothing fails. -/
theorem addReferences_of_open {graph : Graph} (opened : graph.store.isSealed = false)
    (references : List Reference) :
    graph.addReferences references =
      ⟨graph.linked (references.filter graph.store.takes),
        references.filterMap graph.store.dangling?, none⟩ := by
  induction references generalizing graph with
  | nil => simp [addReferences, linked_nil]
  | cons reference references ih =>
      rw [addReferences]
      cases ends : graph.store.missingEnd? reference with
      | some id =>
          simp [ih opened, Store.takes, Store.dangling?, ends]
      | none =>
          have same := graph.keys_linked_singleton reference
          have taken : graph.store.takes reference = true := by simp [Store.takes, ends]
          have kept : graph.store.dangling? reference = none := by simp [Store.dangling?, ends]
          simp only [insertEdge_of_open opened ends]
          rw [ih (by rw [isSealed_linked, opened]), Store.takes_congr same,
            Store.dangling?_congr same,
            List.filter_cons_of_pos taken, List.filterMap_cons_none kept, ← linked_cons]

/-- On a sealed store nothing is entered. -/
theorem graph_addReferences_of_sealed {graph : Graph} (closed : graph.store.isSealed = true)
    (references : List Reference) : (graph.addReferences references).graph = graph := by
  induction references with
  | nil => rfl
  | cons reference references ih =>
      rw [addReferences]
      cases graph.store.missingEnd? reference with
      | some id => exact ih
      | none => simp [insertEdge_of_sealed reference closed]

theorem WellFormed.linked {graph : Graph} (wf : graph.WellFormed) {edges : List Reference}
    (taken : ∀ edge ∈ edges, graph.store.takes edge = true) : (graph.linked edges).WellFormed := by
  induction edges generalizing graph with
  | nil =>
      rw [linked_nil]
      exact wf
  | cons edge edges ih =>
      obtain ⟨source, target⟩ := Store.takes_iff.1 (taken edge (by simp))
      have first : (graph.linked [edge]).WellFormed := by
        refine ⟨wf.store.link source target, ?_⟩
        intro other member
        apply (Store.dependsOn_link source).2
        rcases List.mem_append.1 member with old | new
        · exact .inl (wf.edges other old)
        · rw [List.mem_singleton.1 new]
          exact .inr ⟨rfl, rfl⟩
      rw [linked_cons]
      apply ih first
      intro other member
      rw [Store.takes_congr (graph.keys_linked_singleton edge)]
      exact taken other (List.mem_cons_of_mem edge member)

/-! ## Operations -/

/-- An operation on a graph and its store. -/
inductive Operation where
  | insert (record : Symbol)
  | insertMany (records : List Symbol)
  | insertEdge (edge : Reference)
  /-- Build references into a new graph over the same store. -/
  | build (references : List Reference)
  /-- Seal the store. -/
  | finish

/-- The graph behind an operation.  One that fails has the effect that it had up to then; a
building that fails gives no new graph. -/
def Operation.apply (graph : Graph) : Operation → Graph
  | .insert record => { graph with store := (graph.store.insert record).1 }
  | .insertMany records => { graph with store := (graph.store.insertMany records).store }
  | .insertEdge edge => (graph.insertEdge edge).1
  | .build references =>
      let building := Graph.build graph.store references
      match building.fault? with
      | none => building.graph
      | some _ => { graph with store := building.graph.store }
  | .finish => graph.sealed

/-- The graph behind a list of operations that begins with the empty graph. -/
def after (operations : List Operation) : Graph :=
  operations.foldl Operation.apply {}

theorem WellFormed.grow {graph : Graph} (wf : graph.WellFormed) {store : Store}
    (grown : store.WellFormed)
    (kept : ∀ id component, graph.store.get? id = some component →
      store.get? id = some component) :
    ({ graph with store } : Graph).WellFormed := by
  refine ⟨grown, ?_⟩
  intro edge member
  obtain ⟨component, found, neighbour⟩ := wf.edges edge member
  exact ⟨component, kept _ _ found, neighbour⟩

theorem wellFormed_build {store : Store} (wf : store.WellFormed) (references : List Reference) :
    (build store references).graph.WellFormed := by
  have bare : ({ store } : Graph).WellFormed := ⟨wf, by simp⟩
  cases opened : store.isSealed with
  | true =>
      rw [build, graph_addReferences_of_sealed opened]
      exact bare
  | false =>
      rw [build, addReferences_of_open opened]
      exact bare.linked fun edge member => (List.mem_filter.1 member).2

/-- A building that fails leaves the store as it was. -/
theorem store_build_of_fault {store : Store} {references : List Reference} {fault : Fault}
    (failed : (build store references).fault? = some fault) :
    (build store references).graph.store = store := by
  cases opened : store.isSealed with
  | true => rw [build, graph_addReferences_of_sealed opened]
  | false =>
      rw [build, addReferences_of_open opened] at failed
      cases failed

/-- Every operation keeps a graph well-formed. -/
theorem WellFormed.apply {graph : Graph} (wf : graph.WellFormed) (operation : Operation) :
    (operation.apply graph).WellFormed := by
  cases operation with
  | insert record =>
      exact wf.grow (wf.store.insert record) fun _ _ found => Store.get?_insert record found
  | insertMany records =>
      exact wf.grow (wf.store.insertMany records) fun _ _ found =>
        Store.get?_insertMany records found
  | insertEdge edge =>
      have step := graph.insertEdgeStep edge
      rw [Operation.apply]
      generalize graph.insertEdge edge = result at step
      cases step with
      | sealed | missing => exact wf
      | linked opened present =>
          apply wf.linked
          intro other member
          rw [List.mem_singleton.1 member, Store.takes, present]
          rfl
  | build references =>
      simp only [Operation.apply]
      split
      next => exact wellFormed_build wf.store references
      next failed =>
        rw [store_build_of_fault failed]
        exact wf
  | finish => exact ⟨wf.store.sealed, wf.edges⟩

/-- Every graph that comes about by operations is well-formed. -/
theorem wellFormed_after (operations : List Operation) : (after operations).WellFormed := by
  have run : ∀ {graph : Graph}, graph.WellFormed →
      (operations.foldl Operation.apply graph).WellFormed := by
    induction operations with
    | nil => exact id
    | cons operation operations ih =>
        intro graph wf
        exact ih (wf.apply operation)
  exact run ⟨Store.wellFormed_empty, by simp⟩

/-- Whatever is done to an empty graph, and whichever operations fail: every component is stored
under its own id, with a valid range, no negative complexity and a normal path; its neighbours are
listed once and are stored; dependencies and dependents mirror each other; edges join stored
components and are dependencies; and whatever was rejected ends before it starts. -/
theorem consistent_after (operations : List Operation) :
    (after operations).store.keys.Nodup ∧
      (∀ id component, (after operations).store.get? id = some component ↔
        component ∈ (after operations).store.components ∧ component.id = id) ∧
      (∀ component ∈ (after operations).store.components,
        component.startLine ≤ component.endLine ∧ 0 ≤ component.complexity ∧
          normalPath component.file = component.file) ∧
      (∀ component ∈ (after operations).store.components,
        component.dependencies.Nodup ∧ component.dependents.Nodup ∧
          ∀ id, id ∈ component.dependencies ∨ id ∈ component.dependents →
            id ∈ (after operations).store.keys) ∧
      (∀ source ∈ (after operations).store.components,
        ∀ target ∈ (after operations).store.components,
          target.id ∈ source.dependencies ↔ source.id ∈ target.dependents) ∧
      (∀ edge ∈ (after operations).edges,
        ∃ source target, (after operations).store.get? edge.source = some source ∧
          (after operations).store.get? edge.target = some target ∧
          edge.target ∈ source.dependencies) ∧
      ∀ record ∈ (after operations).store.rejected, record.endLine < record.startLine := by
  have wf := wellFormed_after operations
  refine ⟨wf.store.keys_nodup, ?_, ?_, ?_, wf.store.mirrored, ?_, ?_⟩
  · intro id component
    exact Store.get?_eq_some_iff wf.store.keys_nodup
  · intro component stored
    have canonical := wf.store.canonical component stored
    exact ⟨canonical.range, canonical.complexity, canonical.file⟩
  · intro component stored
    refine ⟨wf.store.dependencies_nodup component stored,
      wf.store.dependents_nodup component stored, ?_⟩
    rintro id (dependency | dependent)
    · exact wf.store.dependencies_stored component stored id dependency
    · exact wf.store.dependents_stored component stored id dependent
  · intro edge member
    obtain ⟨source, found, neighbour⟩ := wf.edges edge member
    obtain ⟨target, targetFound⟩ := Store.exists_get? (wf.store.target_mem (wf.edges edge member))
    exact ⟨source, target, found, targetFound, neighbour⟩
  · intro record member
    have invalid := wf.store.rejected record member
    rw [Symbol.hasValidRange, decide_eq_false_iff_not] at invalid
    omega

end Graph

end DepAtlas
