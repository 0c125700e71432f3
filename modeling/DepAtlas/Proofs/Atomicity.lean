import DepAtlas.Proofs.Construction

/-!
# Failures and seals

Several graphs may be built over one store, and edges may be added to any of them.  An operation
that fails has looked before it changed anything, so it leaves the store and every graph as they
were; only a batch of records keeps what its first records have done.

A sealed store takes nothing more.  Building on it fails as soon as a reference has both ends
stored, and otherwise gives a graph without edges, so that nothing which stood there before the seal
changes by whatever is tried later.
-/

namespace DepAtlas

namespace Store

variable {store : Store}

/-- An insertion fails on a sealed store, or because another file has the id; the store stays as it
was. -/
theorem insert_of_error {record : Symbol} {fault : Fault}
    (failed : (store.insert record).2 = .error fault) :
    (store.insert record).1 = store ∧
      (store.isSealed = true ∨ ∃ existing, store.get? record.id = some existing ∧
        existing.file ≠ normalPath record.file) := by
  have step := store.insertStep record
  generalize store.insert record = result at step failed
  cases step with
  | sealed closed => exact ⟨rfl, .inl closed⟩
  | duplicate existing _ _ found different => exact ⟨rfl, .inr ⟨existing, found, different⟩⟩
  | rejected | repeated | stored => cases failed

/-- A batch that fails ends at the record whose insertion fails, with what the records before it
have done. -/
theorem insertMany_of_fault {records : List Symbol} {fault : Fault}
    (failed : (store.insertMany records).fault? = some fault) :
    ∃ before record rest, records = before ++ record :: rest ∧
      (store.insertMany before).fault? = none ∧
      ((store.insertMany before).store.insert record).2 = .error fault ∧
      (store.insertMany records).store = (store.insertMany before).store := by
  induction records generalizing store with
  | nil => cases failed
  | cons first records ih =>
      rw [insertMany] at failed ⊢
      cases inserted : store.insert first with
      | mk next outcome =>
          simp only [inserted] at failed ⊢
          cases outcome with
          | ok insertion =>
              obtain ⟨before, record, rest, split, ended, refused, kept⟩ := ih failed
              refine ⟨first :: before, record, rest, by rw [split]; rfl, ?_⟩
              rw [insertMany]
              simp only [inserted]
              exact ⟨ended, refused, kept⟩
          | error reason =>
              obtain rfl : reason = fault := by simpa using failed
              have refused : (store.insert first).2 = .error reason := by rw [inserted]
              have unchanged := (insert_of_error refused).1
              rw [inserted] at unchanged
              exact ⟨[], first, records, rfl, rfl, refused, unchanged⟩

/-- A sealed store takes no record of a batch. -/
theorem insertMany_of_sealed (closed : store.isSealed = true) (records : List Symbol) :
    (store.insertMany records).store = store := by
  refine insertMany_keeps (motive := fun later => later = store) ?_ rfl
  rintro later rfl record _
  rw [insert, if_pos closed]

end Store

namespace Graph

variable {graph : Graph}

/-- An edge is refused by a sealed store or because of an end that is not stored; the graph stays as
it was. -/
theorem insertEdge_of_error {edge : Reference} {fault : Fault}
    (failed : (graph.insertEdge edge).2 = .error fault) :
    (graph.insertEdge edge).1 = graph ∧
      (graph.store.isSealed = true ∨ edge.source ∉ graph.store.keys ∨
        edge.target ∉ graph.store.keys) := by
  have step := graph.insertEdgeStep edge
  generalize graph.insertEdge edge = result at step failed
  cases step with
  | sealed closed => exact ⟨rfl, .inl closed⟩
  | missing id _ absent =>
      refine ⟨rfl, .inr (Decidable.not_and_iff_not_or_not.1 ?_)⟩
      intro present
      rw [Store.missingEnd?_eq_none_iff.2 present] at absent
      cases absent
  | linked => cases failed

/-- On a sealed store the first reference with stored ends ends the building. -/
theorem fault?_addReferences_of_sealed (closed : graph.store.isSealed = true)
    (references : List Reference) :
    (graph.addReferences references).fault? =
      if references.any graph.store.takes then some .graphSealed else none := by
  induction references with
  | nil => rfl
  | cons reference references ih =>
      rw [addReferences]
      cases ends : graph.store.missingEnd? reference with
      | some id => simp [ih, Store.takes, ends]
      | none => simp [insertEdge_of_sealed reference closed, Store.takes, ends]

/-- Building fails exactly on a sealed store that holds both ends of a reference. -/
theorem fault?_build_ne_none_iff {store : Store} {references : List Reference} :
    (build store references).fault? ≠ none ↔
      store.isSealed = true ∧ ∃ reference ∈ references,
        reference.source ∈ store.keys ∧ reference.target ∈ store.keys := by
  let start : Graph := { store }
  cases sealing : store.isSealed with
  | false =>
      have opened : start.store.isSealed = false := sealing
      simp [build, addReferences_of_open opened, start]
  | true =>
      have closed : start.store.isSealed = true := sealing
      rw [build, fault?_addReferences_of_sealed closed]
      simp [Store.takes_iff, start]

end Graph

/-! ## Graphs over one store -/

/-- A store and the edges of each graph over it, in the order in which the graphs came about. -/
structure Workspace where
  store : Store := {}
  edges : List (List Reference) := [[]]
  deriving DecidableEq, Repr

namespace Workspace

/-- An operation on a store or on one of the graphs over it. -/
inductive Operation where
  | insert (record : Symbol)
  | insertMany (records : List Symbol)
  /-- Add an edge to the graph with a number. -/
  | insertEdge (number : Nat) (edge : Reference)
  /-- Build references into a further graph. -/
  | build (references : List Reference)
  /-- Seal the store. -/
  | finish

/-- What stands behind an operation, and the fault that ended it, if one did. -/
structure Effect where
  workspace : Workspace
  fault? : Option Fault

/-- The graph with a number. -/
def graph? (workspace : Workspace) (number : Nat) : Option Graph :=
  workspace.edges[number]?.map fun edges => { store := workspace.store, edges }

/-- Perform an operation. -/
def perform (workspace : Workspace) : Operation → Effect
  | .insert record =>
      match workspace.store.insert record with
      | (store, .ok _) => ⟨{ workspace with store }, none⟩
      | (store, .error fault) => ⟨{ workspace with store }, some fault⟩
  | .insertMany records =>
      let batch := workspace.store.insertMany records
      ⟨{ workspace with store := batch.store }, batch.fault?⟩
  | .insertEdge number edge =>
      match workspace.graph? number with
      | none => ⟨workspace, none⟩
      | some graph =>
          let (next, outcome) := graph.insertEdge edge
          let changed : Workspace :=
            { store := next.store, edges := workspace.edges.set number next.edges }
          match outcome with
          | .ok () => ⟨changed, none⟩
          | .error fault => ⟨changed, some fault⟩
  | .build references =>
      let building := Graph.build workspace.store references
      match building.fault? with
      | none =>
          ⟨{ store := building.graph.store, edges := workspace.edges ++ [building.graph.edges] },
            none⟩
      | some fault => ⟨{ workspace with store := building.graph.store }, some fault⟩
  | .finish => ⟨{ workspace with store := workspace.store.sealed }, none⟩

/-- The workspace behind operations on a given one. -/
def run (workspace : Workspace) (operations : List Operation) : Workspace :=
  operations.foldl (fun workspace operation => (workspace.perform operation).workspace) workspace

/-- The workspace behind a list of operations that begins with an empty graph over an empty
store. -/
def after (operations : List Operation) : Workspace :=
  run {} operations

theorem after_append (operations later : List Operation) :
    after (operations ++ later) = (after operations).run later :=
  List.foldl_append

variable {workspace : Workspace}

/-! ## Failures -/

theorem fault?_insert_eq_some_iff {record : Symbol} {fault : Fault} :
    (workspace.perform (.insert record)).fault? = some fault ↔
      (workspace.store.insert record).2 = .error fault := by
  rw [perform]
  split
  next inserted => simp [inserted]
  next refused => simp [refused]

theorem workspace_insert (record : Symbol) :
    (workspace.perform (.insert record)).workspace =
      { workspace with store := (workspace.store.insert record).1 } := by
  rw [perform]
  split
  next inserted => simp [inserted]
  next refused => simp [refused]

/-- Records that are inserted one by one have the effect of a batch that is not ended. -/
theorem run_map_insert {records : List Symbol}
    (ended : (workspace.store.insertMany records).fault? = none) :
    workspace.run (records.map .insert) =
      { workspace with store := (workspace.store.insertMany records).store } := by
  induction records generalizing workspace with
  | nil => rfl
  | cons record records ih =>
      rw [Store.insertMany] at ended ⊢
      rw [run, List.map_cons, List.foldl_cons, workspace_insert]
      cases inserted : workspace.store.insert record with
      | mk next outcome =>
          simp only [inserted] at ended ⊢
          cases outcome with
          | ok insertion => exact @ih { workspace with store := next } ended
          | error reason => cases ended

theorem insertEdge_of_fault {number : Nat} {edge : Reference} {fault : Fault}
    (failed : (workspace.perform (.insertEdge number edge)).fault? = some fault) :
    (workspace.perform (.insertEdge number edge)).workspace = workspace ∧
      (workspace.store.isSealed = true ∨ edge.source ∉ workspace.store.keys ∨
        edge.target ∉ workspace.store.keys) := by
  rw [perform] at failed ⊢
  cases found : workspace.graph? number with
  | none => simp [found] at failed
  | some graph =>
      obtain ⟨edges, listed, rfl⟩ := Option.map_eq_some_iff.1 found
      cases inserted : ({ store := workspace.store, edges } : Graph).insertEdge edge with
      | mk next outcome =>
          cases outcome with
          | ok done => simp [found, inserted] at failed
          | error reason =>
              obtain ⟨unchanged, cause⟩ := Graph.insertEdge_of_error (by rw [inserted])
              rw [inserted] at unchanged
              subst unchanged
              simp only [inserted]
              refine ⟨?_, cause⟩
              obtain ⟨inside, rfl⟩ := List.getElem?_eq_some_iff.1 listed
              rw [List.set_getElem_self]

theorem build_of_fault {references : List Reference} {fault : Fault}
    (failed : (workspace.perform (.build references)).fault? = some fault) :
    (workspace.perform (.build references)).workspace = workspace := by
  rw [perform] at failed ⊢
  cases ended : (Graph.build workspace.store references).fault? with
  | none => simp [ended] at failed
  | some reason => simp only [Graph.store_build_of_fault ended]

theorem fault?_build_ne_none_iff {references : List Reference} :
    (workspace.perform (.build references)).fault? ≠ none ↔
      workspace.store.isSealed = true ∧ ∃ reference ∈ references,
        reference.source ∈ workspace.store.keys ∧ reference.target ∈ workspace.store.keys := by
  rw [← Graph.fault?_build_ne_none_iff, perform]
  cases (Graph.build workspace.store references).fault? <;> simp

/-! ## Seals -/

/-- Over a sealed store an operation at most adds a graph to those that are there. -/
theorem perform_of_sealed (closed : workspace.store.isSealed = true) (operation : Operation) :
    (workspace.perform operation).workspace.store = workspace.store ∧
      workspace.edges <+: (workspace.perform operation).workspace.edges := by
  cases operation with
  | insert record =>
      rw [workspace_insert, Store.insert, if_pos closed]
      exact ⟨rfl, List.prefix_refl _⟩
  | insertMany records =>
      exact ⟨Store.insertMany_of_sealed closed records, List.prefix_refl _⟩
  | insertEdge number edge =>
      rw [perform]
      cases found : workspace.graph? number with
      | none => exact ⟨rfl, List.prefix_refl _⟩
      | some graph =>
          obtain ⟨edges, listed, rfl⟩ := Option.map_eq_some_iff.1 found
          obtain ⟨inside, rfl⟩ := List.getElem?_eq_some_iff.1 listed
          simp [Graph.insertEdge, closed]
  | build references =>
      have entered :=
        @Graph.graph_addReferences_of_sealed { store := workspace.store } closed references
      rw [perform, Graph.build, entered]
      split
      next => exact ⟨rfl, List.prefix_append ..⟩
      next => exact ⟨rfl, List.prefix_refl _⟩
  | finish =>
      refine ⟨?_, List.prefix_refl _⟩
      rw [perform, Store.sealed, ← closed]

/-- Over a sealed store nothing changes by whatever is done. -/
theorem run_of_sealed (closed : workspace.store.isSealed = true) (operations : List Operation) :
    (workspace.run operations).store = workspace.store ∧
      workspace.edges <+: (workspace.run operations).edges := by
  induction operations generalizing workspace with
  | nil => exact ⟨rfl, List.prefix_refl _⟩
  | cons operation operations ih =>
      obtain ⟨store, edges⟩ := perform_of_sealed closed operation
      obtain ⟨storeLater, edgesLater⟩ := ih (by rw [store, closed])
      exact ⟨storeLater.trans store, edges.trans edgesLater⟩

/-- Whatever was done before: an insertion, an edge or a building that fails leaves the store and
all graphs as they were, and a batch that fails leaves what the records before the failing one do
when they are inserted one by one.  Insertions fail on a sealed store or for an id of another file,
edges on a sealed store or for an end that is not stored, and buildings exactly on a sealed store
that holds both ends of a reference.  Behind a seal nothing changes the store or the edges of a
graph that is there. -/
theorem failures_leave_no_trace (operations : List Operation) :
    (∀ record fault, ((after operations).perform (.insert record)).fault? = some fault →
      ((after operations).perform (.insert record)).workspace = after operations ∧
        ((after operations).store.isSealed = true ∨
          ∃ existing, (after operations).store.get? record.id = some existing ∧
            existing.file ≠ normalPath record.file)) ∧
    (∀ records fault, ((after operations).perform (.insertMany records)).fault? = some fault →
      ∃ before record rest, records = before ++ record :: rest ∧
        ((after operations).perform (.insertMany before)).fault? = none ∧
        ((after (operations ++ before.map .insert)).perform (.insert record)).fault? =
          some fault ∧
        ((after operations).perform (.insertMany records)).workspace =
          after (operations ++ before.map .insert)) ∧
    (∀ number edge fault,
      ((after operations).perform (.insertEdge number edge)).fault? = some fault →
        ((after operations).perform (.insertEdge number edge)).workspace = after operations ∧
          ((after operations).store.isSealed = true ∨
            edge.source ∉ (after operations).store.keys ∨
            edge.target ∉ (after operations).store.keys)) ∧
    (∀ references, ((after operations).perform (.build references)).fault? ≠ none ↔
      (after operations).store.isSealed = true ∧ ∃ reference ∈ references,
        reference.source ∈ (after operations).store.keys ∧
          reference.target ∈ (after operations).store.keys) ∧
    (∀ references fault,
      ((after operations).perform (.build references)).fault? = some fault →
        ((after operations).perform (.build references)).workspace = after operations) ∧
    ∀ later, (after (operations ++ .finish :: later)).store = (after operations).store.sealed ∧
      (after operations).edges <+: (after (operations ++ .finish :: later)).edges := by
  refine ⟨?_, ?_, fun _ _ _ => insertEdge_of_fault, fun _ => fault?_build_ne_none_iff,
    fun _ _ => build_of_fault, ?_⟩
  · intro record fault failed
    obtain ⟨unchanged, cause⟩ := Store.insert_of_error (fault?_insert_eq_some_iff.1 failed)
    refine ⟨?_, cause⟩
    rw [workspace_insert, unchanged]
  · intro records fault failed
    obtain ⟨before, record, rest, split, ended, refused, kept⟩ := Store.insertMany_of_fault failed
    have inserted := run_map_insert ended
    refine ⟨before, record, rest, split, ended, ?_, ?_⟩
    · rw [after_append, inserted, fault?_insert_eq_some_iff]
      exact refused
    · rw [after_append, inserted, ← kept]
      rfl
  · intro later
    rw [after_append]
    have closed : ((after operations).perform .finish).workspace.store.isSealed = true := rfl
    exact run_of_sealed closed later

end Workspace

end DepAtlas
