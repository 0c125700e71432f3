import DepAtlas.Listing
import DepAtlas.Notice

/-!
# The store of components

A store owns the components of one analysis and remembers the records that it rejected.
An id belongs to the first file that claims it.  A sealed store takes nothing more.

Inserting answers with the store that results and with what became of the record; an
insertion that fails leaves the store as it was.
-/

namespace DepAtlas

/-- The components of an analysis in the order of their insertion, and the rejected
records. -/
structure Store where
  components : List Component := []
  rejected : List Symbol := []
  isSealed : Bool := false
  deriving DecidableEq, Repr

/-- What became of a record that was offered to a store. -/
inductive Insertion where
  | stored (component : Component)
  /-- The id is already stored for the same file. -/
  | repeated (existing : Component)
  /-- The record's range is invalid. -/
  | rejected (record : Symbol)
  deriving DecidableEq, Repr

namespace Insertion

/-- The stored component that a record ended up as. -/
def component? : Insertion → Option Component
  | .stored component | .repeated component => some component
  | .rejected _ => none

/-- The notices of an insertion. -/
def notices : Insertion → List Notice
  | .stored _ => []
  | .repeated existing => [.repeated existing.id]
  | .rejected record => [.rejected record]

end Insertion

namespace Store

/-- The component with an id. -/
def get? (store : Store) (id : ComponentId) : Option Component :=
  store.components.find? fun component => component.id = id

/-- The component with an id; its absence is a fault. -/
def get (store : Store) (id : ComponentId) : Except Fault Component :=
  match store.get? id with
  | some component => .ok component
  | none => .error (.absent id)

/-- Whether an id is stored. -/
def contains (store : Store) (id : ComponentId) : Bool :=
  (store.get? id).isSome

/-- The number of components. -/
def size (store : Store) : Nat :=
  store.components.length

/-- The stored ids in ascending order. -/
def ids (store : Store) : List ComponentId :=
  ascending (store.components.map (·.id))

/-- Take nothing more. -/
def sealed (store : Store) : Store :=
  { store with isSealed := true }

/-- Change the component with an id. -/
def update (store : Store) (id : ComponentId) (change : Component → Component) : Store :=
  { store with
    components := store.components.map fun component =>
      if component.id = id then change component else component }

/-- Offer a record to the store.  The range of a record is looked at before its id. -/
def insert (store : Store) (record : Symbol) : Store × Except Fault Insertion :=
  if store.isSealed then (store, .error .storeSealed)
  else if !record.hasValidRange then
    ({ store with rejected := store.rejected ++ [record] }, .ok (.rejected record))
  else
    let component := record.toComponent
    match store.get? component.id with
    | some existing =>
        if existing.file = component.file then (store, .ok (.repeated existing))
        else (store, .error (.duplicate component.id existing.file component.file))
    | none =>
        ({ store with components := store.components ++ [component] }, .ok (.stored component))

/-- What became of a batch of records: the store behind it, the insertions that
happened, and the fault that ended the batch early. -/
structure Batch where
  store : Store
  insertions : List Insertion
  fault? : Option Fault
  deriving Repr

/-- Offer records one after the other, up to the first fault. -/
def insertMany (store : Store) : List Symbol → Batch
  | [] => ⟨store, [], none⟩
  | record :: records =>
      match store.insert record with
      | (next, .ok insertion) =>
          let batch := next.insertMany records
          { batch with insertions := insertion :: batch.insertions }
      | (next, .error fault) => ⟨next, [], some fault⟩

/-- The notices of a batch. -/
def Batch.notices (batch : Batch) : List Notice :=
  batch.insertions.flatMap Insertion.notices

/-- A fresh store with the given records. -/
def load (records : List Symbol) : Traced Store :=
  let batch := ({} : Store).insertMany records
  ⟨batch.notices, match batch.fault? with
    | none => .ok batch.store
    | some fault => .error fault⟩

/-! ## Looking up and inserting -/

/-- The stored ids in the order of their insertion. -/
def keys (store : Store) : List ComponentId :=
  store.components.map (·.id)

theorem mem_keys {store : Store} {id : ComponentId} :
    id ∈ store.keys ↔ ∃ component ∈ store.components, component.id = id := by
  simp [keys]

theorem ids_eq (store : Store) : store.ids = ascending store.keys := rfl

@[simp] theorem mem_ids {store : Store} {id : ComponentId} :
    id ∈ store.ids ↔ id ∈ store.keys := by
  simp [ids_eq]

theorem mem_of_get? {store : Store} {id : ComponentId} {component : Component}
    (found : store.get? id = some component) :
    component ∈ store.components ∧ component.id = id :=
  ⟨List.mem_of_find?_eq_some found, by simpa using List.find?_some found⟩

theorem mem_keys_of_get? {store : Store} {id : ComponentId} {component : Component}
    (found : store.get? id = some component) : id ∈ store.keys :=
  mem_keys.2 ⟨component, mem_of_get? found⟩

/-- Where ids are unique, a stored component is the one found under its id. -/
theorem get?_of_mem {store : Store} (unique : store.keys.Nodup) {component : Component}
    (stored : component ∈ store.components) : store.get? component.id = some component := by
  obtain ⟨front, back, split⟩ := List.append_of_mem stored
  rw [get?, List.find?_eq_some_iff_append]
  refine ⟨by simp, front, back, split, ?_⟩
  intro other member
  rw [keys, split, List.map_append, List.nodup_append] at unique
  have different := unique.2.2 other.id (List.mem_map_of_mem member) component.id (by simp)
  simpa using different

theorem get?_eq_some_iff {store : Store} (unique : store.keys.Nodup) {id : ComponentId}
    {component : Component} :
    store.get? id = some component ↔ component ∈ store.components ∧ component.id = id := by
  constructor
  · exact mem_of_get?
  · rintro ⟨stored, rfl⟩
    exact get?_of_mem unique stored

theorem get?_eq_none_iff {store : Store} {id : ComponentId} :
    store.get? id = none ↔ id ∉ store.keys := by
  simp [get?, keys]

theorem exists_get? {store : Store} {id : ComponentId} (stored : id ∈ store.keys) :
    ∃ component, store.get? id = some component := by
  apply Option.ne_none_iff_exists'.1
  intro absent
  exact get?_eq_none_iff.1 absent stored

@[simp] theorem contains_iff {store : Store} {id : ComponentId} :
    store.contains id = true ↔ id ∈ store.keys := by
  rw [contains, Option.isSome_iff_ne_none, ne_eq, get?_eq_none_iff, Decidable.not_not]

theorem get_eq_ok {store : Store} {id : ComponentId} {component : Component}
    (found : store.get? id = some component) : store.get id = .ok component := by
  rw [get, found]

/-- The ways in which an insertion can go. -/
inductive InsertStep (store : Store) (record : Symbol) :
    Store × Except Fault Insertion → Prop where
  | sealed (closed : store.isSealed = true) :
      InsertStep store record (store, .error .storeSealed)
  | rejected (opened : store.isSealed = false) (invalid : record.hasValidRange = false) :
      InsertStep store record
        ({ store with rejected := store.rejected ++ [record] }, .ok (.rejected record))
  | repeated (existing : Component) (opened : store.isSealed = false)
      (valid : record.hasValidRange = true) (found : store.get? record.id = some existing)
      (same : existing.file = normalPath record.file) :
      InsertStep store record (store, .ok (.repeated existing))
  | duplicate (existing : Component) (opened : store.isSealed = false)
      (valid : record.hasValidRange = true) (found : store.get? record.id = some existing)
      (different : existing.file ≠ normalPath record.file) :
      InsertStep store record
        (store, .error (.duplicate record.id existing.file (normalPath record.file)))
  | stored (opened : store.isSealed = false) (valid : record.hasValidRange = true)
      (absent : store.get? record.id = none) :
      InsertStep store record
        ({ store with components := store.components ++ [record.toComponent] },
          .ok (.stored record.toComponent))

theorem insertStep (store : Store) (record : Symbol) :
    InsertStep store record (store.insert record) := by
  cases opened : store.isSealed with
  | true =>
      rw [insert, if_pos opened]
      exact .sealed opened
  | false =>
      rw [insert, if_neg (by simp [opened])]
      cases valid : record.hasValidRange with
      | false =>
          rw [if_pos (by simp)]
          exact .rejected opened valid
      | true =>
          rw [if_neg (by simp)]
          cases found : store.get? record.id with
          | none =>
              have lookup : store.get? record.toComponent.id = none := found
              simp only [lookup]
              exact .stored opened valid found
          | some existing =>
              have lookup : store.get? record.toComponent.id = some existing := found
              simp only [lookup]
              split
              next same => exact .repeated existing opened valid found same
              next different => exact .duplicate existing opened valid found different

/-- Two stores agree when they hold the same components, in whatever order. -/
def agrees (a b : Store) : Bool :=
  a.components.length == b.components.length &&
    a.components.all fun component => b.get? component.id == some component

end Store

end DepAtlas
