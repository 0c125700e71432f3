import DepAtlas.Graph
import DepAtlas.Proofs.NormalPath
import Mathlib.Logic.Relation

/-!
# Well-formed graphs

A graph is put together by operations on an empty one: records are inserted, edges are
added, references are built into a new graph over the same store, and the store is sealed.
An operation may fail.

After any number of operations the store is well-formed.  Its ids are unique, the lists of
neighbours have no repeats and name stored components only, and the two sides of every
dependency know of each other.  Every edge of the graph is a dependency.
-/

namespace DepAtlas

/-! ## Dependencies -/

namespace Store

/-- One component depends on another. -/
def DependsOn (store : Store) (source target : ComponentId) : Prop :=
  ∃ component, store.get? source = some component ∧ target ∈ component.dependencies

/-- One component leads to another by one or more dependencies. -/
def Reaches (store : Store) : ComponentId → ComponentId → Prop :=
  Relation.TransGen store.DependsOn

/-- One component leads to another by any number of dependencies. -/
def Leads (store : Store) : ComponentId → ComponentId → Prop :=
  Relation.ReflTransGen store.DependsOn

theorem DependsOn.source_mem {store : Store} {source target : ComponentId}
    (depends : store.DependsOn source target) : source ∈ store.keys := by
  obtain ⟨component, found, _⟩ := depends
  exact mem_keys_of_get? found

/-- Two stores with the same ids and the same dependencies between them. -/
structure SameDependencies (store other : Store) : Prop where
  keys : store.keys.Perm other.keys
  dependsOn : ∀ source target, store.DependsOn source target ↔ other.DependsOn source target

theorem SameDependencies.reaches_iff {store other : Store} (same : store.SameDependencies other)
    {source target : ComponentId} : store.Reaches source target ↔ other.Reaches source target := by
  have dependencies : store.DependsOn = other.DependsOn := by
    funext source target
    exact propext (same.dependsOn source target)
  rw [Reaches, Reaches, dependencies]

theorem dependsOn_iff {store : Store} {source target : ComponentId} {component : Component}
    (found : store.get? source = some component) :
    store.DependsOn source target ↔ target ∈ component.dependencies := by
  simp [DependsOn, found]

end Store

/-! ## Invariants -/

/-- What holds of a component in a store apart from its neighbours. -/
structure Component.Canonical (component : Component) : Prop where
  range : component.startLine ≤ component.endLine
  complexity : 0 ≤ component.complexity
  file : normalPath component.file = component.file

/-- The invariant of stores. -/
structure Store.WellFormed (store : Store) : Prop where
  keys_nodup : store.keys.Nodup
  canonical : ∀ component ∈ store.components, component.Canonical
  dependencies_nodup : ∀ component ∈ store.components, component.dependencies.Nodup
  dependents_nodup : ∀ component ∈ store.components, component.dependents.Nodup
  dependencies_stored : ∀ component ∈ store.components, ∀ id ∈ component.dependencies,
    id ∈ store.keys
  dependents_stored : ∀ component ∈ store.components, ∀ id ∈ component.dependents,
    id ∈ store.keys
  mirrored : ∀ source ∈ store.components, ∀ target ∈ store.components,
    target.id ∈ source.dependencies ↔ source.id ∈ target.dependents
  rejected : ∀ record ∈ store.rejected, record.hasValidRange = false

/-- The invariant of graphs. -/
structure Graph.WellFormed (graph : Graph) : Prop where
  store : graph.store.WellFormed
  edges : ∀ edge ∈ graph.edges, graph.store.DependsOn edge.source edge.target

theorem Component.nodup_dependencies_link {component : Component} {edge : Reference}
    (nodup : component.dependencies.Nodup) : (component.link edge).dependencies.Nodup := by
  unfold Component.link
  split <;> split <;>
    simp_all [Component.addDependency, Component.addDependent, nodup_addNew]

theorem Component.nodup_dependents_link {component : Component} {edge : Reference}
    (nodup : component.dependents.Nodup) : (component.link edge).dependents.Nodup := by
  unfold Component.link
  split <;> split <;>
    simp_all [Component.addDependency, Component.addDependent, nodup_addNew]

theorem Component.canonical_link {component : Component} (edge : Reference)
    (canonical : component.Canonical) : (component.link edge).Canonical := by
  unfold Component.link
  split <;> split <;> exact { canonical with }

namespace Store

theorem wellFormed_empty : ({} : Store).WellFormed := by
  constructor <;> simp [keys]

theorem WellFormed.target_mem {store : Store} (wf : store.WellFormed)
    {source target : ComponentId} (depends : store.DependsOn source target) :
    target ∈ store.keys := by
  obtain ⟨component, found, member⟩ := depends
  exact wf.dependencies_stored component (mem_of_get? found).1 target member

/-- A dependent of a stored component depends on it. -/
theorem WellFormed.dependsOn_of_mem_dependents {store : Store} (wf : store.WellFormed)
    {component : Component} (stored : component ∈ store.components) {id : ComponentId}
    (member : id ∈ component.dependents) : store.DependsOn id component.id := by
  obtain ⟨dependent, found⟩ := exists_get? (wf.dependents_stored component stored id member)
  obtain ⟨dependentStored, rfl⟩ := mem_of_get? found
  exact (dependsOn_iff found).2 ((wf.mirrored dependent dependentStored component stored).2 member)

theorem WellFormed.mem_dependents_iff {store : Store} (wf : store.WellFormed)
    {target : ComponentId} {component : Component} (found : store.get? target = some component)
    {source : ComponentId} :
    source ∈ component.dependents ↔ store.DependsOn source target := by
  obtain ⟨stored, rfl⟩ := mem_of_get? found
  constructor
  · exact wf.dependsOn_of_mem_dependents stored
  · rintro ⟨dependent, dependentFound, member⟩
    obtain ⟨dependentStored, rfl⟩ := mem_of_get? dependentFound
    exact (wf.mirrored dependent dependentStored component stored).1 member

/-- What holds of a store does not hang on its seal. -/
theorem WellFormed.sealed {store : Store} (wf : store.WellFormed) : store.sealed.WellFormed :=
  { wf with }

/-! ## Insertions -/

theorem canonical_toComponent {record : Symbol} (valid : record.hasValidRange = true) :
    record.toComponent.Canonical where
  range := of_decide_eq_true valid
  complexity := Int.le_max_left ..
  file := normalPath_normalPath record.file

theorem get?_append {store next : Store} {added : List Component}
    (grown : next.components = store.components ++ added) {id : ComponentId}
    {component : Component} (found : store.get? id = some component) :
    next.get? id = some component := by
  rw [get?] at found ⊢
  rw [grown, List.find?_append, found]
  rfl

theorem WellFormed.append {store : Store} (wf : store.WellFormed) {record : Symbol}
    (valid : record.hasValidRange = true) (absent : store.get? record.id = none) :
    ({ store with components := store.components ++ [record.toComponent] } : Store).WellFormed := by
  have fresh : record.id ∉ store.keys := get?_eq_none_iff.1 absent
  have grown :
      ({ store with components := store.components ++ [record.toComponent] } : Store).keys =
        store.keys ++ [record.id] := by
    simp [keys, Symbol.toComponent]
  have noDependencies : record.toComponent.dependencies = [] := rfl
  have noDependents : record.toComponent.dependents = [] := rfl
  have sameId : record.toComponent.id = record.id := rfl
  constructor
  case keys_nodup =>
    rw [grown, List.nodup_append]
    refine ⟨wf.keys_nodup, by simp, ?_⟩
    intro id stored other new
    rw [List.mem_singleton] at new
    rintro rfl
    exact fresh (new ▸ stored)
  case canonical =>
    intro component member
    rcases List.mem_append.1 member with old | new
    · exact wf.canonical component old
    · rw [List.mem_singleton.1 new]
      exact canonical_toComponent valid
  case dependencies_nodup =>
    intro component member
    rcases List.mem_append.1 member with old | new
    · exact wf.dependencies_nodup component old
    · simp [List.mem_singleton.1 new, noDependencies]
  case dependents_nodup =>
    intro component member
    rcases List.mem_append.1 member with old | new
    · exact wf.dependents_nodup component old
    · simp [List.mem_singleton.1 new, noDependents]
  case dependencies_stored =>
    intro component member id neighbour
    rw [grown, List.mem_append]
    rcases List.mem_append.1 member with old | new
    · exact .inl (wf.dependencies_stored component old id neighbour)
    · simp [List.mem_singleton.1 new, noDependencies] at neighbour
  case dependents_stored =>
    intro component member id neighbour
    rw [grown, List.mem_append]
    rcases List.mem_append.1 member with old | new
    · exact .inl (wf.dependents_stored component old id neighbour)
    · simp [List.mem_singleton.1 new, noDependents] at neighbour
  case mirrored =>
    intro source sourceMember target targetMember
    rcases List.mem_append.1 sourceMember with oldSource | newSource <;>
      rcases List.mem_append.1 targetMember with oldTarget | newTarget
    · exact wf.mirrored source oldSource target oldTarget
    · have unknown : record.id ∉ source.dependencies := fun neighbour =>
        fresh (wf.dependencies_stored source oldSource record.id neighbour)
      simp [List.mem_singleton.1 newTarget, noDependents, sameId, unknown]
    · have unknown : record.id ∉ target.dependents := fun neighbour =>
        fresh (wf.dependents_stored target oldTarget record.id neighbour)
      simp [List.mem_singleton.1 newSource, noDependencies, sameId, unknown]
    · simp [List.mem_singleton.1 newSource, List.mem_singleton.1 newTarget, noDependencies,
        noDependents]
  case rejected => exact wf.rejected

theorem WellFormed.insert {store : Store} (wf : store.WellFormed) (record : Symbol) :
    (store.insert record).1.WellFormed := by
  have step := store.insertStep record
  generalize store.insert record = result at step
  cases step with
  | sealed closed => exact wf
  | rejected opened invalid =>
      refine { wf with rejected := ?_ }
      intro other member
      rcases List.mem_append.1 member with old | new
      · exact wf.rejected other old
      · rw [List.mem_singleton.1 new]
        exact invalid
  | repeated existing opened valid found same => exact wf
  | duplicate existing opened valid found different => exact wf
  | stored opened valid absent => exact wf.append valid absent

/-- An insertion takes no component away and changes none. -/
theorem get?_insert {store : Store} (record : Symbol) {id : ComponentId} {component : Component}
    (found : store.get? id = some component) :
    (store.insert record).1.get? id = some component := by
  have step := store.insertStep record
  generalize store.insert record = result at step
  cases step with
  | stored opened valid absent => exact get?_append rfl found
  | sealed | rejected | repeated | duplicate => exact found

theorem insertMany_cons (store : Store) (record : Symbol) (records : List Symbol) :
    (store.insertMany (record :: records)).store =
      match (store.insert record).2 with
      | .ok _ => ((store.insert record).1.insertMany records).store
      | .error _ => (store.insert record).1 := by
  rw [insertMany]
  split
  next inserted => rw [inserted]
  next refused => rw [refused]

/-- What every insertion keeps, a batch of insertions keeps. -/
theorem insertMany_keeps {motive : Store → Prop} {records : List Symbol}
    (step : ∀ {store}, motive store → ∀ record ∈ records, motive (store.insert record).1)
    {store : Store} (before : motive store) : motive (store.insertMany records).store := by
  induction records generalizing store with
  | nil => exact before
  | cons record records ih =>
      have first : motive (store.insert record).1 := step before record (by simp)
      rw [insertMany_cons]
      split
      · refine ih ?_ first
        intro store kept other member
        exact step kept other (List.mem_cons_of_mem record member)
      · exact first

theorem WellFormed.insertMany {store : Store} (wf : store.WellFormed) (records : List Symbol) :
    (store.insertMany records).store.WellFormed :=
  insertMany_keeps (fun kept record _ => kept.insert record) wf

theorem get?_insertMany {store : Store} (records : List Symbol) {id : ComponentId}
    {component : Component} (found : store.get? id = some component) :
    (store.insertMany records).store.get? id = some component :=
  insertMany_keeps (motive := fun store => store.get? id = some component)
    (fun kept record _ => get?_insert record kept) found

/-! ## Edges -/

theorem get?_link (store : Store) (edge : Reference) (id : ComponentId) :
    (store.link edge).get? id = (store.get? id).map (·.link edge) := by
  simp only [get?, components_link, List.find?_map, Function.comp_def, Component.id_link]

/-- An edge between stored components adds one dependency and takes none away. -/
theorem dependsOn_link {store : Store} {edge : Reference} (stored : edge.source ∈ store.keys)
    {source target : ComponentId} :
    (store.link edge).DependsOn source target ↔
      store.DependsOn source target ∨ source = edge.source ∧ target = edge.target := by
  cases found : store.get? source with
  | none =>
      have different : source ≠ edge.source := by
        rintro rfl
        exact get?_eq_none_iff.1 found stored
      simp [DependsOn, get?_link, found, different]
  | some component =>
      have linked : (store.link edge).get? source = some (component.link edge) := by
        rw [get?_link, found]
        rfl
      rw [dependsOn_iff linked, dependsOn_iff found, Component.mem_dependencies_link,
        (mem_of_get? found).2]

theorem WellFormed.link {store : Store} (wf : store.WellFormed) {edge : Reference}
    (sourceStored : edge.source ∈ store.keys) (targetStored : edge.target ∈ store.keys) :
    (store.link edge).WellFormed := by
  have linked : ∀ {component}, component ∈ (store.link edge).components →
      ∃ before ∈ store.components, before.link edge = component := by
    intro component member
    rw [components_link] at member
    exact List.mem_map.1 member
  constructor
  case keys_nodup =>
    rw [keys_link]
    exact wf.keys_nodup
  case canonical =>
    intro component member
    obtain ⟨before, stored, rfl⟩ := linked member
    exact Component.canonical_link edge (wf.canonical before stored)
  case dependencies_nodup =>
    intro component member
    obtain ⟨before, stored, rfl⟩ := linked member
    exact Component.nodup_dependencies_link (wf.dependencies_nodup before stored)
  case dependents_nodup =>
    intro component member
    obtain ⟨before, stored, rfl⟩ := linked member
    exact Component.nodup_dependents_link (wf.dependents_nodup before stored)
  case dependencies_stored =>
    intro component member id neighbour
    obtain ⟨before, stored, rfl⟩ := linked member
    rw [keys_link]
    rcases Component.mem_dependencies_link.1 neighbour with old | ⟨_, rfl⟩
    · exact wf.dependencies_stored before stored id old
    · exact targetStored
  case dependents_stored =>
    intro component member id neighbour
    obtain ⟨before, stored, rfl⟩ := linked member
    rw [keys_link]
    rcases Component.mem_dependents_link.1 neighbour with old | ⟨_, rfl⟩
    · exact wf.dependents_stored before stored id old
    · exact sourceStored
  case mirrored =>
    intro source sourceMember target targetMember
    obtain ⟨sourceBefore, sourceKept, rfl⟩ := linked sourceMember
    obtain ⟨targetBefore, targetKept, rfl⟩ := linked targetMember
    rw [Component.mem_dependencies_link, Component.mem_dependents_link, Component.id_link,
      Component.id_link, wf.mirrored sourceBefore sourceKept targetBefore targetKept,
      and_comm (a := sourceBefore.id = edge.source)]
  case rejected => exact wf.rejected

theorem missingEnd?_eq_none_iff {store : Store} {reference : Reference} :
    store.missingEnd? reference = none ↔
      reference.source ∈ store.keys ∧ reference.target ∈ store.keys := by
  simp only [missingEnd?, ← contains_iff]
  cases store.contains reference.source <;> cases store.contains reference.target <;> simp

end Store

end DepAtlas
