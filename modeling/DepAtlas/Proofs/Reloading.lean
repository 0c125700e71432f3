import DepAtlas.Proofs.Pipelines

/-!
# Loading records

Records can be loaded where no two with valid ranges have the same id: those are stored one behind
the other, and the others are rejected.

So the components of a store can be entered anew.  Written down as records and loaded into an empty
store, they lose their neighbours and nothing else: a stored component has a normal path, a valid
range and no negative complexity, and loading changes none of these.
-/

namespace DepAtlas

namespace Component

/-- Nothing but the neighbours is lost when a component is entered anew. -/
theorem toComponent_toSymbol {component : Component} (canonical : component.Canonical) :
    component.toSymbol.toComponent = component.bare := by
  have complexity : max 0 component.complexity = component.complexity :=
    Int.max_eq_right canonical.complexity
  simp [toSymbol, Symbol.toComponent, bare, canonical.file, complexity]

end Component

namespace Store

/-- A store into which no edge was entered has no neighbours. -/
theorem bare_of_load {records : List Symbol} {store : Store}
    (loaded : (load records).outcome = .ok store) :
    ∀ component ∈ store.components, component.bare = component := by
  rw [eq_of_load loaded]
  refine insertMany_keeps (motive := fun store => ∀ component ∈ store.components,
    component.bare = component) ?_ (by simp)
  intro store bare record _
  have step := store.insertStep record
  generalize store.insert record = result at step
  cases step with
  | sealed | rejected | repeated | duplicate => exact bare
  | stored =>
      intro component member
      rcases List.mem_append.1 member with old | new
      · exact bare component old
      · rw [List.mem_singleton.1 new]
        rfl

/-- What a store rejects are records that were offered. -/
theorem rejected_of_load {records : List Symbol} {store : Store}
    (loaded : (load records).outcome = .ok store) :
    ∀ record ∈ store.rejected, record ∈ records := by
  rw [eq_of_load loaded]
  refine insertMany_keeps (motive := fun store => ∀ record ∈ store.rejected,
    record ∈ records) ?_ (by simp)
  intro store offered record inside
  have step := store.insertStep record
  generalize store.insert record = result at step
  cases step with
  | sealed | stored | repeated | duplicate => exact offered
  | rejected =>
      intro other member
      rcases List.mem_append.1 member with old | new
      · exact offered other old
      · rw [List.mem_singleton.1 new]
        exact inside

/-- Records are stored one behind the other where those with valid ranges have new ids, no two of
them the same; the others are rejected. -/
theorem insertMany_of_unique {store : Store} (opened : store.isSealed = false)
    {records : List Symbol}
    (fresh : (store.keys ++ (records.filter Symbol.hasValidRange).map (·.id)).Nodup) :
    (store.insertMany records).fault? = none ∧
      (store.insertMany records).store = { store with
        components := store.components ++
          (records.filter Symbol.hasValidRange).map Symbol.toComponent
        rejected := store.rejected ++ records.filter fun record => !record.hasValidRange } := by
  induction records generalizing store with
  | nil => simp [insertMany]
  | cons record records ih =>
      have step := store.insertStep record
      rw [insertMany]
      generalize store.insert record = result at step
      cases step with
      | sealed closed => simp [opened] at closed
      | rejected _ invalid =>
          let next : Store := { store with rejected := store.rejected ++ [record] }
          have nextOpened : next.isSealed = false := opened
          have keys : next.keys = store.keys := rfl
          have later : (next.keys ++
              (records.filter Symbol.hasValidRange).map (·.id)).Nodup := by
            rw [keys]
            simpa [invalid] using fresh
          obtain ⟨ended, filled⟩ := ih nextOpened later
          exact ⟨ended, filled.trans (by simp [next, invalid])⟩
      | repeated existing _ valid found _ | duplicate existing _ valid found _ =>
          have new : record.id ∉ store.keys := by
            intro old
            exact (List.nodup_append.1 fresh).2.2 record.id old record.id (by simp [valid]) rfl
          exact absurd (mem_keys_of_get? found) new
      | stored _ valid _ =>
          let next : Store := { store with components := store.components ++ [record.toComponent] }
          have nextOpened : next.isSealed = false := opened
          have keys : next.keys = store.keys ++ [record.id] := by
            simp [next, Store.keys, Symbol.toComponent]
          have later : (next.keys ++
              (records.filter Symbol.hasValidRange).map (·.id)).Nodup := by
            rw [keys, List.append_assoc]
            simpa [valid] using fresh
          obtain ⟨ended, filled⟩ := ih nextOpened later
          exact ⟨ended, filled.trans (by simp [next, valid])⟩

/-- Records can be loaded where no two with valid ranges have the same id. -/
theorem load_of_unique {records : List Symbol}
    (unique : ((records.filter Symbol.hasValidRange).map (·.id)).Nodup) :
    (load records).outcome = .ok {
      components := (records.filter Symbol.hasValidRange).map Symbol.toComponent
      rejected := records.filter fun record => !record.hasValidRange } := by
  have opened : ({} : Store).isSealed = false := rfl
  obtain ⟨ended, filled⟩ := insertMany_of_unique opened unique
  simp only [load, ended, filled, List.nil_append]

/-- Records with valid ranges and different ids can be loaded, and none is rejected. -/
theorem load_of_fresh {records : List Symbol}
    (valid : ∀ record ∈ records, record.hasValidRange = true)
    (unique : (records.map (·.id)).Nodup) :
    (load records).outcome = .ok { components := records.map Symbol.toComponent } := by
  have kept : records.filter Symbol.hasValidRange = records := List.filter_eq_self.2 valid
  have dropped : records.filter (fun record => !record.hasValidRange) = [] := by
    rw [List.filter_eq_nil_iff]
    intro record member
    simp [valid record member]
  rw [load_of_unique (by rwa [kept]), kept, dropped]

/-- Components that are entered anew lose their neighbours. -/
theorem load_toSymbol {components : List Component}
    (canonical : ∀ component ∈ components, component.Canonical)
    (unique : (components.map (·.id)).Nodup) :
    (load (components.map Component.toSymbol)).outcome =
      .ok { components := components.map Component.bare } := by
  have valid : ∀ record ∈ components.map Component.toSymbol, record.hasValidRange = true := by
    intro record member
    obtain ⟨component, inside, rfl⟩ := List.mem_map.1 member
    exact decide_eq_true (canonical component inside).range
  have different : ((components.map Component.toSymbol).map (·.id)).Nodup := by
    simpa [Component.toSymbol, Function.comp_def] using unique
  have stored : (components.map Component.toSymbol).map Symbol.toComponent =
      components.map Component.bare := by
    rw [List.map_map]
    exact List.map_congr_left fun component inside =>
      Component.toComponent_toSymbol (canonical component inside)
  rw [load_of_fresh valid different, stored]

/-- The components in ascending order of id. -/
theorem listed_perm {store : Store} (unique : store.keys.Nodup) :
    (store.ids.filterMap store.get?).Perm store.components := by
  have kept : store.keys.filterMap store.get? = store.components := by
    rw [keys, List.filterMap_map]
    have all : ∀ component ∈ store.components,
        (store.get? ∘ fun component => component.id) component = some component :=
      fun component stored => get?_of_mem unique stored
    rw [List.filterMap_congr all, List.filterMap_some]
  have perm := (ascending_perm store.keys).filterMap store.get?
  rwa [kept] at perm

theorem agrees_of_perm {store other : Store} (perm : store.components.Perm other.components)
    (unique : store.keys.Nodup) : store.agrees other = true := by
  have found : ∀ component ∈ store.components, other.get? component.id = some component := by
    intro component stored
    rw [← get?_eq_of_perm perm unique]
    exact get?_of_mem unique stored
  simp only [agrees, perm.length_eq, Bool.and_eq_true, List.all_eq_true]
  exact ⟨by simp, fun component stored => by simp [found component stored]⟩

end Store

end DepAtlas
