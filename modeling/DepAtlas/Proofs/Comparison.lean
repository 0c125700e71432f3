import DepAtlas.Proofs.InputOrder

/-!
# What a comparison accounts for

A comparison of two analyses puts every component of either into one group: it was added, removed or
modified, or it is unchanged.  Of the cycles it lists those that have no counterpart with the same
members, each of them once.

The comparison in the other direction says the same with the roles of the two analyses exchanged.
-/

namespace DepAtlas

/-! ## Components that both analyses hold -/

namespace Component

theorem hasChanged_comm (before after : Component) (change : Change) :
    before.hasChanged after change = after.hasChanged before change := by
  cases change with
  | location | signature | complexity => simp only [hasChanged, bne_comm]
  | dependencies | dependents => simp only [hasChanged, sameMembers, Bool.and_comm]

theorem changes_comm (before after : Component) : before.changes after = after.changes before := by
  have same : before.hasChanged after = after.hasChanged before := by
    funext change
    exact before.hasChanged_comm after change
  rw [changes, changes, same]

end Component

namespace Analysis

variable {old new : Analysis}

/-- The ids that both analyses hold, in ascending order. -/
def sharedIds (old new : Analysis) : List ComponentId :=
  old.graph.store.ids.filter fun id => new.graph.store.contains id

/-- The two states of a component that both analyses hold. -/
def states? (old new : Analysis) (id : ComponentId) : Option (Component × Component) := do
  let before ← old.component? id
  let after ← new.component? id
  return (before, after)

theorem mem_sharedIds {id : ComponentId} :
    id ∈ sharedIds old new ↔ id ∈ old.graph.store.keys ∧ id ∈ new.graph.store.keys := by
  simp only [sharedIds, List.mem_filter, Store.mem_ids, Store.contains_iff]

theorem states?_of_mem {id : ComponentId} (both : id ∈ sharedIds old new) :
    ∃ before after, old.component? id = some before ∧ new.component? id = some after ∧
      states? old new id = some (before, after) := by
  obtain ⟨known, knownAfter⟩ := mem_sharedIds.1 both
  obtain ⟨before, found⟩ := Store.exists_get? known
  obtain ⟨after, foundAfter⟩ := Store.exists_get? knownAfter
  have states : states? old new id = some (before, after) := by
    rw [states?, component?, component?, found, foundAfter]
    rfl
  exact ⟨before, after, found, foundAfter, states⟩

/-- Nothing but the ids that both analyses hold has two states. -/
theorem shared_eq (old new : Analysis) :
    shared old new = (sharedIds old new).filterMap (states? old new) := by
  rw [shared, sharedIds, List.filterMap_filter]
  apply List.filterMap_congr
  intro id _
  split
  next => rfl
  next absent =>
    -- The list of shared ids leaves out what has no second state anyway.
    have missing : new.component? id = none := by
      rwa [Store.contains_iff, ← Store.get?_eq_none_iff] at absent
    rw [missing]
    cases old.component? id <;> rfl

theorem map_id_shared (old new : Analysis) :
    (shared old new).map (fun pair => pair.1.id) = sharedIds old new := by
  rw [shared_eq, List.map_filterMap]
  have same : ∀ id ∈ sharedIds old new,
      (states? old new id).map (fun pair => pair.1.id) = some id := by
    intro id both
    obtain ⟨before, after, found, _, states⟩ := states?_of_mem both
    rw [states, Option.map_some, (Store.mem_of_get? found).2]
  rw [List.filterMap_congr same, List.filterMap_some]

theorem sharedIds_strict (unique : old.graph.store.keys.Nodup) :
    (sharedIds old new).Pairwise (· < ·) :=
  (ascending_strict unique).filter _

theorem sharedIds_comm (unique : old.graph.store.keys.Nodup)
    (uniqueNew : new.graph.store.keys.Nodup) : sharedIds new old = sharedIds old new := by
  apply eq_of_strict (sharedIds_strict uniqueNew) (sharedIds_strict unique)
  intro id
  rw [mem_sharedIds, mem_sharedIds, and_comm]

theorem shared_comm (unique : old.graph.store.keys.Nodup)
    (uniqueNew : new.graph.store.keys.Nodup) :
    shared new old = (shared old new).map Prod.swap := by
  rw [shared_eq, shared_eq, sharedIds_comm unique uniqueNew, List.map_filterMap]
  apply List.filterMap_congr
  intro id _
  rw [states?, states?]
  cases old.component? id <;> cases new.component? id <;> rfl

/-- What every shared component is compared to. -/
def compared (old new : Analysis) : List Modification :=
  (shared old new).map fun pair => ⟨pair.1.id, pair.1.changes pair.2⟩

theorem modified_eq (old new : Analysis) : (old.differences new).modified =
    (compared old new).filter fun modification => !modification.changes.isEmpty := rfl

theorem unchanged_eq (old new : Analysis) : (old.differences new).unchanged =
    (compared old new).countP fun modification => modification.changes.isEmpty := rfl

theorem compared_comm (unique : old.graph.store.keys.Nodup)
    (uniqueNew : new.graph.store.keys.Nodup) : compared new old = compared old new := by
  rw [compared, compared, shared_comm unique uniqueNew, List.map_map]
  apply List.map_congr_left
  rintro ⟨before, after⟩ both
  obtain ⟨id, found, foundAfter⟩ := mem_shared.1 both
  have same : after.id = before.id :=
    (Store.mem_of_get? foundAfter).2.trans (Store.mem_of_get? found).2.symm
  simp only [Function.comp_apply, Prod.fst_swap, Prod.snd_swap, same, after.changes_comm before]

/-! ## Every component in one group -/

theorem map_id_compared (old new : Analysis) :
    (compared old new).map (·.id) = sharedIds old new := by
  rw [← map_id_shared, compared, List.map_map]
  rfl

theorem modified_ids_sublist (old new : Analysis) :
    ((old.differences new).modified.map (·.id)).Sublist (sharedIds old new) := by
  rw [← map_id_compared, modified_eq]
  exact List.filter_sublist.map _

theorem length_modified_add_unchanged (old new : Analysis) :
    (old.differences new).modified.length + (old.differences new).unchanged =
      (sharedIds old new).length := by
  have split := List.length_eq_countP_add_countP
    (fun modification : Modification => modification.changes.isEmpty) (l := compared old new)
  rw [modified_eq, unchanged_eq, ← List.countP_eq_length_filter, ← map_id_compared,
    List.length_map]
  simp only [Bool.not_eq_true, Bool.decide_eq_false] at split
  omega

theorem length_sharedIds_add_idsWithout (old new : Analysis) :
    (sharedIds old new).length + (old.idsWithout new).length = old.graph.store.size := by
  have split := List.length_eq_countP_add_countP
    (fun id => new.graph.store.contains id) (l := old.graph.store.ids)
  have size : old.graph.store.ids.length = old.graph.store.size := by
    rw [Store.ids_eq, (ascending_perm _).length_eq, Store.keys, List.length_map, Store.size]
  simp only [Bool.not_eq_true, Bool.decide_eq_false] at split
  rw [sharedIds, idsWithout, ← List.countP_eq_length_filter, ← List.countP_eq_length_filter]
  omega

theorem mem_modified_ids {id : ComponentId} :
    id ∈ (old.differences new).modified.map (·.id) ↔
      ∃ before after, old.component? id = some before ∧ new.component? id = some after ∧
        before.changes after ≠ [] := by
  constructor
  · intro member
    obtain ⟨modification, listed, rfl⟩ := List.mem_map.1 member
    rw [modified_eq, List.mem_filter] at listed
    obtain ⟨⟨before, after⟩, both, rfl⟩ := List.mem_map.1 listed.1
    obtain ⟨id, found, foundAfter⟩ := mem_shared.1 both
    obtain rfl := (Store.mem_of_get? found).2
    exact ⟨before, after, found, foundAfter, by simpa using listed.2⟩
  · rintro ⟨before, after, found, foundAfter, changed⟩
    obtain rfl := (Store.mem_of_get? found).2
    refine List.mem_map.2 ⟨⟨before.id, before.changes after⟩, ?_, rfl⟩
    rw [modified_eq, List.mem_filter]
    exact ⟨List.mem_map.2 ⟨(before, after), mem_shared.2 ⟨_, found, foundAfter⟩, rfl⟩,
      by simpa using changed⟩

end Analysis

/-! ## Cycles without a counterpart -/

/-- The cycles of a list that have no counterpart with the same members in another list, each of
them once and in order. -/
structure AreUnmatched (listed cycles others : List (List ComponentId)) : Prop where
  mem_iff : ∀ cycle, cycle ∈ listed ↔
    cycle ∈ cycles ∧ ∀ twin ∈ others, twin.toFinset ≠ cycle.toFinset
  sublist : listed.Sublist cycles
  nodup : (listed.map List.toFinset).Nodup

theorem Store.AreCycles.areUnmatched {store : Store} {cycles : List (List ComponentId)}
    (correct : store.AreCycles cycles) (others : List (List ComponentId)) :
    AreUnmatched (cyclesWithout cycles others) cycles others := by
  have sublist : (cyclesWithout cycles others).Sublist cycles := by
    rw [cyclesWithout, correct.distinctCycles_eq]
    exact List.filter_sublist
  constructor
  case mem_iff =>
    intro cycle
    rw [correct.mem_cyclesWithout]
    simp only [ne_eq, Finset.ext_iff, List.mem_toFinset, iff_comm]
  case sublist => exact sublist
  case nodup => exact correct.nodup_toFinset.sublist (sublist.map _)

/-! ## Both directions -/

namespace Differences

/-- The differences with the roles of the two analyses exchanged. -/
def reversed (differences : Differences) : Differences where
  added := differences.removed
  removed := differences.added
  modified := differences.modified
  unchanged := differences.unchanged
  newCycles := differences.resolvedCycles
  resolvedCycles := differences.newCycles

/-- Differences that put every component of two analyses into one group, and list every cycle
without a counterpart once. -/
structure AccountsFor (differences : Differences) (old new : Analysis) : Prop where
  mem_added : ∀ id, id ∈ differences.added ↔
    id ∈ new.graph.store.keys ∧ id ∉ old.graph.store.keys
  mem_removed : ∀ id, id ∈ differences.removed ↔
    id ∈ old.graph.store.keys ∧ id ∉ new.graph.store.keys
  mem_modified : ∀ id, id ∈ differences.modified.map (·.id) ↔
    ∃ before after, old.component? id = some before ∧ new.component? id = some after ∧
      before.changes after ≠ []
  added_strict : differences.added.Pairwise (· < ·)
  removed_strict : differences.removed.Pairwise (· < ·)
  modified_strict : (differences.modified.map (·.id)).Pairwise (· < ·)
  added_removed : differences.added.Disjoint differences.removed
  added_modified : differences.added.Disjoint (differences.modified.map (·.id))
  removed_modified : differences.removed.Disjoint (differences.modified.map (·.id))
  size_new : differences.added.length + differences.modified.length + differences.unchanged =
    new.graph.store.size
  size_old : differences.removed.length + differences.modified.length + differences.unchanged =
    old.graph.store.size
  newCycles : AreUnmatched differences.newCycles new.graph.cycles old.graph.cycles
  resolvedCycles : AreUnmatched differences.resolvedCycles old.graph.cycles new.graph.cycles

end Differences

namespace Analysis.Sound

variable {old new : Analysis}

theorem accountsFor (soundOld : old.Sound) (soundNew : new.Sound) :
    (old.differences new).AccountsFor old new := by
  have unique := soundOld.wellFormed.store.keys_nodup
  have uniqueNew := soundNew.wellFormed.store.keys_nodup
  have both : ∀ id ∈ (old.differences new).modified.map (·.id),
      id ∈ old.graph.store.keys ∧ id ∈ new.graph.store.keys :=
    fun id member => mem_sharedIds.1 ((modified_ids_sublist old new).subset member)
  have split := length_modified_add_unchanged old new
  constructor
  case mem_added => exact fun id => mem_idsWithout
  case mem_removed => exact fun id => mem_idsWithout
  case mem_modified => exact fun id => mem_modified_ids
  case added_strict => exact (ascending_strict uniqueNew).filter _
  case removed_strict => exact (ascending_strict unique).filter _
  case modified_strict => exact (sharedIds_strict unique).sublist (modified_ids_sublist old new)
  case added_removed =>
    intro id added removed
    exact (mem_idsWithout.1 added).2 (mem_idsWithout.1 removed).1
  case added_modified =>
    intro id added modified
    exact (mem_idsWithout.1 added).2 (both id modified).1
  case removed_modified =>
    intro id removed modified
    exact (mem_idsWithout.1 removed).2 (both id modified).2
  case size_new =>
    have sizes := length_sharedIds_add_idsWithout new old
    rw [sharedIds_comm unique uniqueNew] at sizes
    have added : (old.differences new).added = new.idsWithout old := rfl
    rw [added]
    omega
  case size_old =>
    have sizes := length_sharedIds_add_idsWithout old new
    have removed : (old.differences new).removed = old.idsWithout new := rfl
    rw [removed]
    omega
  case newCycles => exact soundNew.cycles.areUnmatched old.graph.cycles
  case resolvedCycles => exact soundOld.cycles.areUnmatched new.graph.cycles

theorem differences_comm (soundOld : old.Sound) (soundNew : new.Sound) :
    new.differences old = (old.differences new).reversed := by
  have same := compared_comm soundOld.wellFormed.store.keys_nodup
    soundNew.wellFormed.store.keys_nodup
  have modified : (new.differences old).modified = (old.differences new).modified := by
    rw [modified_eq, modified_eq, same]
  have unchanged : (new.differences old).unchanged = (old.differences new).unchanged := by
    rw [unchanged_eq, unchanged_eq, same]
  rw [Differences.reversed, ← modified, ← unchanged]
  rfl

end Analysis.Sound

/-- The differences between two analyses account for all components and cycles: a component of
either is added, removed, modified or unchanged, the first three in strictly ascending order and
apart from each other, and a cycle is listed if the other analysis has none with the same members.
The differences in the other direction are the same with the roles exchanged. -/
theorem differences_account_and_reverse {oldOrigin newOrigin : Origin} {old new : Analysis}
    (oldReturned : oldOrigin.trace.outcome = .ok old)
    (newReturned : newOrigin.trace.outcome = .ok new) :
    (old.differences new).AccountsFor old new ∧
      new.differences old = (old.differences new).reversed := by
  have soundOld := Origin.sound oldReturned
  have soundNew := Origin.sound newReturned
  exact ⟨soundOld.accountsFor soundNew, soundOld.differences_comm soundNew⟩

/-- One component goes and takes its cycle with it, one comes and closes another, two are modified
and one stays as it is. -/
theorem differences_account_and_reverse_mixed :
    ∃ before after old new,
      before = [{ id := "a", name := "a", file := "f", startLine := 1, endLine := 1 },
        { id := "b", name := "b", file := "f", startLine := 2, endLine := 2 },
        { id := "c", name := "c", file := "f", startLine := 3, endLine := 3 },
        { id := "u", name := "u", file := "f", startLine := 4, endLine := 4 }] ∧
      after = [{ id := "b", name := "b", file := "f", startLine := 2, endLine := 2 },
        { id := "c", name := "c", file := "f", startLine := 3, endLine := 5 },
        { id := "d", name := "d", file := "f", startLine := 6, endLine := 6 },
        { id := "u", name := "u", file := "f", startLine := 4, endLine := 4 }] ∧
      (analyze {} before [⟨"a", "b", .call⟩, ⟨"b", "a", .call⟩]).outcome = .ok old ∧
      (analyze {} after [⟨"c", "d", .call⟩, ⟨"d", "c", .call⟩]).outcome = .ok new ∧
      new.differences old =
        { added := ["a"]
          removed := ["d"]
          modified := [⟨"b", [.dependencies, .dependents]⟩,
            ⟨"c", [.location, .dependencies, .dependents]⟩]
          unchanged := 1
          newCycles := [["a", "b"]]
          resolvedCycles := [["c", "d"]] } ∧
      (old.differences new).AccountsFor old new := by
  let before : List Symbol :=
    [{ id := "a", name := "a", file := "f", startLine := 1, endLine := 1 },
      { id := "b", name := "b", file := "f", startLine := 2, endLine := 2 },
      { id := "c", name := "c", file := "f", startLine := 3, endLine := 3 },
      { id := "u", name := "u", file := "f", startLine := 4, endLine := 4 }]
  let after : List Symbol :=
    [{ id := "b", name := "b", file := "f", startLine := 2, endLine := 2 },
      { id := "c", name := "c", file := "f", startLine := 3, endLine := 5 },
      { id := "d", name := "d", file := "f", startLine := 6, endLine := 6 },
      { id := "u", name := "u", file := "f", startLine := 4, endLine := 4 }]
  have evaluated :
      ((analyze {} before [⟨"a", "b", .call⟩, ⟨"b", "a", .call⟩]).outcome.toOption.bind fun old =>
        (analyze {} after [⟨"c", "d", .call⟩, ⟨"d", "c", .call⟩]).outcome.toOption.map fun new =>
          old.differences new) =
      some
        { added := ["d"]
          removed := ["a"]
          modified := [⟨"b", [.dependencies, .dependents]⟩,
            ⟨"c", [.location, .dependencies, .dependents]⟩]
          unchanged := 1
          newCycles := [["c", "d"]]
          resolvedCycles := [["a", "b"]] } := by
    cbv
  obtain ⟨old, knownOld, rest⟩ := Option.bind_eq_some_iff.1 evaluated
  obtain ⟨new, knownNew, differences⟩ := Option.map_eq_some_iff.1 rest
  have oldReturned := Traced.outcome_of_toOption knownOld
  have newReturned := Traced.outcome_of_toOption knownNew
  obtain ⟨accounts, reversed⟩ := @differences_account_and_reverse (.analyzed {} before _)
    (.analyzed {} after _) old new oldReturned newReturned
  rw [differences] at reversed
  exact ⟨before, after, old, new, rfl, rfl, oldReturned, newReturned, reversed, accounts⟩

end DepAtlas
