import DepAtlas.Proofs.Differences
import DepAtlas.Proofs.RoundTrip

/-!
# The order of the input

Records and references may be handed over in any order.  As long as no two records that can be
stored have the same id, the order decides in which order components, edges and neighbours are
listed, and with which member a cycle begins.  The processing order, the overview and the cycles as
sets do not change, and nothing differs between the two analyses.

The records alone decide even less: where only they come in another order, the components, the edges
and the cycles are the same.
-/

namespace DepAtlas

/-! ## Cycles as sets -/

/-- The cycles of a store, read as sets, are its classes of components that reach each other. -/
theorem Store.AreCycles.mem_toFinset_iff {store : Store} {cycles : List (List ComponentId)}
    (correct : store.AreCycles cycles) {set : Finset ComponentId} :
    set ∈ cycles.map List.toFinset ↔ ∃ root, store.Reaches root root ∧
      ∀ id, id ∈ set ↔ store.Reaches root id ∧ store.Reaches id root := by
  constructor
  · intro listed
    obtain ⟨members, member, rfl⟩ := List.mem_map.1 listed
    obtain ⟨root, inside⟩ := List.exists_mem_of_ne_nil members (correct.ne_nil members member)
    refine ⟨root, ((correct.mem_iff member inside).1 inside).1, ?_⟩
    intro id
    rw [List.mem_toFinset, correct.mem_iff member inside]
  · rintro ⟨root, around, same⟩
    obtain ⟨members, member, inside⟩ := List.mem_flatten.1 (correct.mem_flatten_iff.2 around)
    refine List.mem_map.2 ⟨members, member, ?_⟩
    ext id
    rw [List.mem_toFinset, correct.mem_iff member inside, same]

theorem Store.AreCycles.nodup_toFinset {store : Store} {cycles : List (List ComponentId)}
    (correct : store.AreCycles cycles) : (cycles.map List.toFinset).Nodup := by
  refine List.pairwise_map.2 (correct.disjoint.imp_of_mem ?_)
  intro first second member _ disjoint same
  obtain ⟨id, inside⟩ := List.exists_mem_of_ne_nil first (correct.ne_nil first member)
  refine disjoint inside (List.mem_toFinset.1 ?_)
  rw [← same]
  exact List.mem_toFinset.2 inside

/-- The cycles of a store are determined as sets. -/
theorem Store.AreCycles.perm_toFinset {store : Store} {cycles others : List (List ComponentId)}
    (correct : store.AreCycles cycles) (correctOthers : store.AreCycles others) :
    (cycles.map List.toFinset).Perm (others.map List.toFinset) := by
  apply (List.perm_ext_iff_of_nodup correct.nodup_toFinset correctOthers.nodup_toFinset).2
  intro set
  rw [correct.mem_toFinset_iff, correctOthers.mem_toFinset_iff]

/-! ## Differences between analyses that are alike -/

namespace Component.Alike

variable {component other : Component} (alike : component.Alike other)

include alike

theorem hasChanged (change : Change) : component.hasChanged other change = false := by
  have bare := alike.bare
  simp only [Component.bare, Component.mk.injEq] at bare
  cases change with
  | location | signature | complexity => simp [Component.hasChanged, bare]
  | dependencies =>
      have same := sameMembers_iff.2 fun _ => alike.dependencies.mem_iff
      rw [Component.hasChanged, same]
      rfl
  | dependents =>
      have same := sameMembers_iff.2 fun _ => alike.dependents.mem_iff
      rw [Component.hasChanged, same]
      rfl

theorem changes : component.changes other = [] := by
  rw [List.eq_nil_iff_forall_not_mem]
  intro change member
  rw [mem_changes, alike.hasChanged change] at member
  cases member

end Component.Alike

namespace Analysis

variable {old new : Analysis}

section Alike

variable (alike : Component.AllAlike old.graph.store.components new.graph.store.components)
  (unique : new.graph.store.keys.Nodup)

include alike

theorem idsWithout_of_alike : old.idsWithout new = [] ∧ new.idsWithout old = [] := by
  have keys := Store.keys_perm_of_alike alike
  constructor <;> rw [List.eq_nil_iff_forall_not_mem] <;> intro id without
  · obtain ⟨held, absent⟩ := mem_idsWithout.1 without
    exact absent (keys.mem_iff.1 held)
  · obtain ⟨held, absent⟩ := mem_idsWithout.1 without
    exact absent (keys.mem_iff.2 held)

include unique

theorem alike_of_mem_shared {before after : Component} (both : (before, after) ∈ shared old new) :
    before.Alike after := by
  obtain ⟨id, found, foundAfter⟩ := mem_shared.1 both
  obtain ⟨twin, twinFound, pair⟩ := Store.exists_get?_of_alike alike unique found
  have same : after = twin := by
    rw [component?, twinFound] at foundAfter
    exact (Option.some.inj foundAfter).symm
  rwa [same]

theorem length_shared : (shared old new).length = old.graph.store.size := by
  have all : ∀ id ∈ old.graph.store.ids, (do
      let before ← old.component? id
      let after ← new.component? id
      return (before, after)).isSome = true := by
    intro id stored
    obtain ⟨before, found⟩ := Store.exists_get? (Store.mem_ids.1 stored)
    obtain ⟨after, foundAfter, _⟩ := Store.exists_get?_of_alike alike unique found
    rw [component?, component?, found, foundAfter]
    rfl
  rw [shared, List.length_filterMap_eq_countP, List.countP_eq_length.2 all, Store.ids_eq,
    (ascending_perm _).length_eq, Store.keys, List.length_map, Store.size]

/-- Nothing differs between two sound analyses of components that are alike. -/
theorem differences_of_alike (soundOld : old.Sound) (soundNew : new.Sound) :
    old.differences new = {
      added := [], removed := [], modified := [], unchanged := old.graph.store.size,
      newCycles := [], resolvedCycles := [] } := by
  have unmodified : ∀ pair ∈ shared old new, pair.1.changes pair.2 = [] := fun pair both =>
    (alike_of_mem_shared alike unique both).changes
  have noneModified : (old.differences new).modified = [] := by
    simp only [differences, List.filter_eq_nil_iff, List.mem_map]
    rintro _ ⟨pair, both, rfl⟩
    simp [unmodified pair both]
  have allUnchanged : (old.differences new).unchanged = old.graph.store.size := by
    simp only [differences, List.countP_map]
    rw [List.countP_eq_length.2, length_shared alike unique]
    intro pair both
    simp [unmodified pair both]
  have noneAdded : (old.differences new).added = [] := (idsWithout_of_alike alike).2
  have noneRemoved : (old.differences new).removed = [] := (idsWithout_of_alike alike).1
  -- The cycles are not compared: where no dependency changed, no cycle can be new or resolved.
  have noneChanged : ∀ id, ¬(old.differences new).Changed id .dependencies := by
    rintro id ⟨modification, member, _⟩
    simp [noneModified] at member
  obtain ⟨noneNew, noneResolved, _⟩ :=
    no_consequences soundOld soundNew noneAdded noneRemoved noneChanged
  have parts : old.differences new = ⟨(old.differences new).added, (old.differences new).removed,
    (old.differences new).modified, (old.differences new).unchanged,
    (old.differences new).newCycles, (old.differences new).resolvedCycles⟩ := rfl
  rw [parts, noneAdded, noneRemoved, noneModified, allUnchanged, noneNew, noneResolved]

end Alike

end Analysis

/-! ## Loading, linking and writing down in another order -/

theorem Store.load_of_perm {records others : List Symbol}
    (unique : ((records.filter Symbol.hasValidRange).map (·.id)).Nodup)
    (perm : records.Perm others) :
    ∃ store other, (load records).outcome = .ok store ∧ (load others).outcome = .ok other ∧
      store.components.Perm other.components ∧ store.rejected.Perm other.rejected := by
  have uniqueOthers : ((others.filter Symbol.hasValidRange).map (·.id)).Nodup :=
    ((perm.filter _).map _).nodup_iff.1 unique
  exact ⟨_, _, load_of_unique unique, load_of_unique uniqueOthers, (perm.filter _).map _,
    perm.filter _⟩

theorem Graph.reordered_ofEdges {store other : Store} (wf : store.WellFormed)
    (components : store.components.Perm other.components) {edges others : List Reference}
    (perm : edges.Perm others) : (ofEdges store edges).Reordered (ofEdges other others) := by
  refine ⟨⟨other.components.map fun component => edges.foldl Component.link component, ?_, ?_⟩, ?_⟩
  · rw [ofEdges, store_linked]
    exact components.map _
  · rw [ofEdges, store_linked, List.forall₂_map_left_iff, List.forall₂_map_right_iff,
      List.forall₂_same]
    intro component stored
    have inside := components.mem_iff.2 stored
    exact Component.alike_linked (wf.dependencies_nodup component inside)
      (wf.dependents_nodup component inside) perm
  · simpa [ofEdges, linked] using perm

/-! ## Two analyses -/

namespace Analysis

/-- What is the same in two analyses whose records and references come in different orders. -/
structure SameResults (analysis again : Analysis) : Prop where
  order : analysis.order = again.order
  overview : analysis.overview = again.overview
  cycles : (analysis.graph.cycles.map List.toFinset).Perm (again.graph.cycles.map List.toFinset)
  rejected : analysis.rejected.Perm again.rejected
  dangling : analysis.dangling.Perm again.dangling
  differences : analysis.differences again = {
    added := [], removed := [], modified := [], unchanged := analysis.graph.store.size,
    newCycles := [], resolvedCycles := [] }

/-- What is the same as well where only the records come in another order. -/
structure SameGraphs (analysis again : Analysis) : Prop where
  edges : analysis.graph.edges = again.graph.edges
  dangling : analysis.dangling = again.dangling
  components : ∀ id, analysis.component? id = again.component? id
  cycles : analysis.graph.cycles = again.graph.cycles
  /-- But for the order of the rejected records the documents are the same. -/
  document : ∀ document, analysis.document = .ok document →
    ∃ rejected, rejected.Perm document.rejected ∧ again.document = .ok { document with rejected }

/-- Rejected records that come in another order are written down in that order. -/
theorem entries_of_perm {records others : List Symbol} {entries : List RejectedEntry}
    (written : Checked.all (records.map Symbol.toRejectedEntry) = .ok entries)
    (perm : records.Perm others) :
    ∃ again, Checked.all (others.map Symbol.toRejectedEntry) = .ok again ∧ again.Perm entries := by
  have restored := Checked.eq_of_all_toRejectedEntry written
  have measured : ∀ record ∈ others, record.complexity.isSome = true := by
    intro record member
    rw [← perm.mem_iff, ← restored] at member
    obtain ⟨entry, _, rfl⟩ := List.mem_map.1 member
    rfl
  obtain ⟨again, rewritten, back⟩ := Checked.all_toRejectedEntry measured
  refine ⟨again, rewritten, (List.map_perm_map_iff RejectedEntry.toSymbol_injective).1 ?_⟩
  rw [back, restored]
  exact perm.symm

namespace Of

variable {analysis again : Analysis} {store other : Store} {edges others : List Reference}

/-- Analyses of the same components and the same edges, in whatever order. -/
theorem sameResults (made : analysis.Of store edges) (remade : again.Of other others)
    (wf : store.WellFormed) (wfOther : other.WellFormed)
    (components : store.components.Perm other.components) (perm : edges.Perm others)
    (settings : analysis.settings = again.settings)
    (rejected : analysis.rejected.Perm again.rejected)
    (dangling : analysis.dangling.Perm again.dangling) : analysis.SameResults again := by
  have wfOver := Graph.wellFormed_ofEdges wf made.taken
  have wfOverOther := Graph.wellFormed_ofEdges wfOther remade.taken
  have reordered := Graph.reordered_ofEdges wf components perm
  have sound := made.surveyed.sound wfOver
  have soundAgain := remade.surveyed.sound wfOverOther
  have alike : Component.AllAlike analysis.graph.store.components
      again.graph.store.components := by
    rw [made.surveyed_components, remade.surveyed_components]
    exact reordered.components
  have unique := soundAgain.wellFormed.store.keys_nodup
  have same := Store.sameDependencies_of_alike alike unique
  refine ⟨?_, ?_, ?_, rejected, dangling, differences_of_alike alike unique sound soundAgain⟩
  -- Order and overview are those of the graphs before they were finished.
  · have ordered := made.surveyed.ordered
    rw [reordered.dependencyOrder wfOver wfOverOther, remade.surveyed.ordered] at ordered
    exact (Except.ok.inj ordered).symm
  · have drawn := made.surveyed.drawn
    rw [reordered.overview wfOver wfOverOther, settings, remade.surveyed.drawn] at drawn
    exact (Except.ok.inj drawn).symm
  · exact (same.areCycles sound.cycles).perm_toFinset soundAgain.cycles

/-- Analyses of the same components, in whatever order, and of the same edges in the same order. -/
theorem sameGraphs (made : analysis.Of store edges) (remade : again.Of other edges)
    (wf : store.WellFormed) (wfOther : other.WellFormed)
    (components : store.components.Perm other.components)
    (settings : analysis.settings = again.settings)
    (rejected : analysis.rejected.Perm again.rejected)
    (dangling : analysis.dangling = again.dangling) : analysis.SameGraphs again := by
  have limits := congrArg Settings.limits settings
  obtain ⟨linked, cycles, order, overview⟩ :=
    made.agrees_of_perm remade components wf wfOther limits
  have unique := made.keys_nodup wf
  have sameEdges : analysis.graph.edges = again.graph.edges := by
    rw [made.graph_edges, remade.graph_edges]
  have found := Store.get?_eq_of_perm linked unique
  refine ⟨sameEdges, dangling, congrFun found, cycles, ?_⟩
  intro document written
  rw [Analysis.document] at written
  cases entered : Checked.all (analysis.rejected.map Symbol.toRejectedEntry) with
  | bad issues =>
      rw [entered] at written
      cases written
  | ok entries =>
      rw [entered] at written
      cases written
      obtain ⟨entriesAgain, rewritten, permuted⟩ := entries_of_perm entered rejected
      refine ⟨entriesAgain, permuted, ?_⟩
      rw [Analysis.document, rewritten, ← Store.ids_eq_of_perm linked, ← found, ← sameEdges,
        ← cycles, ← order, ← overview, ← dangling, ← limits]
      rfl

end Of

end Analysis

/-- Records, no two of which have valid ranges and the same id, can be analysed in any order, and so
can any references.  The processing order, the overview and the cycles as sets are the same, and
nothing differs between the analyses.  Where only the records come in another order, so are the
edges, the components with their neighbours, the cycles with their members in order, and the
documents but for their rejected records. -/
theorem analyze_of_perm (settings : Settings) {records others : List Symbol}
    {references otherReferences : List Reference}
    (unique : ((records.filter Symbol.hasValidRange).map (·.id)).Nodup)
    (permRecords : records.Perm others) (permReferences : references.Perm otherReferences) :
    ∃ analysis again, (analyze settings records references).outcome = .ok analysis ∧
      (analyze settings others otherReferences).outcome = .ok again ∧
      analysis.SameResults again ∧
      (references = otherReferences → analysis.SameGraphs again) := by
  obtain ⟨store, other, loaded, loadedOther, components, rejected⟩ :=
    Store.load_of_perm unique permRecords
  obtain ⟨analysis, returned, made, dangling, rejects, set⟩ :=
    analyze_of_load settings references loaded
  obtain ⟨again, returnedAgain, remade, danglingAgain, rejectsAgain, setAgain⟩ :=
    analyze_of_load settings otherReferences loadedOther
  have wf := (Store.of_load loaded).2
  have wfOther := (Store.of_load loadedOther).2
  have keys := Store.keys_perm components
  rw [← Store.takes_congr keys] at remade
  rw [← Store.dangling?_congr keys] at danglingAgain
  rw [← rejects, ← rejectsAgain] at rejected
  have sameSettings : analysis.settings = again.settings := set.trans setAgain.symm
  refine ⟨analysis, again, returned, returnedAgain, ?_, ?_⟩
  · refine made.sameResults remade wf wfOther components (permReferences.filter _) sameSettings
      rejected ?_
    rw [dangling, danglingAgain]
    exact permReferences.filterMap _
  · rintro rfl
    exact made.sameGraphs remade wf wfOther components sameSettings rejected
      (dangling.trans danglingAgain.symm)

/-- A cycle whose members are found in the one order or the other, beside a record that is rejected
and two references to missing components. -/
theorem analyze_of_perm_reverse :
    ∃ records references analysis again third,
      records = [{ id := "x", name := "x", file := "f", startLine := 2, endLine := 1 },
        { id := "a", name := "a", file := "f", startLine := 1, endLine := 1 },
        { id := "b", name := "b", file := "f", startLine := 2, endLine := 2 },
        { id := "c", name := "c", file := "f", startLine := 3, endLine := 3 }] ∧
      references = [⟨"a", "b", .call⟩, ⟨"a", "c", .call⟩, ⟨"a", "x", .call⟩, ⟨"b", "a", .call⟩,
        ⟨"c", "a", .importing⟩, ⟨"y", "c", .call⟩] ∧
      (analyze {} records references).outcome = .ok analysis ∧
      (analyze {} records.reverse references.reverse).outcome = .ok again ∧
      (analyze {} records.reverse references).outcome = .ok third ∧
      analysis.graph.cycles = [["a", "b", "c"]] ∧ again.graph.cycles = [["a", "c", "b"]] ∧
      analysis.SameResults again ∧ analysis.SameGraphs third := by
  let records : List Symbol :=
    [{ id := "x", name := "x", file := "f", startLine := 2, endLine := 1 },
      { id := "a", name := "a", file := "f", startLine := 1, endLine := 1 },
      { id := "b", name := "b", file := "f", startLine := 2, endLine := 2 },
      { id := "c", name := "c", file := "f", startLine := 3, endLine := 3 }]
  let references : List Reference :=
    [⟨"a", "b", .call⟩, ⟨"a", "c", .call⟩, ⟨"a", "x", .call⟩, ⟨"b", "a", .call⟩,
      ⟨"c", "a", .importing⟩, ⟨"y", "c", .call⟩]
  have unique : ((records.filter Symbol.hasValidRange).map (·.id)).Nodup := by decide
  obtain ⟨analysis, again, returned, returnedAgain, results, _⟩ :=
    analyze_of_perm {} unique (List.reverse_perm records).symm (List.reverse_perm references).symm
  obtain ⟨same, third, returnedSame, returnedThird, _, graphs⟩ :=
    analyze_of_perm {} unique (List.reverse_perm records).symm (.refl references)
  obtain rfl : analysis = same := Except.ok.inj (returned.symm.trans returnedSame)
  have cycles : (analyze {} records references).outcome.toOption.map (·.graph.cycles) =
      some [["a", "b", "c"]] := by
    cbv
  have cyclesAgain : (analyze {} records.reverse references.reverse).outcome.toOption.map
      (·.graph.cycles) = some [["a", "c", "b"]] := by
    cbv
  rw [returned] at cycles
  rw [returnedAgain] at cyclesAgain
  exact ⟨records, references, analysis, again, third, rfl, rfl, returned, returnedAgain,
    returnedThird, Option.some.inj cycles, Option.some.inj cyclesAgain, results, graphs rfl⟩

end DepAtlas
