import DepAtlas.Proofs.Adjacency
import DepAtlas.Proofs.InputOrder

/-!
# More references

Further references, wherever they stand among the others, add edges and with them dependencies, and
take none away.  They may change the order in which everything is found and listed.

Still the cycles can only grow together, blocked components stay blocked, and no component becomes
an entry point.  All of this follows from the dependencies, since the results of an analysis are
determined by them: whatever leads somewhere goes on leading there.
-/

namespace DepAtlas

/-! ## Stores with more dependencies -/

namespace Store

/-- Two stores with the same ids, the second of which has all dependencies of the first. -/
structure FewerDependencies (store other : Store) : Prop where
  keys : store.keys = other.keys
  dependsOn : ∀ source target, store.DependsOn source target → other.DependsOn source target

/-- The entry points are the components that depend on nothing. -/
theorem mem_entryPoints_iff {store : Store} (unique : store.keys.Nodup) {id : ComponentId} :
    id ∈ store.entryPoints ↔ id ∈ store.keys ∧ ∀ target, ¬store.DependsOn id target := by
  rw [entryPoints, mem_ascending, List.mem_map]
  constructor
  · rintro ⟨component, listed, rfl⟩
    obtain ⟨stored, free⟩ := List.mem_filter.1 listed
    refine ⟨mem_keys.2 ⟨component, stored, rfl⟩, ?_⟩
    intro target depends
    rw [dependsOn_iff (get?_of_mem unique stored), List.isEmpty_iff.1 free] at depends
    cases depends
  · rintro ⟨known, free⟩
    obtain ⟨component, found⟩ := exists_get? known
    obtain ⟨stored, same⟩ := mem_of_get? found
    refine ⟨component, List.mem_filter.2 ⟨stored, ?_⟩, same⟩
    rw [List.isEmpty_iff, List.eq_nil_iff_forall_not_mem]
    intro target member
    exact free target ((dependsOn_iff found).2 member)

namespace FewerDependencies

variable {store other : Store} (fewer : store.FewerDependencies other)

include fewer

theorem reaches {source target : ComponentId} (reaches : store.Reaches source target) :
    other.Reaches source target :=
  Relation.TransGen.mono fewer.dependsOn source target reaches

theorem leads {source target : ComponentId} (leads : store.Leads source target) :
    other.Leads source target :=
  Relation.ReflTransGen.mono fewer.dependsOn source target leads

theorem leadsToCycle {id : ComponentId} (leads : Schedule.LeadsToCycle store id) :
    Schedule.LeadsToCycle other id := by
  obtain ⟨around, leads, cycle⟩ := leads
  exact ⟨around, fewer.leads leads, fewer.reaches cycle⟩

theorem entryPoints_subset (unique : store.keys.Nodup) :
    other.entryPoints ⊆ store.entryPoints := by
  intro id entry
  obtain ⟨known, free⟩ := (mem_entryPoints_iff (fewer.keys ▸ unique)).1 entry
  refine (mem_entryPoints_iff unique).2 ⟨fewer.keys ▸ known, ?_⟩
  intro target depends
  exact free target (fewer.dependsOn id target depends)

/-- A cycle becomes part of a cycle, and of no other, as its members lie on one cycle only. -/
theorem countP_cycles {cycles others : List (List ComponentId)} (correct : store.AreCycles cycles)
    (correctOther : other.AreCycles others) {members : List ComponentId}
    (member : members ∈ cycles) : others.countP (fun larger => members ⊆ larger) = 1 := by
  obtain ⟨larger, listed, inside⟩ := correct.exists_subset_of_kept correctOther member
    fun id _ target => fewer.dependsOn id target
  obtain ⟨root, rootInside⟩ := List.exists_mem_of_ne_nil members (correct.ne_nil members member)
  have distinctOthers : others.Nodup := correctOther.nodup_toFinset.of_map _
  have only : (others.filter fun larger => members ⊆ larger).Perm [larger] := by
    apply (List.perm_ext_iff_of_nodup (distinctOthers.filter _) (List.nodup_singleton larger)).2
    intro twin
    rw [List.mem_filter, decide_eq_true_iff, List.mem_singleton]
    constructor
    · rintro ⟨twinListed, twinInside⟩
      exact correctOther.eq_of_mem twinListed listed (twinInside rootInside) (inside rootInside)
    · rintro rfl
      exact ⟨listed, inside⟩
  rw [List.countP_eq_length_filter, only.length_eq, List.length_singleton]

end FewerDependencies

end Store

/-! ## Analyses with more dependencies -/

namespace Analysis

/-- What is left of the results of an analysis in another one, which has more dependencies. -/
structure GrowsInto (analysis again : Analysis) : Prop where
  /-- Every cycle is contained in exactly one cycle. -/
  cycles : ∀ members ∈ analysis.graph.cycles,
    again.graph.cycles.countP (fun larger => members ⊆ larger) = 1
  cyclesPresent : analysis.order.cyclesPresent = true → again.order.cyclesPresent = true
  /-- What is blocked, at the end of the processing order, is blocked again. -/
  blocked : ∃ schedule wider, analysis.graph.schedule = .ok schedule ∧
    again.graph.schedule = .ok wider ∧
    analysis.order.order = schedule.emitted ++ schedule.blocked ∧
    again.order.order = wider.emitted ++ wider.blocked ∧ schedule.blocked ⊆ wider.blocked
  entryPoints : again.overview.entryPoints ⊆ analysis.overview.entryPoints
  /-- The same components are stored, and depend on what they depended on. -/
  dependencies : ∀ id, (analysis.dependencies? id = none ↔ again.dependencies? id = none) ∧
    ∀ before after, analysis.dependencies? id = some before →
      again.dependencies? id = some after → before ⊆ after

variable {analysis again : Analysis}

theorem dependencies?_eq_none_iff {id : ComponentId} :
    analysis.dependencies? id = none ↔ id ∉ analysis.graph.store.keys := by
  rw [dependencies?, Option.map_eq_none_iff, component?, Store.get?_eq_none_iff]

theorem dependsOn_iff_of_dependencies? {id target : ComponentId} {dependencies : List ComponentId}
    (known : analysis.dependencies? id = some dependencies) :
    analysis.graph.store.DependsOn id target ↔ target ∈ dependencies := by
  obtain ⟨component, found, rfl⟩ := Option.map_eq_some_iff.1 known
  exact Store.dependsOn_iff found

/-- Of the same store, more edges give more dependencies. -/
theorem Of.fewerDependencies {store : Store} {edges more : List Reference}
    (made : analysis.Of store edges) (remade : again.Of store more)
    (bare : ∀ component ∈ store.components, component.bare = component) (subset : edges ⊆ more) :
    analysis.graph.store.FewerDependencies again.graph.store := by
  refine ⟨made.graph_keys.trans remade.graph_keys.symm, ?_⟩
  intro source target depends
  obtain ⟨edge, member, ends⟩ := (made.dependsOn_iff bare).1 depends
  exact (remade.dependsOn_iff bare).2 ⟨edge, subset member, ends⟩

end Analysis

/-- An analysis with more dependencies, wherever the two come from. -/
theorem Origin.growsInto {origin other : Origin} {analysis again : Analysis}
    (returned : origin.trace.outcome = .ok analysis)
    (returnedAgain : other.trace.outcome = .ok again)
    (fewer : analysis.graph.store.FewerDependencies again.graph.store) :
    analysis.GrowsInto again := by
  have sound := Origin.sound returned
  have soundAgain := Origin.sound returnedAgain
  obtain ⟨schedule, scheduled, order, _⟩ := Origin.schedule returned
  obtain ⟨wider, scheduledAgain, orderAgain, _⟩ := Origin.schedule returnedAgain
  have blocked : schedule.blocked ⊆ wider.blocked := by
    intro id isBlocked
    rw [soundAgain.wellFormed.mem_blocked_iff scheduledAgain]
    exact fewer.leadsToCycle ((sound.wellFormed.mem_blocked_iff scheduled).1 isBlocked)
  constructor
  case cycles => exact fun members => fewer.countP_cycles sound.cycles soundAgain.cycles
  case cyclesPresent =>
    rw [order, orderAgain]
    simp only [Bool.not_eq_true', List.isEmpty_eq_false_iff]
    intro some none
    rw [none] at blocked
    exact some (List.eq_nil_of_subset_nil blocked)
  case blocked =>
    exact ⟨schedule, wider, scheduled, scheduledAgain, by rw [order], by rw [orderAgain], blocked⟩
  case entryPoints =>
    rw [Origin.overview_eq returned, Origin.overview_eq returnedAgain]
    exact fewer.entryPoints_subset sound.wellFormed.store.keys_nodup
  case dependencies =>
    intro id
    refine ⟨?_, ?_⟩
    · rw [Analysis.dependencies?_eq_none_iff, Analysis.dependencies?_eq_none_iff, fewer.keys]
    · intro before after known knownAfter target member
      apply (Analysis.dependsOn_iff_of_dependencies? knownAfter).1
      exact fewer.dependsOn id target ((Analysis.dependsOn_iff_of_dependencies? known).2 member)

/-- When references are added, wherever among the others, the analysis ends with the same fault or
it succeeds again, and what was found grows. -/
theorem analyze_of_sublist (settings : Settings) (records : List Symbol)
    {references more : List Reference} (sublist : references.Sublist more) :
    (∃ fault, (analyze settings records references).outcome = .error fault ∧
      (analyze settings records more).outcome = .error fault) ∨
      ∃ analysis again, (analyze settings records references).outcome = .ok analysis ∧
        (analyze settings records more).outcome = .ok again ∧ analysis.GrowsInto again := by
  cases loaded : (Store.load records).outcome with
  | error fault =>
      exact .inl ⟨fault, analyze_of_load_error settings references loaded,
        analyze_of_load_error settings more loaded⟩
  | ok store =>
      obtain ⟨analysis, returned, made, _⟩ := analyze_of_load settings references loaded
      obtain ⟨again, returnedAgain, remade, _⟩ := analyze_of_load settings more loaded
      have subset := (sublist.filter store.takes).subset
      have fewer := made.fewerDependencies remade (Store.bare_of_load loaded) subset
      exact .inr ⟨analysis, again, returned, returnedAgain,
        @Origin.growsInto (.analyzed _ _ _) (.analyzed _ _ _) _ _ returned returnedAgain fewer⟩

/-- Two cycles that grow together, one of them of a single component, and an entry point that comes
to lie behind them. -/
theorem analyze_of_sublist_merged :
    ∃ records references more analysis again,
      records = [{ id := "a", name := "a", file := "f", startLine := 1, endLine := 1 },
        { id := "b", name := "b", file := "f", startLine := 2, endLine := 2 },
        { id := "c", name := "c", file := "f", startLine := 3, endLine := 3 },
        { id := "d", name := "d", file := "f", startLine := 4, endLine := 4 }] ∧
      references = [⟨"a", "b", .call⟩, ⟨"b", "a", .call⟩, ⟨"c", "c", .call⟩] ∧
      more = [⟨"a", "c", .call⟩, ⟨"a", "b", .call⟩, ⟨"d", "a", .call⟩, ⟨"b", "a", .call⟩,
        ⟨"c", "c", .call⟩, ⟨"c", "b", .call⟩] ∧
      (analyze {} records references).outcome = .ok analysis ∧
      (analyze {} records more).outcome = .ok again ∧
      analysis.graph.cycles = [["a", "b"], ["c"]] ∧ again.graph.cycles = [["a", "c", "b"]] ∧
      analysis.overview.entryPoints = ["d"] ∧ again.overview.entryPoints = [] ∧
      analysis.GrowsInto again := by
  let records : List Symbol :=
    [{ id := "a", name := "a", file := "f", startLine := 1, endLine := 1 },
      { id := "b", name := "b", file := "f", startLine := 2, endLine := 2 },
      { id := "c", name := "c", file := "f", startLine := 3, endLine := 3 },
      { id := "d", name := "d", file := "f", startLine := 4, endLine := 4 }]
  let references : List Reference :=
    [⟨"a", "b", .call⟩, ⟨"b", "a", .call⟩, ⟨"c", "c", .call⟩]
  let more : List Reference :=
    [⟨"a", "c", .call⟩, ⟨"a", "b", .call⟩, ⟨"d", "a", .call⟩, ⟨"b", "a", .call⟩,
      ⟨"c", "c", .call⟩, ⟨"c", "b", .call⟩]
  have sublist : references.Sublist more := by decide
  have before : (analyze {} records references).outcome.toOption.map (fun analysis =>
      (analysis.graph.cycles, analysis.overview.entryPoints)) =
        some ([["a", "b"], ["c"]], ["d"]) := by
    cbv
  have after : (analyze {} records more).outcome.toOption.map (fun analysis =>
      (analysis.graph.cycles, analysis.overview.entryPoints)) =
        some ([["a", "c", "b"]], []) := by
    cbv
  obtain ⟨fault, failed, _⟩ | ⟨analysis, again, returned, returnedAgain, grows⟩ :=
    analyze_of_sublist {} records sublist
  · rw [failed] at before
    cases before
  · rw [returned] at before
    rw [returnedAgain] at after
    obtain ⟨cycles, entryPoints⟩ := Prod.mk.inj (Option.some.inj before)
    obtain ⟨cyclesAgain, entryPointsAgain⟩ := Prod.mk.inj (Option.some.inj after)
    exact ⟨records, references, more, analysis, again, rfl, rfl, rfl, returned, returnedAgain,
      cycles, cyclesAgain, entryPoints, entryPointsAgain, grows⟩

end DepAtlas
