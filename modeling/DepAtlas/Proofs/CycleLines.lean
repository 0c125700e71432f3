import DepAtlas.Proofs.CycleSearch.DepthFirst
import DepAtlas.Proofs.CycleSearch.Recursion
import DepAtlas.Proofs.MapSections

/-!
# The lines of cycles

A map shows a cycle as a chain of names that ends with the first one again.  The names are those of
all components that lie on closed walks with each other, in the order in which the search came upon
them.  That need not be a walk: where a component has no dependency among those behind it, the next
one is a dependency of a component further in front.

A chain is a closed walk where no component on it depends on two others.
-/

namespace DepAtlas

theorem Origin.isDepthFirst {origin : Origin} {analysis : Analysis}
    (returned : origin.trace.outcome = .ok analysis) {members : List ComponentId}
    (member : members ∈ analysis.graph.cycles) :
    analysis.graph.store.IsDepthFirst members := by
  obtain ⟨store, edges, wf, made, _⟩ := Origin.made returned
  have finished := made.surveyed.finished
  simp only at finished
  have ordered := (Graph.wellFormed_ofEdges wf made.taken).depthFirst made.surveyed.found member
  rw [finished]
  exact ((Graph.ofEdges store edges).sameDependencies_finished analysis.graph.cycles).isDepthFirst
    ordered

/-- The cycles of an analysis are those of the recursive search over its graph. -/
theorem Origin.recursiveSearch {origin : Origin} {analysis : Analysis}
    (returned : origin.trace.outcome = .ok analysis) :
    analysis.graph.cycles = analysis.graph.store.recursiveSearch.found ∧
      analysis.graph.store.recursiveSearch.reached.Nodup := by
  obtain ⟨store, edges, wf, made, _⟩ := Origin.made returned
  have searched := made.surveyed.found
  have finished := made.surveyed.finished
  simp only at finished
  rw [(Graph.wellFormed_ofEdges wf made.taken).findCycles_eq] at searched
  -- A finished graph has other cycles and a seal, which the search does not look at.
  have same : analysis.graph.store.recursiveSearch =
      (Graph.ofEdges store edges).store.recursiveSearch := by
    rw [finished]
    rfl
  refine ⟨?_, (Origin.sound returned).wellFormed.nodup_reached⟩
  rw [same]
  exact (Except.ok.inj searched).symm

/-- What holds of a cycle, listed as a map shows it. -/
structure Store.IsCycleChain (store : Store) (members : List ComponentId) : Prop where
  ne_nil : members ≠ []
  nodup : members.Nodup
  /-- The members are in the order in which the recursive search reaches them. -/
  discovered : members.Sublist store.recursiveSearch.reached
  /-- The members are the components that reach each other. -/
  mem_iff : ∀ source ∈ members, ∀ target, target ∈ members ↔
    store.Reaches source target ∧ store.Reaches target source
  /-- A member that depends on anything behind it depends on the next one. -/
  next : ∀ front id next back, members = front ++ id :: next :: back →
    ∀ target ∈ next :: back, store.DependsOn id target → store.DependsOn id next
  /-- In any case the next one is a dependency of a member in front of it. -/
  earlier : ∀ front next back, members = front ++ next :: back → front ≠ [] →
    ∃ source ∈ front, store.DependsOn source next
  /-- Without branches the chain is a closed walk. -/
  closed : (∀ source ∈ members, ∀ target ∈ members, ∀ other ∈ members,
    store.DependsOn source target → store.DependsOn source other → target = other) →
      (members ++ members.take 1).IsChain store.DependsOn

theorem Origin.isCycleChain {origin : Origin} {analysis : Analysis}
    (returned : origin.trace.outcome = .ok analysis) {members : List ComponentId}
    (member : members ∈ analysis.graph.cycles) :
    analysis.graph.store.IsCycleChain members := by
  have cycles := (Origin.sound returned).cycles
  have ordered := Origin.isDepthFirst returned member
  have nodup := (List.nodup_flatten.1 cycles.nodup).1 members member
  have part : ∀ source ∈ members, ∀ target, target ∈ members ↔
      analysis.graph.store.Reaches source target ∧ analysis.graph.store.Reaches target source :=
    fun source inside target => cycles.mem_iff member inside
  constructor
  case ne_nil => exact cycles.ne_nil members member
  case nodup => exact nodup
  case discovered =>
    rw [(Origin.recursiveSearch returned).1] at member
    exact (Origin.sound returned).wellFormed.sublist_reached member
  case mem_iff => exact part
  case next =>
    intro front id next back split target later depends
    exact ordered.dependsOn_next split later depends
  case earlier =>
    intro front next back split some
    exact ordered.exists_source split some
  case closed =>
    intro branchless
    exact ordered.isChain_of_branchless nodup part branchless

/-- A line that shows a chain of components by name. -/
def Analysis.ShowsChain (analysis : Analysis) (members : List ComponentId) (line : String) : Prop :=
  ∃ names, analysis.namesOf members = .ok names ∧
    line = "  " ++ " -> ".intercalate (names ++ names.take 1)

/-- A section under its heading, with an empty line behind it; nothing, where it has no lines. -/
def headed (heading : String) (lines : List String) : List String :=
  if lines.isEmpty then [] else [heading] ++ lines ++ [""]

/-- The section of the cycles has a line for each cycle that the depth-first search finds.  The line
lists all components that lie on closed walks with each other, in the order in which the search
reaches them, none of them twice, and the first one again.  So behind a component
with dependencies further on comes one of them, behind any other comes a dependency of a component
further in front, and the line as a whole is a closed walk where no component on it depends on two
others. -/
theorem cycleChains_of_map {origin : Origin} {analysis : Analysis}
    (returned : origin.trace.outcome = .ok analysis) :
    ∃ lines, analysis.cycleLines = .ok (headed "Cycles:" lines) ∧
      analysis.graph.cycles = analysis.graph.store.recursiveSearch.found ∧
      analysis.graph.store.recursiveSearch.reached.Nodup ∧
      List.Forall₂ (fun members line => analysis.ShowsChain members line ∧
        analysis.graph.store.IsCycleChain members) analysis.graph.cycles lines ∧
      ∀ options settings map, analysis.mapLines options settings = .ok map →
        ∃ front back, map = front ++ headed "Cycles:" lines ++ back := by
  obtain ⟨_, shown⟩ := (Origin.idsStored returned).exists_cycleLines
  obtain ⟨lines, drawn, ended⟩ := exists_of_bind shown
  cases ended
  have ⟨cycles, unique⟩ := Origin.recursiveSearch returned
  refine ⟨lines, shown, cycles, unique, ?_, ?_⟩
  · refine forall₂_of_mapM ?_ drawn
    intro members member line shows
    obtain ⟨names, named, ended⟩ := exists_of_bind shows
    cases ended
    exact ⟨⟨names, named, rfl⟩, Origin.isCycleChain returned member⟩
  · intro options settings map ended
    obtain ⟨sections, draws, rfl⟩ := Analysis.exists_draws ended
    have same := draws.cycles
    rw [shown] at same
    rw [Analysis.laidOut, ← Except.ok.inj same, List.append_assoc _ sections.order sections.edges]
    exact ⟨_, _, rfl⟩

/-- Two walks lead from one component to another, and only the longer one passes through a third. -/
theorem exists_parting :
    ∃ analysis,
      (analyze {} [{ id := "a", name := "a", file := "f", startLine := 1, endLine := 1 },
        { id := "b", name := "b", file := "f", startLine := 2, endLine := 2 },
        { id := "c", name := "c", file := "f", startLine := 3, endLine := 3 }]
        [⟨"a", "b", .call⟩, ⟨"a", "c", .call⟩, ⟨"b", "a", .call⟩,
          ⟨"c", "b", .call⟩]).outcome = .ok analysis ∧
      analysis.graph.cycles = [["a", "b", "c"]] ∧
      analysis.cycleLines = .ok ["Cycles:", "  a -> b -> c -> a", ""] ∧
      analysis.dependencies? "b" = some ["a"] := by
  have evaluated : (analyze {} [{ id := "a", name := "a", file := "f", startLine := 1, endLine := 1 },
        { id := "b", name := "b", file := "f", startLine := 2, endLine := 2 },
        { id := "c", name := "c", file := "f", startLine := 3, endLine := 3 }]
        [⟨"a", "b", .call⟩, ⟨"a", "c", .call⟩, ⟨"b", "a", .call⟩,
          ⟨"c", "b", .call⟩]).outcome.toOption.map
        (fun analysis => (analysis.graph.cycles, analysis.cycleLines, analysis.dependencies? "b")) =
      some ([["a", "b", "c"]], .ok ["Cycles:", "  a -> b -> c -> a", ""], some ["a"]) := by
    cbv
  obtain ⟨analysis, known, values⟩ := Option.map_eq_some_iff.1 evaluated
  simp only [Prod.mk.injEq] at values
  exact ⟨analysis, Traced.outcome_of_toOption known, values⟩

theorem cycleChains_of_map_parting :
    ∃ analysis,
      (analyze {} [{ id := "a", name := "a", file := "f", startLine := 1, endLine := 1 },
        { id := "b", name := "b", file := "f", startLine := 2, endLine := 2 },
        { id := "c", name := "c", file := "f", startLine := 3, endLine := 3 }]
        [⟨"a", "b", .call⟩, ⟨"a", "c", .call⟩, ⟨"b", "a", .call⟩,
          ⟨"c", "b", .call⟩]).outcome = .ok analysis ∧
      analysis.cycleLines = .ok ["Cycles:", "  a -> b -> c -> a", ""] ∧
      analysis.graph.store.IsCycleChain ["a", "b", "c"] ∧
      analysis.graph.store.recursiveSearch.reached.Nodup ∧
      ∃ line, analysis.ShowsChain ["a", "b", "c"] line := by
  obtain ⟨analysis, returned, cycles, shown, _⟩ := exists_parting
  obtain ⟨lines, _, _, unique, chains, _⟩ :=
    @cycleChains_of_map (.analyzed _ _ _) analysis returned
  rw [cycles] at chains
  obtain ⟨line, _, ⟨shows, chain⟩, _⟩ := List.forall₂_cons_left_iff.1 chains
  exact ⟨analysis, returned, shown, chain, unique, line, shows⟩

/-- The second component does not depend on the third, which is shown behind it. -/
theorem cycleLines_not_walk :
    ∃ analysis,
      (analyze {} [{ id := "a", name := "a", file := "f", startLine := 1, endLine := 1 },
        { id := "b", name := "b", file := "f", startLine := 2, endLine := 2 },
        { id := "c", name := "c", file := "f", startLine := 3, endLine := 3 }]
        [⟨"a", "b", .call⟩, ⟨"a", "c", .call⟩, ⟨"b", "a", .call⟩,
          ⟨"c", "b", .call⟩]).outcome = .ok analysis ∧
      analysis.cycleLines = .ok ["Cycles:", "  a -> b -> c -> a", ""] ∧
      ¬analysis.graph.store.DependsOn "b" "c" := by
  obtain ⟨analysis, returned, _, shown, dependencies⟩ := exists_parting
  refine ⟨analysis, returned, shown, ?_⟩
  rw [Analysis.dependsOn_iff_of_dependencies? dependencies]
  decide

end DepAtlas
