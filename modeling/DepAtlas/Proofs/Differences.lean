import DepAtlas.Differences
import DepAtlas.Proofs.Soundness

/-!
# What differences go back to

A cycle that is in one analysis only has a member whose dependencies are not the same in the other,
or else the other analysis has a larger cycle around it, which is in that one only.  The set of
dependents of a component changes with the dependencies of others.

The main statement is that every consequence among the differences of two analyses has its cause
among the same differences.
-/

namespace DepAtlas

/-! ## Comparing cycles -/

/-- Cycles no two of which have the same members are all entered. -/
theorem foldl_enterCycle {start cycles : List (List ComponentId)}
    (different : (start ++ cycles).Pairwise fun first second =>
      sameMembers second first = false) :
    cycles.foldl enterCycle start = start ++ cycles := by
  induction cycles generalizing start with
  | nil => simp
  | cons cycle cycles ih =>
      have fresh : start.any (sameMembers cycle) = false := by
        rw [List.any_eq_false]
        intro other member
        simpa using (List.pairwise_append.1 different).2.2 other member cycle (by simp)
      have entered : enterCycle start cycle = start ++ [cycle] := by
        rw [enterCycle, fresh]
        rfl
      rw [List.foldl_cons, entered, ih]
      · simp
      · simpa using different

namespace Store.AreCycles

variable {store other : Store} {cycles others : List (List ComponentId)}

theorem distinctCycles_eq (correct : store.AreCycles cycles) : distinctCycles cycles = cycles := by
  have apart : cycles.Pairwise fun first second => sameMembers second first = false := by
    refine correct.disjoint.imp_of_mem ?_
    intro first second _ member disjoint
    obtain ⟨id, inside⟩ := List.exists_mem_of_ne_nil second (correct.ne_nil second member)
    rw [Bool.eq_false_iff, ne_eq, sameMembers_iff]
    intro same
    exact disjoint ((same id).1 inside) inside
  exact foldl_enterCycle (by simpa using apart)

theorem mem_cyclesWithout (correct : store.AreCycles cycles) {cycle : List ComponentId} :
    cycle ∈ cyclesWithout cycles others ↔
      cycle ∈ cycles ∧ ∀ twin ∈ others, ¬∀ id, id ∈ cycle ↔ id ∈ twin := by
  simp only [cyclesWithout, correct.distinctCycles_eq, List.mem_filter, Bool.not_eq_true',
    List.any_eq_false, sameMembers_iff]

/-- Within a cycle whose members keep their dependencies, ways lead where they led. -/
theorem reaches_of_kept (correct : store.AreCycles cycles) {members : List ComponentId}
    (member : members ∈ cycles)
    (kept : ∀ id ∈ members, ∀ target, store.DependsOn id target → other.DependsOn id target)
    {source target : ComponentId} (inside : source ∈ members) (insideTarget : target ∈ members) :
    other.Reaches source target := by
  have reaches := ((correct.mem_iff member inside).1 insideTarget).1
  -- Whatever lies on the way from one member to another is a member, and keeps its dependencies.
  induction reaches using Relation.TransGen.head_induction_on with
  | single depends => exact .single (kept _ inside _ depends)
  | head depends reaches ih =>
      have back := ((correct.mem_iff member insideTarget).1 inside).1
      have next := (correct.mem_iff member inside).2 ⟨.single depends, reaches.trans back⟩
      exact .head (kept _ inside _ depends) (ih next)

/-- A cycle whose members keep their dependencies is part of a cycle again. -/
theorem exists_subset_of_kept (correct : store.AreCycles cycles)
    (correctOther : other.AreCycles others) {members : List ComponentId}
    (member : members ∈ cycles)
    (kept : ∀ id ∈ members, ∀ target, store.DependsOn id target → other.DependsOn id target) :
    ∃ larger ∈ others, members ⊆ larger := by
  obtain ⟨root, inside⟩ := List.exists_mem_of_ne_nil members (correct.ne_nil members member)
  have around := correct.reaches_of_kept member kept inside inside
  obtain ⟨larger, listed, rootInside⟩ :=
    List.mem_flatten.1 (correctOther.mem_flatten_iff.2 around)
  refine ⟨larger, listed, ?_⟩
  intro id member'
  apply (correctOther.mem_iff listed rootInside).2
  exact ⟨correct.reaches_of_kept member kept inside member',
    correct.reaches_of_kept member kept member' inside⟩

/-- A cycle that is gone although its members keep their dependencies is part of a larger one, which
is new. -/
theorem exists_larger_of_kept (correct : store.AreCycles cycles)
    (correctOther : other.AreCycles others) {cycle : List ComponentId}
    (without : cycle ∈ cyclesWithout cycles others)
    (kept : ∀ id ∈ cycle, ∀ target, store.DependsOn id target → other.DependsOn id target) :
    ∃ larger ∈ cyclesWithout others cycles, cycle.toFinset ⊂ larger.toFinset := by
  obtain ⟨member, unmatched⟩ := correct.mem_cyclesWithout.1 without
  obtain ⟨larger, listed, inside⟩ := correct.exists_subset_of_kept correctOther member kept
  have missing : ¬larger ⊆ cycle := fun back =>
    unmatched larger listed fun id => ⟨fun within => inside within, fun within => back within⟩
  refine ⟨larger, correctOther.mem_cyclesWithout.2 ⟨listed, ?_⟩, ?_⟩
  -- A twin of the larger cycle would have the members of the smaller one, and so be that one.
  · intro twin twinListed same
    obtain ⟨root, within⟩ := List.exists_mem_of_ne_nil cycle (correct.ne_nil cycle member)
    have equal := correct.eq_of_mem member twinListed within ((same root).1 (inside within))
    subst equal
    exact missing fun id withinLarger => (same id).1 withinLarger
  · refine ⟨fun id within => ?_, fun back => missing fun id within => ?_⟩
    · exact List.mem_toFinset.2 (inside (List.mem_toFinset.1 within))
    · exact List.mem_toFinset.1 (back (List.mem_toFinset.2 within))

/-- A cycle that is gone has a member that lost a dependency, or it is part of a larger one. -/
theorem lost_or_larger (correct : store.AreCycles cycles) (correctOther : other.AreCycles others)
    {cycle : List ComponentId} (without : cycle ∈ cyclesWithout cycles others) :
    (∃ id ∈ cycle, ∃ target, store.DependsOn id target ∧ ¬other.DependsOn id target) ∨
      ∃ larger ∈ cyclesWithout others cycles, cycle.toFinset ⊂ larger.toFinset := by
  by_cases kept : ∀ id ∈ cycle, ∀ target, store.DependsOn id target → other.DependsOn id target
  · exact .inr (correct.exists_larger_of_kept correctOther without kept)
  · push Not at kept
    exact .inl kept

/-- No cycle is part of a larger one in the same graph. -/
theorem not_ssubset (correct : store.AreCycles cycles) {cycle larger : List ComponentId}
    (member : cycle ∈ cycles) (listed : larger ∈ cycles) : ¬cycle.toFinset ⊂ larger.toFinset := by
  intro smaller
  obtain ⟨id, inside⟩ := List.exists_mem_of_ne_nil cycle (correct.ne_nil cycle member)
  have within := List.mem_toFinset.1 (smaller.subset (List.mem_toFinset.2 inside))
  rw [correct.eq_of_mem member listed inside within] at smaller
  exact smaller.ne rfl

end Store.AreCycles

/-! ## Comparing components -/

/-- Whether a component is reported with a certain change. -/
def Differences.Changed (differences : Differences) (id : ComponentId) (change : Change) : Prop :=
  ∃ modification ∈ differences.modified, modification.id = id ∧ change ∈ modification.changes

namespace Analysis

variable {old new : Analysis}

theorem mem_idsWithout {id : ComponentId} :
    id ∈ idsWithout old new ↔ id ∈ old.graph.store.keys ∧ id ∉ new.graph.store.keys := by
  simp only [idsWithout, List.mem_filter, Store.mem_ids, Bool.not_eq_true', Bool.eq_false_iff,
    ne_eq, Store.contains_iff]

theorem mem_shared {before after : Component} :
    (before, after) ∈ shared old new ↔
      ∃ id, old.component? id = some before ∧ new.component? id = some after := by
  simp only [shared, List.mem_filterMap, Store.mem_ids, Option.bind_eq_bind,
    Option.bind_eq_some_iff, Option.pure_def, Option.some.injEq, Prod.mk.injEq]
  constructor
  · rintro ⟨id, _, _, found, _, foundAfter, rfl, rfl⟩
    exact ⟨id, found, foundAfter⟩
  · rintro ⟨id, found, foundAfter⟩
    exact ⟨id, Store.mem_keys_of_get? found, before, found, after, foundAfter, rfl, rfl⟩

theorem changed_iff {id : ComponentId} {change : Change} :
    (old.differences new).Changed id change ↔
      ∃ before after, old.component? id = some before ∧ new.component? id = some after ∧
        before.hasChanged after change = true := by
  simp only [Differences.Changed, differences, List.mem_filter, List.mem_map]
  constructor
  · rintro ⟨_, ⟨⟨⟨before, after⟩, both, rfl⟩, _⟩, rfl, inside⟩
    obtain ⟨id, found, foundAfter⟩ := mem_shared.1 both
    obtain rfl := (Store.mem_of_get? found).2
    exact ⟨before, after, found, foundAfter, Component.mem_changes.1 inside⟩
  · rintro ⟨before, after, found, foundAfter, changed⟩
    have inside := Component.mem_changes.2 changed
    refine ⟨_, ⟨⟨(before, after), mem_shared.2 ⟨id, found, foundAfter⟩, rfl⟩, ?_⟩,
      (Store.mem_of_get? found).2, inside⟩
    simpa using List.ne_nil_of_mem inside

/-- A change is reported of the components that both analyses hold and that have it. -/
theorem changed_iff_of_held {id : ComponentId} {change : Change} {happened : Prop}
    (held : ∀ before after, old.component? id = some before → new.component? id = some after →
      (before.hasChanged after change = true ↔ happened)) :
    (old.differences new).Changed id change ↔
      id ∈ old.graph.store.keys ∧ id ∈ new.graph.store.keys ∧ happened := by
  rw [changed_iff]
  constructor
  · rintro ⟨before, after, found, foundAfter, changed⟩
    exact ⟨Store.mem_keys_of_get? found, Store.mem_keys_of_get? foundAfter,
      (held before after found foundAfter).1 changed⟩
  · rintro ⟨known, knownAfter, happened⟩
    obtain ⟨before, found⟩ := Store.exists_get? known
    obtain ⟨after, foundAfter⟩ := Store.exists_get? knownAfter
    exact ⟨before, after, found, foundAfter, (held before after found foundAfter).2 happened⟩

/-- Two analyses disagree on whether one component depends on another. -/
def DisagreeOn (old new : Analysis) (source target : ComponentId) : Prop :=
  ¬(old.graph.store.DependsOn source target ↔ new.graph.store.DependsOn source target)

theorem changed_dependencies_iff {id : ComponentId} :
    (old.differences new).Changed id .dependencies ↔
      id ∈ old.graph.store.keys ∧ id ∈ new.graph.store.keys ∧
        ∃ target, old.DisagreeOn new id target := by
  apply changed_iff_of_held
  intro before after found foundAfter
  rw [Component.hasChanged, not_sameMembers_iff]
  simp only [DisagreeOn, Store.dependsOn_iff found, Store.dependsOn_iff foundAfter]

theorem changed_dependents_iff (soundOld : old.Sound) (soundNew : new.Sound) {id : ComponentId} :
    (old.differences new).Changed id .dependents ↔
      id ∈ old.graph.store.keys ∧ id ∈ new.graph.store.keys ∧
        ∃ source, old.DisagreeOn new source id := by
  apply changed_iff_of_held
  intro before after found foundAfter
  rw [Component.hasChanged, not_sameMembers_iff]
  simp only [DisagreeOn, soundOld.wellFormed.store.mem_dependents_iff found,
    soundNew.wellFormed.store.mem_dependents_iff foundAfter]

/-! ## Causes -/

/-- Where two analyses disagree, a component was added or removed or has other dependencies. -/
theorem DisagreeOn.cases {source target : ComponentId} (disagree : old.DisagreeOn new source target) :
    (source ∈ (old.differences new).added ∧ new.graph.store.DependsOn source target) ∨
      (source ∈ (old.differences new).removed ∧ old.graph.store.DependsOn source target) ∨
        (old.differences new).Changed source .dependencies := by
  by_cases depends : old.graph.store.DependsOn source target
  · by_cases held : source ∈ new.graph.store.keys
    · exact .inr (.inr (changed_dependencies_iff.2 ⟨depends.source_mem, held, target, disagree⟩))
    · exact .inr (.inl ⟨mem_idsWithout.2 ⟨depends.source_mem, held⟩, depends⟩)
  · have dependsNow : new.graph.store.DependsOn source target := by
      by_contra none
      exact disagree (iff_of_false depends none)
    by_cases held : source ∈ old.graph.store.keys
    · exact .inr (.inr (changed_dependencies_iff.2 ⟨held, dependsNow.source_mem, target, disagree⟩))
    · exact .inl ⟨mem_idsWithout.2 ⟨dependsNow.source_mem, held⟩, dependsNow⟩

theorem newCycle_cases (soundOld : old.Sound) (soundNew : new.Sound) {cycle : List ComponentId}
    (reported : cycle ∈ (old.differences new).newCycles) :
    (∃ id ∈ cycle, id ∈ (old.differences new).added ∨
        (old.differences new).Changed id .dependencies) ∨
      ∃ larger ∈ (old.differences new).resolvedCycles, cycle.toFinset ⊂ larger.toFinset := by
  rcases soundNew.cycles.lost_or_larger soundOld.cycles reported with
    ⟨id, member, target, depends, independent⟩ | larger
  · have disagree : old.DisagreeOn new id target := fun same => independent (same.2 depends)
    rcases disagree.cases with ⟨added, _⟩ | ⟨_, before⟩ | changed
    · exact .inl ⟨id, member, .inl added⟩
    · exact absurd before independent
    · exact .inl ⟨id, member, .inr changed⟩
  · exact .inr larger

theorem resolvedCycle_cases (soundOld : old.Sound) (soundNew : new.Sound)
    {cycle : List ComponentId} (reported : cycle ∈ (old.differences new).resolvedCycles) :
    (∃ id ∈ cycle, id ∈ (old.differences new).removed ∨
        (old.differences new).Changed id .dependencies) ∨
      ∃ larger ∈ (old.differences new).newCycles, cycle.toFinset ⊂ larger.toFinset := by
  rcases soundOld.cycles.lost_or_larger soundNew.cycles reported with
    ⟨id, member, target, depends, independent⟩ | larger
  · have disagree : old.DisagreeOn new id target := fun same => independent (same.1 depends)
    rcases disagree.cases with ⟨_, after⟩ | ⟨removed, _⟩ | changed
    · exact absurd after independent
    · exact .inl ⟨id, member, .inl removed⟩
    · exact .inl ⟨id, member, .inr changed⟩
  · exact .inr larger

theorem dependents_cases (soundOld : old.Sound) (soundNew : new.Sound) {target : ComponentId}
    (reported : (old.differences new).Changed target .dependents) :
    ∃ source, (source ∈ (old.differences new).added ∧ new.graph.store.DependsOn source target) ∨
      (source ∈ (old.differences new).removed ∧ old.graph.store.DependsOn source target) ∨
      (old.differences new).Changed source .dependencies ∧ old.DisagreeOn new source target := by
  obtain ⟨_, _, source, disagree⟩ := (changed_dependents_iff soundOld soundNew).1 reported
  rcases disagree.cases with added | removed | changed
  · exact ⟨source, .inl added⟩
  · exact ⟨source, .inr (.inl removed)⟩
  · exact ⟨source, .inr (.inr ⟨changed, disagree⟩)⟩

/-- Without causes there are no consequences: cycles can neither all grow nor all shrink. -/
theorem no_consequences (soundOld : old.Sound) (soundNew : new.Sound)
    (noneAdded : (old.differences new).added = []) (noneRemoved : (old.differences new).removed = [])
    (noneChanged : ∀ id, ¬(old.differences new).Changed id .dependencies) :
    (old.differences new).newCycles = [] ∧ (old.differences new).resolvedCycles = [] ∧
      ∀ id, ¬(old.differences new).Changed id .dependents := by
  have grown : ∀ cycle ∈ (old.differences new).newCycles,
      ∃ larger ∈ (old.differences new).resolvedCycles, cycle.toFinset ⊂ larger.toFinset := by
    intro cycle reported
    apply (newCycle_cases soundOld soundNew reported).resolve_left
    rintro ⟨id, _, added | changed⟩
    · simp [noneAdded] at added
    · exact noneChanged id changed
  have shrunk : ∀ cycle ∈ (old.differences new).resolvedCycles,
      ∃ larger ∈ (old.differences new).newCycles, cycle.toFinset ⊂ larger.toFinset := by
    intro cycle reported
    apply (resolvedCycle_cases soundOld soundNew reported).resolve_left
    rintro ⟨id, _, removed | changed⟩
    · simp [noneRemoved] at removed
    · exact noneChanged id changed
  -- A new cycle would be part of a larger resolved one, and that of a larger new one.
  have noneNew : (old.differences new).newCycles = [] := by
    rw [List.eq_nil_iff_forall_not_mem]
    intro cycle reported
    obtain ⟨larger, resolved, smaller⟩ := grown cycle reported
    obtain ⟨largest, again, smallerStill⟩ := shrunk larger resolved
    exact soundNew.cycles.not_ssubset (soundNew.cycles.mem_cyclesWithout.1 reported).1
      (soundNew.cycles.mem_cyclesWithout.1 again).1 (smaller.trans smallerStill)
  refine ⟨noneNew, ?_, ?_⟩
  · rw [List.eq_nil_iff_forall_not_mem]
    intro cycle reported
    obtain ⟨larger, isNew, _⟩ := shrunk cycle reported
    simp [noneNew] at isNew
  · intro target changed
    obtain ⟨source, ⟨added, _⟩ | ⟨removed, _⟩ | ⟨rewired, _⟩⟩ :=
      dependents_cases soundOld soundNew changed
    · simp [noneAdded] at added
    · simp [noneRemoved] at removed
    · exact noneChanged source rewired

end Analysis

/-- Every consequence that the differences of two analyses report has a cause among them.  A new
cycle has a member that is new or depends on other components than before, or else it is a proper
part of a resolved cycle; likewise a resolved cycle.  Other dependents go back to a component that
was added, removed or changed in its dependencies.  So without such causes there are no such
consequences, in whatever order the neighbours are listed. -/
theorem differences_have_causes {oldOrigin newOrigin : Origin} {old new : Analysis}
    (oldReturned : oldOrigin.trace.outcome = .ok old)
    (newReturned : newOrigin.trace.outcome = .ok new) :
    (∀ cycle ∈ (old.differences new).newCycles,
      (∃ id ∈ cycle, id ∈ (old.differences new).added ∨
        (old.differences new).Changed id .dependencies) ∨
      ∃ larger ∈ (old.differences new).resolvedCycles, cycle.toFinset ⊂ larger.toFinset) ∧
    (∀ cycle ∈ (old.differences new).resolvedCycles,
      (∃ id ∈ cycle, id ∈ (old.differences new).removed ∨
        (old.differences new).Changed id .dependencies) ∨
      ∃ larger ∈ (old.differences new).newCycles, cycle.toFinset ⊂ larger.toFinset) ∧
    (∀ target, (old.differences new).Changed target .dependents → ∃ source,
      (source ∈ (old.differences new).added ∧ new.graph.store.DependsOn source target) ∨
      (source ∈ (old.differences new).removed ∧ old.graph.store.DependsOn source target) ∨
      (old.differences new).Changed source .dependencies ∧ old.DisagreeOn new source target) ∧
    ((old.differences new).added = [] → (old.differences new).removed = [] →
      (∀ id, ¬(old.differences new).Changed id .dependencies) →
        (old.differences new).newCycles = [] ∧ (old.differences new).resolvedCycles = [] ∧
          ∀ id, ¬(old.differences new).Changed id .dependents) := by
  have soundOld := Origin.sound oldReturned
  have soundNew := Origin.sound newReturned
  exact ⟨fun cycle => Analysis.newCycle_cases soundOld soundNew,
    fun cycle => Analysis.resolvedCycle_cases soundOld soundNew,
    fun target => Analysis.dependents_cases soundOld soundNew,
    Analysis.no_consequences soundOld soundNew⟩

/-- A cycle of three that becomes a cycle of two: its members have kept their dependencies, but not
the third component. -/
theorem differences_have_causes_split :
    ∃ oldOrigin newOrigin old new, oldOrigin = Origin.analyzed {}
        [{ id := "a", name := "a", file := "f", startLine := 1, endLine := 1 },
          { id := "b", name := "b", file := "f", startLine := 2, endLine := 2 },
          { id := "c", name := "c", file := "f", startLine := 3, endLine := 3 }]
        [⟨"a", "b", .call⟩, ⟨"b", "a", .call⟩, ⟨"b", "c", .call⟩, ⟨"c", "a", .call⟩] ∧
      newOrigin = Origin.analyzed {}
        [{ id := "a", name := "a", file := "f", startLine := 1, endLine := 1 },
          { id := "b", name := "b", file := "f", startLine := 2, endLine := 2 },
          { id := "c", name := "c", file := "f", startLine := 3, endLine := 3 }]
        [⟨"b", "c", .call⟩, ⟨"b", "a", .call⟩, ⟨"a", "b", .call⟩] ∧
      oldOrigin.trace.outcome = .ok old ∧ newOrigin.trace.outcome = .ok new ∧
      (old.differences new).newCycles = [["a", "b"]] ∧ (old.differences new).added = [] ∧
      (old.differences new).modified = [⟨"a", [.dependents]⟩, ⟨"c", [.dependencies]⟩] ∧
      ∃ larger ∈ (old.differences new).resolvedCycles, ["a", "b"].toFinset ⊂ larger.toFinset := by
  have evaluated : ((analyze {}
      [{ id := "a", name := "a", file := "f", startLine := 1, endLine := 1 },
        { id := "b", name := "b", file := "f", startLine := 2, endLine := 2 },
        { id := "c", name := "c", file := "f", startLine := 3, endLine := 3 }]
      [⟨"a", "b", .call⟩, ⟨"b", "a", .call⟩, ⟨"b", "c", .call⟩,
        ⟨"c", "a", .call⟩]).outcome.toOption.bind fun old =>
      (analyze {}
        [{ id := "a", name := "a", file := "f", startLine := 1, endLine := 1 },
          { id := "b", name := "b", file := "f", startLine := 2, endLine := 2 },
          { id := "c", name := "c", file := "f", startLine := 3, endLine := 3 }]
        [⟨"b", "c", .call⟩, ⟨"b", "a", .call⟩, ⟨"a", "b", .call⟩]).outcome.toOption.map fun new =>
          ((old.differences new).newCycles, (old.differences new).added,
            (old.differences new).modified)) =
      some ([["a", "b"]], [], [⟨"a", [.dependents]⟩, ⟨"c", [.dependencies]⟩]) := by
    cbv
  obtain ⟨old, knownOld, rest⟩ := Option.bind_eq_some_iff.1 evaluated
  obtain ⟨new, knownNew, values⟩ := Option.map_eq_some_iff.1 rest
  have oldReturned := Traced.outcome_of_toOption knownOld
  have newReturned := Traced.outcome_of_toOption knownNew
  simp only [Prod.mk.injEq] at values
  obtain ⟨newCycles, added, modified⟩ := values
  have causes := (@differences_have_causes (.analyzed _ _ _) (.analyzed _ _ _) old new oldReturned
    newReturned).1 ["a", "b"] (by simp [newCycles])
  refine ⟨_, _, old, new, rfl, rfl, oldReturned, newReturned, newCycles, added, modified,
    causes.resolve_left ?_⟩
  simp [added, Differences.Changed, modified]

end DepAtlas
