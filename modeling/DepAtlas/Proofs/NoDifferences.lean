import DepAtlas.Proofs.Comparison

/-!
# Analyses without differences

A comparison that reports no component as added, removed or modified tells that the two analyses
hold the same ids, and that every component is what it was in all that is compared: its kind, its
visibility, its location, its complexity and its neighbours as sets.

A name is not compared, since components go by their ids.  So a text leads to the same component in
both analyses where it is an id or is the name of the same components in both, and may lead
elsewhere where only names have changed.
-/

namespace DepAtlas

/-- Two states of a component that agree in all but the name and the order of neighbours. -/
structure Component.Resembles (before after : Component) : Prop where
  id : before.id = after.id
  kind : before.kind = after.kind
  visibility : before.visibility = after.visibility
  file : before.file = after.file
  startLine : before.startLine = after.startLine
  endLine : before.endLine = after.endLine
  complexity : before.complexity = after.complexity
  dependencies : ∀ id, id ∈ before.dependencies ↔ id ∈ after.dependencies
  dependents : ∀ id, id ∈ before.dependents ↔ id ∈ after.dependents

namespace Component

variable {before after : Component}

theorem changes_eq_nil_iff :
    before.changes after = [] ↔ ∀ change, before.hasChanged after change = false := by
  simp only [List.eq_nil_iff_forall_not_mem, mem_changes, Bool.not_eq_true]

theorem resembles_iff (same : before.id = after.id) :
    before.Resembles after ↔ before.changes after = [] := by
  rw [changes_eq_nil_iff]
  constructor
  · intro resembles change
    cases change with
    | location => simp [hasChanged, resembles.file, resembles.startLine, resembles.endLine]
    | signature => simp [hasChanged, resembles.kind, resembles.visibility]
    | complexity => simp [hasChanged, resembles.complexity]
    | dependencies => simpa [hasChanged, sameMembers_iff] using resembles.dependencies
    | dependents => simpa [hasChanged, sameMembers_iff] using resembles.dependents
  · intro unchanged
    obtain ⟨⟨file, startLine⟩, endLine⟩ := by
      simpa only [hasChanged, Bool.or_eq_false_iff, bne_eq_false_iff_eq] using unchanged .location
    obtain ⟨kind, visibility⟩ := by
      simpa only [hasChanged, Bool.or_eq_false_iff, bne_eq_false_iff_eq] using unchanged .signature
    have complexity : before.complexity = after.complexity := by
      simpa only [hasChanged, bne_eq_false_iff_eq] using unchanged .complexity
    have dependencies : sameMembers before.dependencies after.dependencies = true := by
      simpa only [hasChanged, Bool.not_eq_false'] using unchanged .dependencies
    have dependents : sameMembers before.dependents after.dependents = true := by
      simpa only [hasChanged, Bool.not_eq_false'] using unchanged .dependents
    exact ⟨same, kind, visibility, file, startLine, endLine, complexity,
      sameMembers_iff.1 dependencies, sameMembers_iff.1 dependents⟩

end Component

namespace Analysis

/-- Two analyses that hold the same ids, and resembling components under them. -/
structure Resembles (old new : Analysis) : Prop where
  mem_keys_iff : ∀ id, id ∈ old.graph.store.keys ↔ id ∈ new.graph.store.keys
  components : ∀ {id before after}, old.component? id = some before →
    new.component? id = some after → before.Resembles after

/-- Whether a text is the name of the component with a certain id. -/
def isNamed (analysis : Analysis) (text : String) (id : ComponentId) : Bool :=
  (analysis.component? id).any fun component => component.name = text

variable {old new : Analysis}

/-! ## Nothing reported -/

theorem modified_eq_nil_iff : (old.differences new).modified = [] ↔
    ∀ id before after, old.component? id = some before → new.component? id = some after →
      before.changes after = [] := by
  have none : (old.differences new).modified = [] ↔
      ∀ id, id ∉ (old.differences new).modified.map (·.id) := by
    rw [← List.eq_nil_iff_forall_not_mem, List.map_eq_nil_iff]
  simp only [none, mem_modified_ids, not_exists, not_and, ne_eq, not_not]

theorem no_differences_iff :
    (old.differences new).added = [] ∧ (old.differences new).removed = [] ∧
      (old.differences new).modified = [] ↔ old.Resembles new := by
  have added : (old.differences new).added = new.idsWithout old := rfl
  have removed : (old.differences new).removed = old.idsWithout new := rfl
  rw [modified_eq_nil_iff, added, removed, List.eq_nil_iff_forall_not_mem,
    List.eq_nil_iff_forall_not_mem]
  simp only [mem_idsWithout, not_and, not_not]
  constructor
  · rintro ⟨noneAdded, noneRemoved, noneModified⟩
    refine ⟨fun id => ⟨noneRemoved id, noneAdded id⟩, ?_⟩
    intro id before after found foundAfter
    have same := (Store.mem_of_get? found).2.trans (Store.mem_of_get? foundAfter).2.symm
    exact (Component.resembles_iff same).2 (noneModified id before after found foundAfter)
  · intro resembles
    refine ⟨fun id => (resembles.mem_keys_iff id).2, fun id => (resembles.mem_keys_iff id).1, ?_⟩
    intro id before after found foundAfter
    have alike := resembles.components found foundAfter
    exact (Component.resembles_iff alike.id).1 alike

/-! ## Texts that lead to components -/

theorem map_id_resolve?_of_stored {analysis : Analysis} {text : String}
    (stored : text ∈ analysis.graph.store.keys) :
    (analysis.resolve? text).map (·.id) = some text := by
  obtain ⟨component, found⟩ := Store.exists_get? stored
  have known : analysis.component? text = some component := found
  rw [resolve?, known, Option.map_some, (Store.mem_of_get? found).2]

/-- A text that is no id leads to the first id with that name. -/
theorem map_id_resolve?_of_not_stored {analysis : Analysis} {text : String}
    (missing : text ∉ analysis.graph.store.keys) :
    (analysis.resolve? text).map (·.id) =
      analysis.graph.store.ids.find? (analysis.isNamed text) := by
  have absent : analysis.component? text = none := Store.get?_eq_none_iff.2 missing
  rw [resolve?, absent]
  simp only [List.find?_filterMap]
  change ((analysis.graph.store.ids.find? (analysis.isNamed text)).bind _).map _ = _
  cases first : analysis.graph.store.ids.find? (analysis.isNamed text) with
  | none => rfl
  | some id =>
      have named := List.find?_some first
      rw [isNamed, Option.any_eq_true] at named
      obtain ⟨component, found, _⟩ := named
      have known : analysis.graph.store.get? id = some component := found
      rw [Option.bind_some, known, Option.map_some, (Store.mem_of_get? known).2]

theorem Sound.isNamed_iff {analysis : Analysis} (sound : analysis.Sound) {text : String}
    {id : ComponentId} : analysis.isNamed text id = true ↔
      (id, text) ∈ analysis.graph.store.components.map fun component =>
        (component.id, component.name) := by
  simp only [isNamed, component?, Option.any_eq_true,
    Store.get?_eq_some_iff sound.wellFormed.store.keys_nodup, List.mem_map, decide_eq_true_eq,
    Prod.mk.injEq, and_assoc]

theorem Resembles.resolves (resembles : old.Resembles new) (soundOld : old.Sound)
    (soundNew : new.Sound) {text : String}
    (known : text ∈ old.graph.store.keys ∨ ∀ id, old.isNamed text id = new.isNamed text id) :
    (old.resolve? text).map (·.id) = (new.resolve? text).map (·.id) := by
  by_cases stored : text ∈ old.graph.store.keys
  · rw [map_id_resolve?_of_stored stored,
      map_id_resolve?_of_stored ((resembles.mem_keys_iff text).1 stored)]
  · have named := funext (known.resolve_left stored)
    -- Both look for the first id with the name, among the same ids in the same order.
    have ids : old.graph.store.ids = new.graph.store.ids := by
      apply eq_of_strict (ascending_strict soundOld.wellFormed.store.keys_nodup)
        (ascending_strict soundNew.wellFormed.store.keys_nodup)
      intro id
      exact Store.mem_ids.trans ((resembles.mem_keys_iff id).trans Store.mem_ids.symm)
    rw [map_id_resolve?_of_not_stored stored,
      map_id_resolve?_of_not_stored (mt (resembles.mem_keys_iff text).2 stored), named, ids]

end Analysis

/-- Two analyses between which no component is reported as added, removed or modified hold the same
ids, and components that agree in all but their names and the order of neighbours.  A text that is
an id, or the name of the same components in both, leads to the same component in both, or to none.
-/
theorem resembles_of_no_differences {oldOrigin newOrigin : Origin} {old new : Analysis}
    (oldReturned : oldOrigin.trace.outcome = .ok old)
    (newReturned : newOrigin.trace.outcome = .ok new)
    (added : (old.differences new).added = []) (removed : (old.differences new).removed = [])
    (modified : (old.differences new).modified = []) :
    old.Resembles new ∧ ∀ text,
      (text ∈ old.graph.store.keys ∨ ∀ id, old.isNamed text id = new.isNamed text id) →
        (old.resolve? text).map (·.id) = (new.resolve? text).map (·.id) := by
  have resembles := Analysis.no_differences_iff.1 ⟨added, removed, modified⟩
  exact ⟨resembles, fun text =>
    resembles.resolves (Origin.sound oldReturned) (Origin.sound newReturned)⟩

/-- Two analyses that differ in the order of two neighbours, which have the same name. -/
theorem resembles_of_no_differences_reordered :
    ∃ records old new,
      records = [{ id := "a", name := "main", file := "f", startLine := 1, endLine := 1 },
        { id := "b", name := "step", file := "f", startLine := 2, endLine := 2 },
        { id := "c", name := "step", file := "f", startLine := 3, endLine := 3 }] ∧
      (analyze {} records [⟨"a", "c", .call⟩, ⟨"a", "b", .call⟩]).outcome = .ok old ∧
      (analyze {} records [⟨"a", "b", .call⟩, ⟨"a", "c", .call⟩]).outcome = .ok new ∧
      old.dependencies? "a" = some ["c", "b"] ∧ new.dependencies? "a" = some ["b", "c"] ∧
      old.Resembles new ∧ (old.resolve? "step").map (·.id) = (new.resolve? "step").map (·.id) := by
  let records : List Symbol :=
    [{ id := "a", name := "main", file := "f", startLine := 1, endLine := 1 },
      { id := "b", name := "step", file := "f", startLine := 2, endLine := 2 },
      { id := "c", name := "step", file := "f", startLine := 3, endLine := 3 }]
  have evaluated :
      ((analyze {} records [⟨"a", "c", .call⟩, ⟨"a", "b", .call⟩]).outcome.toOption.bind fun old =>
        (analyze {} records [⟨"a", "b", .call⟩, ⟨"a", "c", .call⟩]).outcome.toOption.map fun new =>
          ((old.dependencies? "a", new.dependencies? "a"),
            ((old.differences new).added, (old.differences new).removed,
              (old.differences new).modified),
            old.graph.store.components.map (fun component => (component.id, component.name)),
            new.graph.store.components.map fun component => (component.id, component.name))) =
      some ((some ["c", "b"], some ["b", "c"]), ([], [], []),
        [("a", "main"), ("b", "step"), ("c", "step")],
        [("a", "main"), ("b", "step"), ("c", "step")]) := by
    cbv
  obtain ⟨old, knownOld, rest⟩ := Option.bind_eq_some_iff.1 evaluated
  obtain ⟨new, knownNew, values⟩ := Option.map_eq_some_iff.1 rest
  simp only [Prod.mk.injEq] at values
  obtain ⟨⟨listed, listedNew⟩, ⟨added, removed, modified⟩, names, namesNew⟩ := values
  have oldReturned := Traced.outcome_of_toOption knownOld
  have newReturned := Traced.outcome_of_toOption knownNew
  obtain ⟨resembles, resolves⟩ := @resembles_of_no_differences (.analyzed {} records _)
    (.analyzed {} records _) old new oldReturned newReturned added removed modified
  have soundOld := @Origin.sound (.analyzed {} records _) old oldReturned
  have soundNew := @Origin.sound (.analyzed {} records _) new newReturned
  have named : ∀ id, old.isNamed "step" id = new.isNamed "step" id := by
    intro id
    rw [Bool.eq_iff_iff, soundOld.isNamed_iff, soundNew.isNamed_iff, names, namesNew]
  exact ⟨records, old, new, rfl, oldReturned, newReturned, listed, listedNew, resembles,
    resolves "step" (.inr named)⟩

/-- A component that has another name and nothing else is not reported, though its names lead to it
in one of the analyses only. -/
theorem no_differences_renamed :
    ∃ old new,
      (analyze {} [{ id := "a", name := "x", file := "f", startLine := 1, endLine := 1 }]
        []).outcome = .ok old ∧
      (analyze {} [{ id := "a", name := "y", file := "f", startLine := 1, endLine := 1 }]
        []).outcome = .ok new ∧
      (old.differences new).added = [] ∧ (old.differences new).removed = [] ∧
      (old.differences new).modified = [] ∧
      (old.component? "a").map (·.name) = some "x" ∧
      (new.component? "a").map (·.name) = some "y" ∧
      (old.resolve? "x").map (·.id) = some "a" ∧ (new.resolve? "x").map (·.id) = none := by
  have evaluated :
      ((analyze {} [{ id := "a", name := "x", file := "f", startLine := 1, endLine := 1 }]
        []).outcome.toOption.bind fun old =>
        (analyze {} [{ id := "a", name := "y", file := "f", startLine := 1, endLine := 1 }]
          []).outcome.toOption.map fun new =>
            (((old.differences new).added, (old.differences new).removed,
                (old.differences new).modified),
              ((old.component? "a").map (·.name), (new.component? "a").map (·.name)),
              (old.resolve? "x").map (·.id), (new.resolve? "x").map (·.id))) =
      some (([], [], []), (some "x", some "y"), some "a", none) := by
    cbv
  obtain ⟨old, knownOld, rest⟩ := Option.bind_eq_some_iff.1 evaluated
  obtain ⟨new, knownNew, values⟩ := Option.map_eq_some_iff.1 rest
  simp only [Prod.mk.injEq] at values
  obtain ⟨⟨added, removed, modified⟩, ⟨name, nameNew⟩, resolved, resolvedNew⟩ := values
  exact ⟨old, new, Traced.outcome_of_toOption knownOld, Traced.outcome_of_toOption knownNew,
    added, removed, modified, name, nameNew, resolved, resolvedNew⟩

end DepAtlas
