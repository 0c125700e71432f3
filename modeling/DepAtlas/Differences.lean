import DepAtlas.Analysis
import DepAtlas.Json

/-!
# Differences between two analyses

Two analyses of one code base are compared by component id, and their cycles by member
sets.  A component that both hold is modified when its location, its signature, its
complexity or one of its sets of neighbours has changed.
-/

namespace DepAtlas

/-- What can change in a component. -/
inductive Change where
  | location
  | signature
  | complexity
  | dependencies
  | dependents
  deriving DecidableEq, Repr

/-- The name of a change. -/
def Change.name : Change → String
  | .location => "location"
  | .signature => "signature"
  | .complexity => "complexity"
  | .dependencies => "dependencies"
  | .dependents => "dependents"

/-- Two lists with the same members. -/
def sameMembers (a b : List ComponentId) : Bool :=
  a.all b.contains && b.all a.contains

theorem sameMembers_iff {a b : List ComponentId} :
    sameMembers a b = true ↔ ∀ id, id ∈ a ↔ id ∈ b := by
  simp only [sameMembers, Bool.and_eq_true, List.all_eq_true, List.contains_iff_mem]
  exact ⟨fun both id => ⟨both.1 id, both.2 id⟩,
    fun same => ⟨fun id => (same id).1, fun id => (same id).2⟩⟩

theorem not_sameMembers_iff {a b : List ComponentId} :
    (!sameMembers a b) = true ↔ ∃ id, ¬(id ∈ a ↔ id ∈ b) := by
  rw [Bool.not_eq_true', Bool.eq_false_iff, ne_eq, sameMembers_iff, Classical.not_forall]

namespace Component

/-- Whether a kind of change happened between two states of a component. -/
def hasChanged (before after : Component) : Change → Bool
  | .location =>
      before.file != after.file || before.startLine != after.startLine ||
        before.endLine != after.endLine
  | .signature => before.kind != after.kind || before.visibility != after.visibility
  | .complexity => before.complexity != after.complexity
  | .dependencies => !sameMembers before.dependencies after.dependencies
  | .dependents => !sameMembers before.dependents after.dependents

/-- The changes between two states of a component. -/
def changes (before after : Component) : List Change :=
  [.location, .signature, .complexity, .dependencies, .dependents].filter
    (before.hasChanged after)

theorem mem_changes {before after : Component} {change : Change} :
    change ∈ before.changes after ↔ before.hasChanged after change = true := by
  cases change <;> simp [changes]

end Component

/-- A component that has changed. -/
structure Modification where
  id : ComponentId
  changes : List Change
  deriving DecidableEq, Repr

/-- The differences between an old and a new analysis. -/
structure Differences where
  added : List ComponentId
  removed : List ComponentId
  modified : List Modification
  unchanged : Nat
  newCycles : List (List ComponentId)
  resolvedCycles : List (List ComponentId)
  deriving DecidableEq, Repr

/-- Enter a cycle under its set of members: it replaces a cycle with the same members
and otherwise goes to the end. -/
def enterCycle (cycles : List (List ComponentId)) (cycle : List ComponentId) :
    List (List ComponentId) :=
  if cycles.any (sameMembers cycle) then
    cycles.map fun other => if sameMembers cycle other then cycle else other
  else cycles ++ [cycle]

/-- Cycles with one entry for each set of members. -/
def distinctCycles (cycles : List (List ComponentId)) : List (List ComponentId) :=
  cycles.foldl enterCycle []

/-- The cycles that have no counterpart with the same members. -/
def cyclesWithout (cycles others : List (List ComponentId)) : List (List ComponentId) :=
  (distinctCycles cycles).filter fun cycle => !others.any (sameMembers cycle)

namespace Analysis

/-- The components that both analyses hold, in both states, by ascending id. -/
def shared (old new : Analysis) : List (Component × Component) :=
  old.graph.store.ids.filterMap fun id => do
    let before ← old.component? id
    let after ← new.component? id
    return (before, after)

/-- The ids that the first analysis holds and the second does not. -/
def idsWithout (a b : Analysis) : List ComponentId :=
  a.graph.store.ids.filter fun id => !b.graph.store.contains id

/-- Compare an old analysis with a new one. -/
def differences (old new : Analysis) : Differences :=
  let compared := (shared old new).map fun (before, after) =>
    Modification.mk before.id (before.changes after)
  { added := new.idsWithout old
    removed := old.idsWithout new
    modified := compared.filter fun modification => !modification.changes.isEmpty
    unchanged := compared.countP fun modification => modification.changes.isEmpty
    newCycles := cyclesWithout new.graph.cycles old.graph.cycles
    resolvedCycles := cyclesWithout old.graph.cycles new.graph.cycles }

end Analysis

namespace Differences

/-- The fields of differences in JSON. -/
def toFields (differences : Differences) : List (String × Json) :=
  [ ("added", .texts differences.added),
    ("removed", .texts differences.removed),
    ("modified", .array (differences.modified.map fun modification =>
      .object [
        ("id", .text modification.id),
        ("changes", .texts (modification.changes.map Change.name))])),
    ("unchanged", .int differences.unchanged),
    ("new_cycles", .array (differences.newCycles.map .texts)),
    ("resolved_cycles", .array (differences.resolvedCycles.map .texts)) ]

/-- Differences in JSON. -/
def toJson (differences : Differences) : Json :=
  .object differences.toFields

end Differences

end DepAtlas
