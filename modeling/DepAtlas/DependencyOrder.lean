import DepAtlas.Graph

/-!
# Processing order

The order in which components can be processed so that each one comes after everything
it depends on (Kahn's algorithm).  Of the components that are ready the one with the
smallest id goes first.  Components that never become ready sit on a cycle or behind
one; they follow at the end in ascending order of id.

A schedule counts, for each component, the dependencies that have not been emitted.
Emitting a component lowers the counts of its dependents, and a count that reaches zero
makes a component ready.
-/

namespace DepAtlas

/-- All components in processing order, and whether some of them are blocked. -/
structure DependencyOrder where
  order : List ComponentId
  cyclesPresent : Bool
  deriving DecidableEq, Repr

/-- Put an id in its place of an ascending list. -/
def insertAscending (id : ComponentId) : List ComponentId → List ComponentId
  | [] => [id]
  | first :: rest => if id ≤ first then id :: first :: rest else first :: insertAscending id rest

@[simp] theorem length_insertAscending (id : ComponentId) (ids : List ComponentId) :
    (insertAscending id ids).length = ids.length + 1 := by
  induction ids with
  | nil => rfl
  | cons first rest ih => unfold insertAscending; split <;> simp [ih]

/-- The state of the sort. -/
structure Schedule where
  /-- The number of dependencies not yet emitted, for each component. -/
  pending : List (ComponentId × Int)
  /-- The components that can be emitted, in ascending order. -/
  ready : List ComponentId
  /-- The components emitted so far, in order. -/
  emitted : List ComponentId
  deriving DecidableEq, Repr

namespace Schedule

/-- The schedule before anything is emitted. -/
def initial (store : Store) : Schedule :=
  let pending := store.components.map fun component =>
    (component.id, (component.dependencies.length : Int))
  { pending
    ready := ascending ((pending.filter fun entry => entry.2 = 0).map (·.1))
    emitted := [] }

/-- Lower the count of a component by one; the new count comes first. -/
def lower (id : ComponentId) :
    List (ComponentId × Int) → Option (Int × List (ComponentId × Int))
  | [] => none
  | (key, count) :: rest =>
      if key = id then some (count - 1, (key, count - 1) :: rest)
      else (lower id rest).map fun (left, others) => (left, (key, count) :: others)

/-- Count a dependency of a component as emitted. -/
def release (schedule : Schedule) (id : ComponentId) : Except Fault Schedule :=
  match lower id schedule.pending with
  | none => .error (.absent id)
  | some (left, pending) =>
      .ok { schedule with
        pending
        ready := if left = 0 then insertAscending id schedule.ready else schedule.ready }

/-- Emit a component that has been taken from the ready ones. -/
def emit (store : Store) (schedule : Schedule) (id : ComponentId) : Except Fault Schedule :=
  match store.get id with
  | .error fault => .error fault
  | .ok component =>
      component.dependents.foldlM release
        { schedule with emitted := schedule.emitted ++ [id] }

/-- The number of components that wait for a dependency. -/
def waiting (pending : List (ComponentId × Int)) : Nat :=
  pending.countP fun entry => 0 < entry.2

/-- What every emission lowers: the components that may still be emitted. -/
def measure (schedule : Schedule) : Nat :=
  waiting schedule.pending + schedule.ready.length

theorem waiting_lower {id : ComponentId} {pending after : List (ComponentId × Int)} {left : Int}
    (h : lower id pending = some (left, after)) :
    waiting after + (if left = 0 then 1 else 0) ≤ waiting pending := by
  induction pending generalizing after with
  | nil => cases h
  | cons entry rest ih =>
    obtain ⟨key, count⟩ := entry
    unfold lower at h
    split at h
    · cases h
      simp only [waiting, List.countP_cons, decide_eq_true_eq]
      split <;> split <;> split <;> omega
    · cases hrest : lower id rest with
      | none => rw [hrest] at h; cases h
      | some found =>
        rw [hrest] at h
        cases h
        have := ih hrest
        simp only [waiting, List.countP_cons] at this ⊢
        omega

theorem measure_release {schedule next : Schedule} {id : ComponentId}
    (h : schedule.release id = .ok next) : next.measure ≤ schedule.measure := by
  unfold release at h
  split at h
  · cases h
  · next left pending hl =>
    cases h
    have := waiting_lower hl
    simp only [measure]
    split
    · next hz => simp only [hz, if_true, length_insertAscending] at this ⊢; omega
    · next hz => simp only [hz, if_false] at this; omega

theorem measure_releases {schedule next : Schedule} {ids : List ComponentId}
    (h : ids.foldlM release schedule = .ok next) : next.measure ≤ schedule.measure := by
  induction ids generalizing schedule with
  | nil => cases h; exact Nat.le_refl _
  | cons id ids ih =>
    rw [List.foldlM_cons] at h
    cases hr : schedule.release id with
    | error fault => rw [hr] at h; cases h
    | ok middle =>
      rw [hr] at h
      exact Nat.le_trans (ih h) (measure_release hr)

theorem measure_emit {store : Store} {schedule next : Schedule} {id : ComponentId}
    {rest : List ComponentId} (hready : schedule.ready = id :: rest)
    (h : emit store { schedule with ready := rest } id = .ok next) :
    next.measure < schedule.measure := by
  unfold emit at h
  split at h
  · cases h
  · have := measure_releases h
    simp only [measure, hready, List.length_cons] at this ⊢
    omega

/-- Emit ready components until there are none. -/
def run (store : Store) (schedule : Schedule) : Except Fault Schedule :=
  match _taken : schedule.ready with
  | [] => .ok schedule
  | id :: rest =>
      match _emitted : emit store { schedule with ready := rest } id with
      | .error fault => .error fault
      | .ok next => run store next
termination_by schedule.measure
decreasing_by exact measure_emit _taken _emitted

/-- The components that were not emitted, in ascending order. -/
def blocked (schedule : Schedule) : List ComponentId :=
  ascending ((schedule.pending.map (·.1)).filter fun id => id ∉ schedule.emitted)

end Schedule

namespace Graph

/-- The final schedule of a graph. -/
def schedule (graph : Graph) : Except Fault Schedule :=
  Schedule.run graph.store (Schedule.initial graph.store)

/-- The processing order of a graph. -/
def dependencyOrder (graph : Graph) : Except Fault DependencyOrder :=
  graph.schedule.map fun schedule =>
    ⟨schedule.emitted ++ schedule.blocked, !schedule.blocked.isEmpty⟩

/-- The processing order with its notices. -/
def dependencyOrderTraced (graph : Graph) : Traced DependencyOrder :=
  ⟨match graph.schedule with
    | .ok schedule =>
        if schedule.blocked.isEmpty then [] else [.blocked schedule.blocked.length]
    | .error _ => [], graph.dependencyOrder⟩

end Graph

end DepAtlas
