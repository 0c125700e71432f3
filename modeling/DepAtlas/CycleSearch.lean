import DepAtlas.Graph

/-!
# Cycles of the dependency graph

One depth-first search over all components finds the strongly connected parts of the
graph (Tarjan's algorithm).  Its roots are taken in ascending order of id and the
successors of a component in the order of its dependencies, so that the result is
determined by the graph.  A part counts as a cycle when it has several members or when
its only member depends on itself.  The members of a cycle are listed as the search came
upon them.

The search is a machine that takes one step at a time and keeps its own stack of half
explored components; every step lowers its measure.
-/

namespace DepAtlas

/-- A component that is being explored. -/
structure Visit where
  node : ComponentId
  /-- The least position of a stacked component that was reached from here. -/
  low : Nat
  /-- The dependencies that are still to be looked at. -/
  pending : List ComponentId
  deriving DecidableEq, Repr

/-- The state of the search. -/
structure Search where
  /-- All components found so far, in the order of discovery. -/
  discovered : List ComponentId := []
  /-- The components that belong to no finished part yet, latest first. -/
  stack : List ComponentId := []
  /-- The components that are being explored, innermost first. -/
  visits : List Visit := []
  /-- The cycles found so far. -/
  found : List (List ComponentId) := []
  deriving DecidableEq, Repr

namespace Search

/-- The position of a component in the order of discovery. -/
def position (search : Search) (id : ComponentId) : Nat :=
  search.discovered.idxOf id

/-- Discover a component and begin to explore it. -/
def discover (search : Search) (component : Component) : Search :=
  { search with
    discovered := search.discovered ++ [component.id]
    stack := component.id :: search.stack
    visits := ⟨component.id, search.discovered.length, component.dependencies⟩ ::
      search.visits }

/-- Cut a stack behind a component: the part down to the component, and the rest. -/
def cut (id : ComponentId) : List ComponentId → Option (List ComponentId × List ComponentId)
  | [] => none
  | top :: rest =>
      if top = id then some ([top], rest)
      else (cut id rest).map fun (part, below) => (top :: part, below)

/-- A finished part is a cycle when it has several members or its root depends on
itself. -/
def isCycle (graph : Graph) (root : ComponentId) (members : List ComponentId) : Bool :=
  1 < members.length || graph.dependsOnItself root

/-- Take a finished part from the stack if the visit is the root of one. -/
def closePart (graph : Graph) (search : Search) (visit : Visit) : Except Fault Search :=
  if visit.low = search.position visit.node then
    match cut visit.node search.stack with
    | none => .error (.unopened visit.node)
    | some (part, below) =>
        let members := part.reverse
        .ok { search with
          stack := below
          found := if isCycle graph visit.node members then search.found ++ [members]
            else search.found }
  else .ok search

/-- Tell the visit below what a finished visit has reached. -/
def report (low : Nat) : List Visit → List Visit
  | [] => []
  | visit :: visits => { visit with low := min visit.low low } :: visits

/-- Look at the next dependency of the innermost visit, or finish that visit. -/
def step (graph : Graph) (search : Search) : Except Fault Search :=
  match search.visits with
  | [] => .ok search
  | visit :: visits =>
      match visit.pending with
      | next :: pending =>
          let rest := { search with visits := { visit with pending } :: visits }
          if next ∈ search.discovered then
            if next ∈ search.stack then
              let low := min visit.low (search.position next)
              .ok { search with visits := { visit with low, pending } :: visits }
            else .ok rest
          else (graph.store.get next).map rest.discover
      | [] =>
          (closePart graph search visit).map fun closed =>
            { closed with visits := report visit.low visits }

/-- The number of stored components that are not discovered yet. -/
def undiscovered (store : Store) (search : Search) : Nat :=
  store.components.countP fun component => component.id ∉ search.discovered

/-- The number of steps that the current visits need by themselves. -/
def remaining (visits : List Visit) : Nat :=
  (visits.map fun visit => visit.pending.length + 1).foldr (· + ·) 0

/-- What every step lowers. -/
def measure (store : Store) (search : Search) : Nat × Nat :=
  (search.undiscovered store, remaining search.visits)

theorem remaining_report (low : Nat) (visits : List Visit) :
    remaining (report low visits) = remaining visits := by
  cases visits <;> simp [report, remaining]

theorem closePart_discovered {graph : Graph} {search closed : Search} {visit : Visit}
    (h : closePart graph search visit = .ok closed) :
    closed.discovered = search.discovered := by
  unfold closePart at h
  split at h
  · split at h
    · cases h
    · cases h
      rfl
  · cases h
    rfl

theorem undiscovered_discover_lt {store : Store} {search : Search} {component : Component}
    (stored : component ∈ store.components) (new : component.id ∉ search.discovered) :
    (search.discover component).undiscovered store < search.undiscovered store := by
  have split_lt : ∀ components : List Component, component ∈ components →
      components.countP (fun c => c.id ∉ (search.discover component).discovered) <
        components.countP (fun c => c.id ∉ search.discovered) := by
    intro components member
    have weaker : ∀ c : Component, c ∈ components →
        decide (c.id ∉ (search.discover component).discovered) = true →
          decide (c.id ∉ search.discovered) = true := by
      intro c _ h
      simp only [discover, List.mem_append, decide_eq_true_eq, not_or] at h ⊢
      exact h.1
    obtain ⟨front, back, rfl⟩ := List.append_of_mem member
    have hfront := List.countP_mono_left (l := front) (fun c hc => weaker c (by simp [hc]))
    have hback := List.countP_mono_left (l := back) (fun c hc => weaker c (by simp [hc]))
    have hin : decide (component.id ∉ search.discovered) = true := by simpa using new
    have hout : decide (component.id ∉ (search.discover component).discovered) = false := by
      simp [discover]
    simp only [List.countP_append, List.countP_cons, hin, hout] at hfront hback ⊢
    simp only [if_true, Bool.false_eq_true, if_false]
    omega
  exact split_lt store.components stored

theorem step_measure {graph : Graph} {search next : Search} (open_ : search.visits ≠ [])
    (h : search.step graph = .ok next) :
    Prod.Lex (· < ·) (· < ·) (next.measure graph.store) (search.measure graph.store) := by
  unfold step at h
  split at h
  · next hv => exact absurd hv open_
  · next visit visits hv =>
    split at h
    · next top pending hp =>
      have shorter : ∀ (discovered stack : List ComponentId) (low : Nat) (found),
          discovered = search.discovered →
          Prod.Lex (· < ·) (· < ·)
            (measure graph.store ⟨discovered, stack, ⟨visit.node, low, pending⟩ :: visits, found⟩)
            (search.measure graph.store) := by
        intro discovered stack low found hd
        subst hd
        simp only [measure, undiscovered, hv, remaining, List.map_cons, List.foldr_cons, hp,
          List.length_cons]
        exact Prod.Lex.right _ (by omega)
      split at h
      · split at h <;> cases h
        · exact shorter _ _ _ _ rfl
        · exact shorter _ _ _ _ rfl
      · next new =>
        unfold Store.get at h
        split at h
        · next component hc =>
          cases h
          refine Prod.Lex.left _ _ ?_
          have stored := List.mem_of_find?_eq_some hc
          have same : component.id = top := by simpa using List.find?_some hc
          have fewer : ∀ before : Search, before.discovered = search.discovered →
              (before.discover component).undiscovered graph.store <
                before.undiscovered graph.store := fun before hb =>
            undiscovered_discover_lt stored (by rw [same, hb]; exact new)
          exact fewer _ rfl
        · cases h
    · next hp =>
      cases hclosed : closePart graph search visit with
      | error fault => rw [hclosed] at h; cases h
      | ok closed =>
        rw [hclosed] at h
        cases h
        simp only [measure, undiscovered, closePart_discovered hclosed, remaining_report, hv]
        refine Prod.Lex.right _ ?_
        simp [remaining, hp]

/-- Take steps until no visit is left. -/
def run (graph : Graph) (search : Search) : Except Fault Search :=
  if _opened : search.visits = [] then .ok search
  else
    match _stepped : search.step graph with
    | .error fault => .error fault
    | .ok next => run graph next
termination_by search.measure graph.store
decreasing_by exact step_measure _opened _stepped

/-- Explore everything that can be reached from a component and is not discovered yet. -/
def explore (graph : Graph) (search : Search) (root : ComponentId) : Except Fault Search :=
  if root ∈ search.discovered then .ok search
  else
    match graph.store.get root with
    | .error fault => .error fault
    | .ok component => run graph (search.discover component)

end Search

namespace Graph

/-- The cycles of a graph, in the order in which the search completes them. -/
def findCycles (graph : Graph) : Except Fault (List (List ComponentId)) :=
  (graph.store.ids.foldlM (Search.explore graph) {}).map (·.found)

/-- The notices about cycles. -/
def cycleNotices (cycles : List (List ComponentId)) : List Notice :=
  if cycles.isEmpty then []
  else
    .cyclesFound cycles.length ::
      cycles.zipIdx.map fun (members, position) => .cycleFound (position + 1) members

/-- The search for cycles with its notices. -/
def findCyclesTraced (graph : Graph) : Traced (List (List ComponentId)) :=
  ⟨match graph.findCycles with
    | .ok cycles => cycleNotices cycles
    | .error _ => [], graph.findCycles⟩

end Graph

/-- The ids that take part in some cycle, in ascending order. -/
def cyclicIds (cycles : List (List ComponentId)) : List ComponentId :=
  ascending (distinct cycles.flatten)

end DepAtlas
