import DepAtlas.Proofs.Construction
import DepAtlas.Proofs.CycleSearch.Parts
import Mathlib.Data.List.Pairwise

/-!
# The cycles that the search finds

A visit that has reached nothing below its own node closes a strongly connected part when it
ends, and any other visit hands what it owns to the visit below.  So each step keeps the
invariant of the search.

The main statement is that the search ends without a fault and lists exactly the strongly
connected parts that contain a cycle.
-/

namespace DepAtlas

namespace Search

variable {store : Store} {owned below : List ComponentId} {visit : Visit}

/-! ## Discovering a component -/

/-- The invariant behind a discovery, however the visits below it stand by then. -/
theorem Invariant.discover {search : Search} (inv : Invariant store search)
    {component : Component} (found : store.get? component.id = some component)
    (fresh : component.id ∉ search.discovered)
    (returns : ∀ id ∈ search.stack, store.Leads id component.id) {visits : List Visit}
    (divided : Divided store (search.discovered ++ [component.id]) visits search.stack) :
    Invariant store (({ search with visits } : Search).discover component) := by
  have unstacked : component.id ∉ search.stack := fun member =>
    fresh (inv.stacked component.id member)
  have finished : ∀ {id}, search.Finished id →
      (({ search with visits } : Search).discover component).Finished id := by
    rintro id ⟨known, outside⟩
    refine ⟨List.mem_append_left [component.id] known, ?_⟩
    intro member
    rcases List.mem_cons.1 member with rfl | older
    · exact fresh known
    · exact outside older
  have wasFinished : ∀ {id}, (({ search with visits } : Search).discover component).Finished id →
      search.Finished id := by
    rintro id ⟨known, outside⟩
    have old : id ∈ search.stack → False := fun member =>
      outside (List.mem_cons_of_mem component.id member)
    rcases List.mem_append.1 known with older | new
    · exact ⟨older, old⟩
    · rw [List.mem_singleton.1 new] at outside
      exact absurd List.mem_cons_self outside
  constructor
  case nodup =>
    exact List.nodup_append.2 ⟨inv.nodup, by simp, by
      intro id old other new
      rw [List.mem_singleton] at new
      rintro rfl
      exact fresh (new ▸ old)⟩
  case stored =>
    intro id member
    rcases List.mem_append.1 member with old | new
    · exact inv.stored id old
    · rw [List.mem_singleton.1 new]
      exact Store.mem_keys.2 ⟨component, (Store.mem_of_get? found).1, rfl⟩
  case stacked =>
    intro id member
    rcases List.mem_cons.1 member with rfl | old
    · exact List.mem_append_right search.discovered List.mem_cons_self
    · exact List.mem_append_left [component.id] (inv.stacked id old)
  case rising => exact inv.rising.push inv.stacked fresh
  case closed =>
    intro source done target depends
    exact finished (inv.closed source (wasFinished done) target depends)
  case divided =>
    exact (Divided.cons (owns_discover found fresh returns) divided :
      Divided store _ _ ([] ++ component.id :: search.stack))
  case found_nodup => exact inv.found_nodup
  case found_finished =>
    intro members member id inside
    exact finished (inv.found_finished members member id inside)
  case found_ne_nil => exact inv.found_ne_nil
  case found_iff =>
    intro source done target
    exact inv.found_iff source (wasFinished done) target

/-! ## Ending a visit -/

theorem Invariant.revisit {search : Search} (inv : Invariant store search) {visits : List Visit}
    (divided : Divided store search.discovered visits search.stack) :
    Invariant store { search with visits } :=
  { inv with divided }

/-- A visit whose bound is not above the reported one stays as it is. -/
theorem report_eq_self {low : Nat} {visits : List Visit}
    (lower : ∀ parent rest, visits = parent :: rest → parent.low ≤ low) :
    report low visits = visits := by
  cases visits with
  | nil => rfl
  | cons parent rest => rw [report, Nat.min_eq_left (lower parent rest rfl)]

/-- The end of a visit at its own node closes a part. -/
theorem Invariant.endRoot {graph : Graph} {search : Search} (inv : Invariant graph.store search)
    {visits : List Visit} (stack : search.stack = owned ++ visit.node :: below)
    (owns : Owns graph.store search.discovered visit owned below)
    (rest : Divided graph.store search.discovered visits below) (ended : visit.pending = [])
    (root : visit.low = search.position visit.node) :
    ∃ closed, closePart graph search visit = .ok closed ∧
      Invariant graph.store { closed with visits := report visit.low visits } := by
  have rising := inv.rising
  rw [stack] at rising
  have fresh : visit.node ∉ owned := fun member =>
    Nat.lt_irrefl _ (rising.lt_of_mem_owned member)
  have unchanged : report visit.low visits = visits := by
    apply report_eq_self
    rintro parent others rfl
    obtain ⟨ownedBelow, lowest, rfl, ownsBelow, _⟩ := rest.inv
    have lower : search.discovered.idxOf parent.node < search.discovered.idxOf visit.node :=
      rising.lt_of_mem_below (by simp)
    have bound := ownsBelow.low_le
    rw [position] at root
    omega
  refine ⟨_, by rw [closePart, if_pos root, stack, cut_append fresh], ?_⟩
  rw [unchanged]
  exact inv.close (stack.trans (List.append_cons ..)) (by simp)
    (owns.isPart inv stack ended root) rest

/-- The end of a visit above its bound merges its segment into the next one. -/
theorem Invariant.endInner {graph : Graph} {search : Search}
    (inv : Invariant graph.store search) {visits : List Visit}
    (stack : search.stack = owned ++ visit.node :: below)
    (owns : Owns graph.store search.discovered visit owned below)
    (rest : Divided graph.store search.discovered visits below) (ended : visit.pending = [])
    (inner : visit.low ≠ search.position visit.node) :
    Invariant graph.store { search with visits := report visit.low visits } := by
  apply inv.revisit
  cases rest with
  | nil =>
      rcases owns.low_reached with own | ⟨target, isBelow, _⟩
      · exact absurd own inner
      · simp at isBelow
  | @cons parent others ownedBelow lowest ownsBelow rest =>
      have rising := inv.rising
      rw [stack] at rising
      have entered := owns.returns parent.node (by simp)
      have merged := owns.absorb ownsBelow inner ended rising entered
      have regrouped : search.stack =
          (owned ++ visit.node :: ownedBelow) ++ parent.node :: lowest := by
        simp [stack]
      rw [regrouped]
      exact .cons merged rest

/-! ## Steps -/

/-- A step that looks at a component found before. -/
theorem Invariant.stepSeen {graph : Graph} {search : Search}
    (inv : Invariant graph.store search) {visits : List Visit}
    (opened : search.visits = visit :: visits) {next : ComponentId} {pending : List ComponentId}
    (waiting : visit.pending = next :: pending) (seen : next ∈ search.discovered) :
    ∃ low, search.step graph =
        .ok { search with visits := { visit with low, pending } :: visits } ∧
      Invariant graph.store { search with visits := { visit with low, pending } :: visits } := by
  have divided := inv.divided
  rw [opened] at divided
  obtain ⟨owned, below, stack, owns, rest⟩ := divided.inv
  by_cases isStacked : next ∈ search.stack
  · have rising := inv.rising
    rw [stack] at rising isStacked
    refine ⟨min visit.low (search.position next), ?_, inv.revisit ?_⟩
    · simp only [Search.step, opened, waiting, if_pos seen, stack, if_pos isStacked]
    · rw [stack]
      exact .cons (owns.look waiting seen
        (.inr ⟨Nat.min_le_left .., Nat.min_le_right .., owns.min_low rising isStacked⟩)) rest
  · refine ⟨visit.low, ?_, inv.revisit ?_⟩
    · simp only [Search.step, opened, waiting, if_pos seen, if_neg isStacked]
    · rw [stack]
      refine .cons (owns.look waiting seen (.inl ⟨rfl, ?_⟩)) rest
      intro isBelow
      exact isStacked (by simp [stack, isBelow])

/-- A step that discovers a component. -/
theorem Invariant.stepNew {graph : Graph} (wf : graph.store.WellFormed) {search : Search}
    (inv : Invariant graph.store search) {visits : List Visit}
    (opened : search.visits = visit :: visits) {next : ComponentId} {pending : List ComponentId}
    (waiting : visit.pending = next :: pending) (fresh : next ∉ search.discovered) :
    ∃ component, search.step graph =
        .ok (({ search with visits := { visit with pending } :: visits } : Search).discover
          component) ∧
      Invariant graph.store
        (({ search with visits := { visit with pending } :: visits } : Search).discover
          component) := by
  have divided := inv.divided
  rw [opened] at divided
  obtain ⟨owned, below, stack, owns, rest⟩ := divided.inv
  have depends : graph.store.DependsOn visit.node next := owns.pending next (by simp [waiting])
  obtain ⟨component, found⟩ := Store.exists_get? (wf.target_mem depends)
  obtain rfl := (Store.mem_of_get? found).2
  have stacked := inv.stacked
  rw [stack] at stacked
  refine ⟨component, ?_, inv.discover found fresh ?_ ?_⟩
  · simp only [Search.step, opened, waiting, if_neg fresh, Store.get_eq_ok found, Except.map]
  · intro id member
    exact (owns.returns id (stack ▸ member)).tail depends
  · rw [stack]
    refine .cons ((owns.extend stacked component.id).look waiting (by simp) (.inl ⟨rfl, ?_⟩))
      (rest.extend (fun id member => stacked id (by simp [member])) component.id)
    intro isBelow
    exact fresh (stacked component.id (by simp [isBelow]))

/-- A step does not fail, forgets no discovery and keeps the invariant. -/
theorem Invariant.step {graph : Graph} (wf : graph.store.WellFormed) {search : Search}
    (inv : Invariant graph.store search) :
    ∃ next, search.step graph = .ok next ∧ Invariant graph.store next ∧
      ∀ id ∈ search.discovered, id ∈ next.discovered := by
  cases opened : search.visits with
  | nil => exact ⟨search, by simp only [Search.step, opened], inv, fun _ => id⟩
  | cons visit visits =>
      cases waiting : visit.pending with
      | nil =>
          have divided := inv.divided
          rw [opened] at divided
          obtain ⟨owned, below, stack, owns, rest⟩ := divided.inv
          by_cases root : visit.low = search.position visit.node
          · obtain ⟨closed, done, invariant⟩ := inv.endRoot stack owns rest waiting root
            refine ⟨_, by simp only [Search.step, opened, waiting, done, Except.map], invariant, ?_⟩
            intro id member
            rwa [← closePart_discovered done] at member
          · refine ⟨{ search with visits := report visit.low visits }, ?_,
              inv.endInner stack owns rest waiting root, fun _ => id⟩
            simp only [Search.step, opened, waiting, closePart, if_neg root, Except.map]
      | cons next pending =>
          by_cases seen : next ∈ search.discovered
          · obtain ⟨low, stepped, invariant⟩ := inv.stepSeen opened waiting seen
            exact ⟨_, stepped, invariant, fun _ => id⟩
          · obtain ⟨component, stepped, invariant⟩ := inv.stepNew wf opened waiting seen
            exact ⟨_, stepped, invariant, fun _ => List.mem_append_left [component.id]⟩

/-! ## Runs -/

/-- A search that rests between two roots. -/
structure Resting (store : Store) (search : Search) : Prop extends Invariant store search where
  visits_eq : search.visits = []

theorem Resting.stack_eq {search : Search} (resting : Resting store search) :
    search.stack = [] := by
  have divided := resting.divided
  rw [resting.visits_eq] at divided
  exact divided.stack_eq_nil

/-- A search that rests may go on from anything that it has not discovered. -/
theorem Resting.invariant_discover {search : Search} (resting : Resting store search)
    {component : Component} (found : store.get? component.id = some component)
    (fresh : component.id ∉ search.discovered) : Invariant store (search.discover component) := by
  have empty := resting.stack_eq
  apply resting.discover found fresh
  · simp [empty]
  · rw [resting.visits_eq, empty]
    exact .nil

/-- A run from a search with the invariant comes to rest. -/
theorem Invariant.run {graph : Graph} (wf : graph.store.WellFormed) {search : Search}
    (inv : Invariant graph.store search) :
    ∃ final, Search.run graph search = .ok final ∧ Resting graph.store final ∧
      ∀ id ∈ search.discovered, id ∈ final.discovered := by
  fun_induction Search.run graph search with
  | case1 search ended => exact ⟨search, rfl, ⟨inv, ended⟩, fun _ => id⟩
  | case2 search opened fault failed =>
      obtain ⟨next, stepped, _⟩ := inv.step wf
      rw [failed] at stepped
      cases stepped
  | case3 search opened next stepped ih =>
      obtain ⟨same, again, invariant, kept⟩ := inv.step wf
      rw [stepped] at again
      cases again
      obtain ⟨final, done, resting, later⟩ := ih invariant
      exact ⟨final, done, resting, fun id member => later id (kept id member)⟩

theorem Resting.explore {graph : Graph} (wf : graph.store.WellFormed) {search : Search}
    (resting : Resting graph.store search) {root : ComponentId}
    (stored : root ∈ graph.store.keys) :
    ∃ final, search.explore graph root = .ok final ∧ Resting graph.store final ∧
      (∀ id ∈ search.discovered, id ∈ final.discovered) ∧ root ∈ final.discovered := by
  rw [Search.explore]
  by_cases seen : root ∈ search.discovered
  · rw [if_pos seen]
    exact ⟨search, rfl, resting, fun _ => id, seen⟩
  · obtain ⟨component, found⟩ := Store.exists_get? stored
    obtain rfl := (Store.mem_of_get? found).2
    obtain ⟨final, done, rests, kept⟩ := (resting.invariant_discover found seen).run wf
    rw [if_neg seen, Store.get_eq_ok found]
    refine ⟨final, done, rests, ?_, kept component.id (by simp [discover])⟩
    intro id member
    exact kept id (List.mem_append_left [component.id] member)

theorem Resting.exploreAll {graph : Graph} (wf : graph.store.WellFormed) {search : Search}
    (resting : Resting graph.store search) {roots : List ComponentId}
    (stored : ∀ root ∈ roots, root ∈ graph.store.keys) :
    ∃ final, roots.foldlM (Search.explore graph) search = .ok final ∧
      Resting graph.store final ∧ (∀ id ∈ search.discovered, id ∈ final.discovered) ∧
      ∀ root ∈ roots, root ∈ final.discovered := by
  induction roots generalizing search with
  | nil => exact ⟨search, rfl, resting, fun _ => id, by simp⟩
  | cons root roots ih =>
      obtain ⟨middle, explored, rests, kept, seen⟩ := resting.explore wf (stored root (by simp))
      obtain ⟨final, done, ends, later, all⟩ := ih rests fun other member =>
        stored other (List.mem_cons_of_mem root member)
      refine ⟨final, ?_, ends, fun id member => later id (kept id member), ?_⟩
      · rw [List.foldlM_cons, explored]
        exact done
      · intro other member
        rcases List.mem_cons.1 member with rfl | rest
        · exact later other seen
        · exact all other rest

theorem resting_empty (store : Store) : Resting store {} := by
  refine ⟨?_, rfl⟩
  constructor <;> simp [Finished, Rising, Divided.nil]

end Search

/-! ## The cycles of a graph -/

/-- The lists that a graph's cycles make up: two components share a list when they reach each
other, no component stands in two places, and no list is empty. -/
structure Store.AreCycles (store : Store) (cycles : List (List ComponentId)) : Prop where
  together : ∀ source target, (∃ members ∈ cycles, source ∈ members ∧ target ∈ members) ↔
    store.Reaches source target ∧ store.Reaches target source
  nodup : cycles.flatten.Nodup
  ne_nil : ∀ members ∈ cycles, members ≠ []

/-- The components on cycles are those that reach themselves. -/
theorem Store.AreCycles.mem_flatten_iff {store : Store} {cycles : List (List ComponentId)}
    (correct : store.AreCycles cycles) {id : ComponentId} :
    id ∈ cycles.flatten ↔ store.Reaches id id := by
  have together := correct.together id id
  simp only [and_self] at together
  rw [List.mem_flatten, together]

theorem Store.AreCycles.disjoint {store : Store} {cycles : List (List ComponentId)}
    (correct : store.AreCycles cycles) : cycles.Pairwise List.Disjoint :=
  (List.nodup_flatten.1 correct.nodup).2

/-- A component lies on one cycle at most. -/
theorem Store.AreCycles.eq_of_mem {store : Store} {cycles : List (List ComponentId)}
    (correct : store.AreCycles cycles) {members others : List ComponentId}
    (member : members ∈ cycles) (other : others ∈ cycles) {id : ComponentId}
    (inside : id ∈ members) (insideOther : id ∈ others) : members = others := by
  by_contra different
  have symmetric : Std.Symm (List.Disjoint (α := ComponentId)) := ⟨fun _ _ => List.disjoint_symm⟩
  exact correct.disjoint.forall member other different inside insideOther

/-- The members of a cycle reach each other. -/
theorem Store.AreCycles.mem_iff {store : Store} {cycles : List (List ComponentId)}
    (correct : store.AreCycles cycles) {members : List ComponentId} (member : members ∈ cycles)
    {source target : ComponentId} (inside : source ∈ members) :
    target ∈ members ↔ store.Reaches source target ∧ store.Reaches target source := by
  rw [← correct.together]
  constructor
  · intro other
    exact ⟨members, member, inside, other⟩
  · rintro ⟨others, listed, first, second⟩
    rwa [correct.eq_of_mem member listed inside first]

theorem Store.SameDependencies.areCycles {store other : Store}
    (same : store.SameDependencies other) {cycles : List (List ComponentId)}
    (correct : store.AreCycles cycles) : other.AreCycles cycles := by
  refine ⟨?_, correct.nodup, correct.ne_nil⟩
  intro source target
  rw [correct.together, same.reaches_iff, same.reaches_iff]

/-- On a well-formed graph the search ends without a fault and finds the cycles. -/
theorem Graph.WellFormed.findCycles {graph : Graph} (wf : graph.WellFormed) :
    ∃ cycles, graph.findCycles = .ok cycles ∧ graph.store.AreCycles cycles := by
  have roots : ∀ root ∈ graph.store.ids, root ∈ graph.store.keys := fun _ => Store.mem_ids.1
  obtain ⟨final, done, resting, _, all⟩ :=
    (Search.resting_empty graph.store).exploreAll wf.store roots
  have finished : ∀ id ∈ graph.store.keys, final.Finished id := by
    intro id stored
    exact ⟨all id (Store.mem_ids.2 stored), by simp [resting.stack_eq]⟩
  refine ⟨final.found, by rw [Graph.findCycles, done]; rfl, ?_, resting.found_nodup,
    resting.found_ne_nil⟩
  intro source target
  constructor
  · rintro ⟨members, member, sourceInside, targetInside⟩
    have done := resting.found_finished members member source sourceInside
    exact (resting.found_iff source done target).1 ⟨members, member, sourceInside, targetInside⟩
  · rintro ⟨there, back⟩
    obtain ⟨next, depends, _⟩ := Relation.TransGen.head'_iff.1 there
    exact (resting.found_iff source (finished source depends.source_mem) target).2 ⟨there, back⟩

/-- Whatever graph comes about by operations, the search for cycles ends without a fault.  Two
components stand in one of its lists exactly when each reaches the other by one or more
dependencies; so a component is listed at all exactly when it lies on a closed walk. -/
theorem findCycles_after (operations : List Graph.Operation) :
    ∃ cycles, (Graph.after operations).findCycles = .ok cycles ∧
      (∀ source target, (∃ members ∈ cycles, source ∈ members ∧ target ∈ members) ↔
        (Graph.after operations).store.Reaches source target ∧
          (Graph.after operations).store.Reaches target source) ∧
      cycles.flatten.Nodup ∧ ∀ members ∈ cycles, members ≠ [] := by
  obtain ⟨cycles, found, correct⟩ := (Graph.wellFormed_after operations).findCycles
  exact ⟨cycles, found, correct.together, correct.nodup, correct.ne_nil⟩

end DepAtlas
