import DepAtlas.Proofs.CycleSearch.Reporting

/-!
# The recursive search

The textbook form of the search for strongly connected components: to connect a component, give it
the next number, put it on the stack and look at its successors one after the other, connecting at
once each that has no number yet.  What a component returns is the least number that it has reached.

The search that keeps its own visits does the same.  A visit on top of others goes through the
successors of its component as the recursive search does, leaves the visits below alone, and tells
the one right below what the call returns.
-/

namespace DepAtlas

/-! ## The search -/

/-- What a component depends on, in order; nothing, if it is not stored. -/
def Store.successors (store : Store) (id : ComponentId) : List ComponentId :=
  ((store.get? id).map (·.dependencies)).getD []

theorem Store.mem_successors {store : Store} {source target : ComponentId} :
    target ∈ store.successors source ↔ store.DependsOn source target := by
  rw [successors, DependsOn]
  cases store.get? source <;> simp

/-- How far the recursive search has come. -/
structure Walk where
  /-- The components without a number. -/
  unseen : List ComponentId
  /-- The components with a number, in the order in which they were reached. -/
  reached : List ComponentId := []
  /-- The components that belong to no finished part yet, latest first. -/
  stack : List ComponentId := []
  /-- The cycles found so far. -/
  found : List (List ComponentId) := []
  deriving DecidableEq, Repr

namespace Walk

/-- The number of a component that was reached. -/
def number (walk : Walk) (id : ComponentId) : Nat :=
  walk.reached.idxOf id

/-- Give a component the next number and put it on the stack. -/
def enter (walk : Walk) (node : ComponentId) : Walk :=
  { walk with
    unseen := walk.unseen.filter (· ≠ node)
    reached := walk.reached ++ [node]
    stack := node :: walk.stack }

/-- Leave a component.  If it has reached no lower number than its own, it is the root of a part: of
everything on the stack down to it. -/
def leave (successors : ComponentId → List ComponentId) (walk : Walk) (node : ComponentId)
    (low : Nat) : Walk :=
  if low = walk.number node then
    let members := node :: (walk.stack.takeWhile (· ≠ node)).reverse
    { walk with
      stack := (walk.stack.dropWhile (· ≠ node)).tail
      found :=
        if 1 < members.length ∨ node ∈ successors node then walk.found ++ [members]
        else walk.found }
  else walk

theorem length_enter_lt {walk : Walk} {node : ComponentId} (new : node ∈ walk.unseen) :
    (walk.enter node).unseen.length < walk.unseen.length := by
  rw [enter, List.length_filter_lt_length_iff_exists]
  exact ⟨node, new, by simp⟩

@[simp] theorem unseen_leave (successors : ComponentId → List ComponentId) (walk : Walk)
    (node : ComponentId) (low : Nat) : (walk.leave successors node low).unseen = walk.unseen := by
  rw [leave]
  split <;> rfl

@[simp] theorem reached_leave (successors : ComponentId → List ComponentId) (walk : Walk)
    (node : ComponentId) (low : Nat) :
    (walk.leave successors node low).reached = walk.reached := by
  rw [leave]
  split <;> rfl

mutual

/-- Connect a component without a number.  Every call takes components from the unseen ones, so that
the recursion ends. -/
def connect (successors : ComponentId → List ComponentId) (walk : Walk) (node : ComponentId)
    (new : node ∈ walk.unseen) :
    { result : Walk × Nat // result.1.unseen.length < walk.unseen.length } :=
  let ⟨(scanned, low), shorter⟩ :=
    scan successors (walk.enter node) walk.reached.length (successors node)
  ⟨(scanned.leave successors node low, low), by
    rw [unseen_leave]
    exact Nat.lt_of_le_of_lt shorter (length_enter_lt new)⟩
termination_by (walk.unseen.length, 0)
decreasing_by exact Prod.Lex.left _ _ (length_enter_lt new)

/-- Look at the successors of a component that has reached a number so far. -/
def scan (successors : ComponentId → List ComponentId) (walk : Walk) (low : Nat) :
    List ComponentId → { result : Walk × Nat // result.1.unseen.length ≤ walk.unseen.length }
  | [] => ⟨(walk, low), Nat.le_refl _⟩
  | next :: rest =>
      if new : next ∈ walk.unseen then
        let ⟨(middle, reached), shorter⟩ := connect successors walk next new
        let ⟨result, again⟩ := scan successors middle (min low reached) rest
        ⟨result, Nat.le_trans again (Nat.le_of_lt shorter)⟩
      else if next ∈ walk.stack then scan successors walk (min low (walk.number next)) rest
      else scan successors walk low rest
termination_by pending => (walk.unseen.length, pending.length + 1)
decreasing_by
  · exact Prod.Lex.right _ (by simp)
  · exact Prod.Lex.left _ _ shorter
  · exact Prod.Lex.right _ (by simp)
  · exact Prod.Lex.right _ (by simp)

end

/-- Connect a root, unless it has a number. -/
def root (successors : ComponentId → List ComponentId) (walk : Walk) (node : ComponentId) : Walk :=
  if new : node ∈ walk.unseen then (connect successors walk node new).1.1 else walk

end Walk

/-- The recursive search over all components, with its roots in ascending order. -/
def Store.recursiveSearch (store : Store) : Walk :=
  store.ids.foldl (Walk.root store.successors) { unseen := store.keys }

/-! ## The machine does the same -/

namespace Walk

/-- The state of the machine at some point of the recursive search. -/
def search (walk : Walk) (visits : List Visit) : Search where
  discovered := walk.reached
  stack := walk.stack
  visits
  found := walk.found

/-- The unseen components are the stored ones that were not reached. -/
def Covers (walk : Walk) (store : Store) : Prop :=
  ∀ id, id ∈ walk.unseen ↔ id ∈ store.keys ∧ id ∉ walk.reached

theorem Covers.enter {walk : Walk} {store : Store} (covers : walk.Covers store)
    (node : ComponentId) : (walk.enter node).Covers store := by
  intro id
  simp [Walk.enter, covers id, and_assoc]

theorem Covers.leave {walk : Walk} {store : Store} (covers : walk.Covers store)
    (node : ComponentId) (low : Nat) : (walk.leave store.successors node low).Covers store := by
  intro id
  rw [unseen_leave, reached_leave, covers]

theorem suffix_tail_dropWhile {node : ComponentId} {below stack : List ComponentId}
    (held : node :: below <:+ stack) : below <:+ (stack.dropWhile (· ≠ node)).tail := by
  induction stack with
  | nil => simp at held
  | cons top rest ih =>
      by_cases same : top = node
      · subst same
        rw [List.dropWhile_cons_of_neg (by simp), List.tail_cons]
        rcases List.suffix_cons_iff.1 held with whole | lower
        · obtain ⟨_, rfl⟩ := List.cons.inj whole
          exact List.suffix_refl below
        · exact (List.suffix_cons top below).trans lower
      · rw [List.dropWhile_cons_of_pos (by simpa using same)]
        rcases List.suffix_cons_iff.1 held with whole | lower
        · exact absurd (List.cons.inj whole).1.symm same
        · exact ih lower

theorem cut_eq {node : ComponentId} {stack : List ComponentId} (member : node ∈ stack) :
    Search.cut node stack =
      some (stack.takeWhile (· ≠ node) ++ [node], (stack.dropWhile (· ≠ node)).tail) := by
  induction stack with
  | nil => simp at member
  | cons top rest ih =>
      rw [Search.cut]
      by_cases same : top = node
      · simp [same]
      · have later : node ∈ rest := (List.mem_cons.1 member).resolve_left (Ne.symm same)
        simp [same, ih later]

theorem isCycle_iff {graph : Graph} {node : ComponentId} {members : List ComponentId} :
    Search.isCycle graph node members = true ↔
      1 < members.length ∨ node ∈ graph.store.successors node := by
  rw [Search.isCycle, Graph.dependsOnItself, Store.successors]
  cases graph.store.get? node <;> simp

theorem closePart_eq {graph : Graph} {walk : Walk} {visit : Visit} {visits : List Visit}
    (member : visit.node ∈ walk.stack) :
    Search.closePart graph (walk.search visits) visit =
      .ok ((walk.leave graph.store.successors visit.node visit.low).search visits) := by
  rw [Search.closePart, leave]
  by_cases root : visit.low = walk.number visit.node
  · have position : visit.low = (walk.search visits).position visit.node := root
    rw [if_pos position, if_pos root]
    simp only [search, cut_eq member, isCycle_iff, List.reverse_append, List.reverse_singleton,
      List.singleton_append]
  · have position : visit.low ≠ (walk.search visits).position visit.node := root
    rw [if_neg position, if_neg root]

theorem run_of_step {graph : Graph} {search next : Search} (opened : search.visits ≠ [])
    (stepped : search.step graph = .ok next) :
    Search.run graph search = Search.run graph next := by
  rw [Search.run, dif_neg opened]
  split
  next fault failed =>
    rw [stepped] at failed
    cases failed
  next other again =>
    rw [stepped] at again
    cases again
    rfl

theorem suffix_stack_leave {successors : ComponentId → List ComponentId} {walk : Walk}
    {node : ComponentId} {below : List ComponentId} (held : node :: below <:+ walk.stack)
    (low : Nat) : below <:+ (walk.leave successors node low).stack := by
  rw [leave]
  split
  · exact suffix_tail_dropWhile held
  · exact (List.suffix_cons node below).trans held

/-- A call takes nothing from the stack that was there before it. -/
theorem suffix_stack (successors : ComponentId → List ComponentId) :
    (∀ walk node new, walk.stack <:+ (connect successors walk node new).1.1.stack) ∧
      ∀ walk low pending, walk.stack <:+ (scan successors walk low pending).1.1.stack := by
  apply connect.mutual_induct
  case case1 =>
    intro walk node new scanned low shorter result ih
    rw [connect, result]
    rw [result] at ih
    exact suffix_stack_leave ih low
  case case2 =>
    intro walk low
    simp [scan]
  case case3 =>
    intro walk low next rest new middle reached shorter connected result again scanned ih ihRest
    rw [scan, dif_pos new, connected]
    rw [connected] at ih
    exact ih.trans ihRest
  case case4 =>
    intro walk low next rest old stacked ih
    rw [scan, dif_neg old, if_pos stacked]
    exact ih
  case case5 =>
    intro walk low next rest old unstacked ih
    rw [scan, dif_neg old, if_neg unstacked]
    exact ih

/-! ## Calls on the machine -/

/-- With some visits the machine comes from one state of the recursive search to another. -/
structure Follows (graph : Graph) (walk : Walk) (visits : List Visit) (final : Walk)
    (later : List Visit) : Prop where
  run_eq : Search.run graph (walk.search visits) = Search.run graph (final.search later)
  covers : final.Covers graph.store

section Calls

variable {graph : Graph} {walk middle final : Walk} {visits between later : List Visit}

theorem Follows.of_step (opened : visits ≠ [])
    (stepped : (walk.search visits).step graph = .ok (middle.search between))
    (follows : Follows graph middle between final later) :
    Follows graph walk visits final later :=
  ⟨(run_of_step opened stepped).trans follows.run_eq, follows.covers⟩

theorem Follows.trans (first : Follows graph walk visits middle between)
    (second : Follows graph middle between final later) :
    Follows graph walk visits final later :=
  ⟨first.run_eq.trans second.run_eq, second.covers⟩

theorem discover_search {component : Component}
    (found : graph.store.get? component.id = some component) :
    (walk.search visits).discover component =
      (walk.enter component.id).search
        (⟨component.id, walk.reached.length, graph.store.successors component.id⟩ :: visits) := by
  rw [Store.successors, found]
  rfl

theorem step_new (covers : walk.Covers graph.store) {next : ComponentId} (new : next ∈ walk.unseen)
    (node : ComponentId) (low : Nat) (rest : List ComponentId) (visits : List Visit) :
    (walk.search (⟨node, low, next :: rest⟩ :: visits)).step graph =
      .ok ((walk.enter next).search (⟨next, walk.reached.length, graph.store.successors next⟩ ::
        ⟨node, low, rest⟩ :: visits)) := by
  obtain ⟨stored, fresh⟩ := (covers next).1 new
  obtain ⟨component, found⟩ := Store.exists_get? stored
  obtain rfl := (Store.mem_of_get? found).2
  rw [← discover_search found, Search.step]
  simp only [search, if_neg fresh, Store.get_eq_ok found, Except.map]

theorem step_old (covers : walk.Covers graph.store) {next : ComponentId}
    (stored : next ∈ graph.store.keys) (old : next ∉ walk.unseen) (node : ComponentId) (low : Nat)
    (rest : List ComponentId) (visits : List Visit) :
    (walk.search (⟨node, low, next :: rest⟩ :: visits)).step graph =
      .ok (walk.search (⟨node, if next ∈ walk.stack then min low (walk.number next) else low,
        rest⟩ :: visits)) := by
  let before := walk.search (⟨node, low, next :: rest⟩ :: visits)
  have opened : before.visits = ⟨node, low, next :: rest⟩ :: visits := rfl
  have known : next ∈ before.discovered :=
    Decidable.not_not.1 fun fresh => old ((covers next).2 ⟨stored, fresh⟩)
  change before.step graph = _
  by_cases stacked : next ∈ before.stack
  · simp only [Search.step, opened, if_pos known, if_pos stacked]
    rw [if_pos (show next ∈ walk.stack from stacked)]
    rfl
  · simp only [Search.step, opened, if_pos known, if_neg stacked]
    rw [if_neg (show next ∉ walk.stack from stacked)]
    rfl

theorem step_end {node : ComponentId} {low : Nat} (member : node ∈ walk.stack)
    (visits : List Visit) :
    (walk.search (⟨node, low, []⟩ :: visits)).step graph =
      .ok ((walk.leave graph.store.successors node low).search (Search.report low visits)) := by
  have closed : Search.closePart graph (walk.search (⟨node, low, []⟩ :: visits)) ⟨node, low, []⟩ =
      .ok ((walk.leave graph.store.successors node low).search (⟨node, low, []⟩ :: visits)) :=
    closePart_eq member
  rw [Search.step]
  simp only [search] at closed ⊢
  simp only [closed, Except.map]

/-- What the recursive search does in a call, the machine does with a visit on top of others: it
leaves the others alone, except that it tells the one below what was reached. -/
theorem follows_calls (wf : graph.store.WellFormed) :
    (∀ walk node new, walk.Covers graph.store → ∀ visits,
      Follows graph (walk.enter node)
        (⟨node, walk.reached.length, graph.store.successors node⟩ :: visits)
        (connect graph.store.successors walk node new).1.1
        (Search.report (connect graph.store.successors walk node new).1.2 visits)) ∧
    ∀ walk low pending, walk.Covers graph.store → (∀ id ∈ pending, id ∈ graph.store.keys) →
      ∀ node visits, Follows graph walk (⟨node, low, pending⟩ :: visits)
        (scan graph.store.successors walk low pending).1.1
        (⟨node, (scan graph.store.successors walk low pending).1.2, []⟩ :: visits) := by
  apply connect.mutual_induct
  case case1 =>
    intro walk node new scanned low shorter result ih covers visits
    have held := (suffix_stack graph.store.successors).2 (walk.enter node) walk.reached.length
      (graph.store.successors node)
    have stored : ∀ id ∈ graph.store.successors node, id ∈ graph.store.keys :=
      fun id member => wf.target_mem (Store.mem_successors.1 member)
    have looked := ih (covers.enter node) stored node visits
    rw [result] at held looked
    rw [connect, result]
    have member : node ∈ scanned.stack := held.subset List.mem_cons_self
    refine looked.trans (.of_step (by simp) (step_end member visits) ⟨rfl, ?_⟩)
    exact looked.covers.leave node low
  case case2 =>
    intro walk low covers _ node visits
    rw [scan]
    exact ⟨rfl, covers⟩
  case case3 =>
    intro walk low next rest new middle reached shorter connected result again scanned ih ihRest
      covers stored node visits
    rw [scan, dif_pos new, connected]
    have called := ih covers (⟨node, low, rest⟩ :: visits)
    rw [connected] at called
    have pending : ∀ id ∈ rest, id ∈ graph.store.keys :=
      fun id member => stored id (List.mem_cons_of_mem next member)
    have looked := ihRest called.covers pending node visits
    exact .of_step (by simp) (step_new covers new node low rest visits) (called.trans looked)
  case case4 =>
    intro walk low next rest old stacked ih covers stored node visits
    rw [scan, dif_neg old, if_pos stacked]
    have stepped := step_old covers (stored next List.mem_cons_self) old node low rest visits
    rw [if_pos stacked] at stepped
    exact .of_step (by simp) stepped (ih covers
      (fun id member => stored id (List.mem_cons_of_mem next member)) node visits)
  case case5 =>
    intro walk low next rest old unstacked ih covers stored node visits
    rw [scan, dif_neg old, if_neg unstacked]
    have stepped := step_old covers (stored next List.mem_cons_self) old node low rest visits
    rw [if_neg unstacked] at stepped
    exact .of_step (by simp) stepped (ih covers
      (fun id member => stored id (List.mem_cons_of_mem next member)) node visits)

theorem run_search_nil (walk : Walk) :
    Search.run graph (walk.search []) = .ok (walk.search []) := by
  rw [Search.run]
  exact dif_pos rfl

theorem explore_search (wf : graph.store.WellFormed) (covers : walk.Covers graph.store)
    {node : ComponentId} (stored : node ∈ graph.store.keys) :
    (walk.search []).explore graph node = .ok ((walk.root graph.store.successors node).search []) ∧
      (walk.root graph.store.successors node).Covers graph.store := by
  rw [Search.explore, root]
  by_cases new : node ∈ walk.unseen
  · have fresh : node ∉ (walk.search []).discovered := ((covers node).1 new).2
    obtain ⟨component, found⟩ := Store.exists_get? stored
    obtain rfl := (Store.mem_of_get? found).2
    have called := (follows_calls wf).1 walk component.id new covers []
    rw [if_neg fresh, dif_pos new, Store.get_eq_ok found]
    refine ⟨?_, called.covers⟩
    simp only [discover_search found]
    exact called.run_eq.trans (run_search_nil _)
  · have known : node ∈ (walk.search []).discovered :=
      Decidable.not_not.1 fun fresh => new ((covers node).2 ⟨stored, fresh⟩)
    rw [if_pos known, dif_neg new]
    exact ⟨rfl, covers⟩

theorem exploreAll_search (wf : graph.store.WellFormed) (covers : walk.Covers graph.store)
    {roots : List ComponentId} (stored : ∀ node ∈ roots, node ∈ graph.store.keys) :
    roots.foldlM (Search.explore graph) (walk.search []) =
      .ok ((roots.foldl (root graph.store.successors) walk).search []) := by
  induction roots generalizing walk with
  | nil => rfl
  | cons node roots ih =>
      obtain ⟨explored, next⟩ := explore_search wf covers (stored node List.mem_cons_self)
      rw [List.foldlM_cons, explored]
      exact ih next fun other member => stored other (List.mem_cons_of_mem node member)

end Calls

end Walk

/-! ## The cycles of a graph -/

namespace Graph

/-- The search that keeps its own visits ends where the recursive one does. -/
theorem WellFormed.exploreAll_eq {graph : Graph} (wf : graph.WellFormed) :
    graph.store.ids.foldlM (Search.explore graph) {} =
      .ok (graph.store.recursiveSearch.search []) := by
  have covers : ({ unseen := graph.store.keys } : Walk).Covers graph.store := by
    intro id
    simp
  exact Walk.exploreAll_search wf.store covers fun _ => Store.mem_ids.1

/-- The search of a well-formed graph finds what the recursive one finds. -/
theorem WellFormed.findCycles_eq {graph : Graph} (wf : graph.WellFormed) :
    graph.findCycles = .ok graph.store.recursiveSearch.found := by
  rw [Graph.findCycles, wf.exploreAll_eq]
  rfl

theorem WellFormed.nodup_reached {graph : Graph} (wf : graph.WellFormed) :
    graph.store.recursiveSearch.reached.Nodup := by
  obtain ⟨final, done, resting, _⟩ :=
    (Search.resting_empty graph.store).exploreAll wf.store fun _ => Store.mem_ids.1
  rw [wf.exploreAll_eq] at done
  cases done
  exact resting.nodup

/-- A cycle lists its members in the order in which the search reaches them. -/
theorem WellFormed.sublist_reached {graph : Graph} (wf : graph.WellFormed)
    {cycle : List ComponentId} (member : cycle ∈ graph.store.recursiveSearch.found) :
    cycle.Sublist graph.store.recursiveSearch.reached :=
  (wf.ordered wf.exploreAll_eq).listed cycle member

/-- Whatever graph comes about by operations, its cycles are those of the recursive search, list for
list.  A cycle lists its members in the order in which that search first reaches them; and where a
member of a cycle reaches a member of another one, the other one is listed before it. -/
theorem findCycles_eq_recursiveSearch (operations : List Operation) :
    (after operations).findCycles = .ok (after operations).store.recursiveSearch.found ∧
      (after operations).store.recursiveSearch.reached.Nodup ∧
      (∀ cycle ∈ (after operations).store.recursiveSearch.found,
        cycle.Sublist (after operations).store.recursiveSearch.reached) ∧
      ∀ cycle ∈ (after operations).store.recursiveSearch.found,
        ∀ other ∈ (after operations).store.recursiveSearch.found, cycle ≠ other →
          (∃ source ∈ cycle, ∃ target ∈ other,
            (after operations).store.Reaches source target) →
          (after operations).store.recursiveSearch.found.idxOf other <
            (after operations).store.recursiveSearch.found.idxOf cycle := by
  have wf := wellFormed_after operations
  refine ⟨wf.findCycles_eq, wf.nodup_reached, fun cycle => wf.sublist_reached, ?_⟩
  rintro cycle member other memberOther different ⟨source, inside, target, insideOther, reaches⟩
  exact (wf.ordered wf.exploreAll_eq).idxOf_lt member memberOther different inside insideOther
    reaches.to_reflTransGen

end Graph

end DepAtlas
