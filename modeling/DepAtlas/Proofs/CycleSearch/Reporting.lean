import DepAtlas.Proofs.CycleSearch
import Mathlib.Data.List.Sort

/-!
# The order in which cycles are found

On the stack components lie in the order of their discovery, and a part is what lies on top of it.
So a cycle lists its members in the order in which the search discovered them.

Whatever a finished component leads to is finished.  So no cycle leads to one that is found later.
-/

namespace DepAtlas

namespace Search

/-- Components that rise in the order of discovery stand in that order among all that were
discovered. -/
theorem sublist_of_rising {discovered components : List ComponentId} (nodup : discovered.Nodup)
    (inside : ∀ id ∈ components, id ∈ discovered)
    (rising : components.Pairwise fun first second =>
      discovered.idxOf first < discovered.idxOf second) : components.Sublist discovered := by
  have antisymmetric : Std.Antisymm fun first second : ComponentId =>
      discovered.idxOf first < discovered.idxOf second :=
    ⟨fun _ _ less greater => absurd greater (Nat.lt_asymm less)⟩
  have whole : discovered.Pairwise fun first second =>
      discovered.idxOf first < discovered.idxOf second := by
    rw [List.pairwise_iff_getElem]
    intro first second firstLess secondLess less
    rwa [nodup.idxOf_getElem first firstLess, nodup.idxOf_getElem second secondLess]
  have distinctComponents : components.Nodup :=
    rising.imp fun less same => by simp [same] at less
  exact List.sublist_of_subperm_of_pairwise
    (List.subperm_of_subset distinctComponents inside) rising whole

/-! ## What a step finds -/

theorem eq_append_of_cut {id : ComponentId} {stack part below : List ComponentId}
    (found : cut id stack = some (part, below)) : stack = part ++ below := by
  induction stack generalizing part below with
  | nil => cases found
  | cons top rest ih =>
      rw [cut] at found
      split at found
      · cases found
        rfl
      · obtain ⟨⟨upper, lower⟩, deeper, same⟩ := Option.map_eq_some_iff.1 found
        cases same
        rw [ih deeper, List.cons_append]

theorem closePart_found {graph : Graph} {search closed : Search} {visit : Visit}
    (done : closePart graph search visit = .ok closed) :
    closed.found = search.found ∨
      ∃ part, part <+: search.stack ∧ closed.found = search.found ++ [part.reverse] := by
  rw [closePart] at done
  split at done
  · split at done
    next => cases done
    next part below found =>
      cases done
      by_cases cyclic : isCycle graph visit.node part.reverse = true
      · refine .inr ⟨part, ?_, if_pos cyclic⟩
        rw [eq_append_of_cut found]
        exact List.prefix_append part below
      · exact .inl (if_neg cyclic)
  · cases done
    exact .inl rfl

/-- A step discovers a component at most, and finds a cycle on top of the stack at most. -/
theorem step_found {graph : Graph} {search next : Search} (stepped : search.step graph = .ok next) :
    search.discovered <+: next.discovered ∧
      (next.found = search.found ∨
        ∃ part, part <+: search.stack ∧ next.found = search.found ++ [part.reverse]) := by
  rw [step] at stepped
  split at stepped
  next => cases stepped; exact ⟨List.prefix_refl _, .inl rfl⟩
  next visit visits _ =>
    split at stepped
    next top pending _ =>
      split at stepped
      · split at stepped <;> cases stepped <;> exact ⟨List.prefix_refl _, .inl rfl⟩
      · cases known : graph.store.get top with
        | error fault =>
            rw [known] at stepped
            cases stepped
        | ok component =>
            rw [known] at stepped
            cases stepped
            exact ⟨List.prefix_append .., .inl rfl⟩
    next =>
      cases done : closePart graph search visit with
      | error fault =>
          rw [done] at stepped
          cases stepped
      | ok closed =>
          rw [done] at stepped
          cases stepped
          simp only [closePart_discovered done]
          exact ⟨List.prefix_refl _, closePart_found done⟩

/-! ## What a run finds -/

/-- What the search has found stands in order: members as they were discovered, and no cycle before
one that it leads to. -/
structure Ordered (store : Store) (search : Search) : Prop where
  listed : ∀ members ∈ search.found, members.Sublist search.discovered
  closed : search.found.Pairwise fun earlier later =>
    ∀ source ∈ earlier, ∀ target ∈ later, ¬store.Leads source target

theorem ordered_empty (store : Store) : Ordered store {} := by
  constructor <;> simp

/-- A cycle that leads to another one stands behind it. -/
theorem Ordered.idxOf_lt {store : Store} {search : Search} (ordered : Ordered store search)
    {cycle other : List ComponentId} (member : cycle ∈ search.found)
    (memberOther : other ∈ search.found) (different : cycle ≠ other) {source target : ComponentId}
    (inside : source ∈ cycle) (insideOther : target ∈ other) (leads : store.Leads source target) :
    search.found.idxOf other < search.found.idxOf cycle := by
  rcases Nat.lt_trichotomy (search.found.idxOf cycle) (search.found.idxOf other) with
    before | same | behind
  · have closed := List.pairwise_iff_getElem.1 ordered.closed _ _
      (List.idxOf_lt_length_of_mem member) (List.idxOf_lt_length_of_mem memberOther) before
    rw [List.getElem_idxOf, List.getElem_idxOf] at closed
    exact absurd leads (closed source inside target insideOther)
  · exact absurd ((List.idxOf_inj member).1 same) different
  · exact behind

theorem Ordered.of_found_eq {store : Store} {search next : Search} (ordered : Ordered store search)
    (discovered : search.discovered <+: next.discovered) (found : next.found = search.found) :
    Ordered store next := by
  constructor
  case listed =>
    intro members member
    rw [found] at member
    exact (ordered.listed members member).trans discovered.sublist
  case closed =>
    rw [found]
    exact ordered.closed

/-- A step keeps what was found in order. -/
theorem Ordered.step {graph : Graph} {search next : Search} (ordered : Ordered graph.store search)
    (inv : Invariant graph.store search) (stepped : search.step graph = .ok next) :
    Ordered graph.store next := by
  obtain ⟨discovered, found | ⟨part, top, found⟩⟩ := step_found stepped
  · exact ordered.of_found_eq discovered found
  have stacked : ∀ id ∈ part.reverse, id ∈ search.stack := fun id member =>
    top.subset (List.mem_reverse.1 member)
  constructor
  case listed =>
    intro members member
    rw [found] at member
    refine List.Sublist.trans ?_ discovered.sublist
    rcases List.mem_append.1 member with old | new
    · exact ordered.listed members old
    · rw [List.mem_singleton.1 new]
      refine sublist_of_rising inv.nodup (fun id member => inv.stacked id (stacked id member)) ?_
      exact List.pairwise_reverse.2 (inv.rising.sublist top.sublist)
  case closed =>
    rw [found]
    refine List.pairwise_append.2 ⟨ordered.closed, List.pairwise_singleton _ _, ?_⟩
    intro earlier old later new source inside target member leads
    rw [List.mem_singleton.1 new] at member
    -- What was found is finished, and nothing on the stack is.
    have finished := inv.finished_of_leads (inv.found_finished earlier old source inside) leads
    exact finished.2 (stacked target member)

/-- What every step keeps, a run keeps. -/
theorem run_keeps {graph : Graph} {motive : Search → Prop}
    (step : ∀ {search next}, motive search → search.step graph = .ok next → motive next)
    {search final : Search} (before : motive search) (ran : run graph search = .ok final) :
    motive final := by
  fun_induction run graph search with
  | case1 search ended =>
      cases ran
      exact before
  | case2 search opened fault failed => cases ran
  | case3 search opened next stepped ih => exact ih (step before stepped) ran

/-- What every step of a search with the invariant keeps, and every discovery of a search at rest,
the search from some roots keeps. -/
theorem exploreAll_keeps {graph : Graph} (wf : graph.store.WellFormed) {motive : Search → Prop}
    (step : ∀ {search next}, Invariant graph.store search → motive search →
      search.step graph = .ok next → Invariant graph.store next → motive next)
    (discover : ∀ {search component}, Resting graph.store search → motive search →
      graph.store.get? component.id = some component → motive (search.discover component))
    {search final : Search} (before : motive search) (resting : Resting graph.store search)
    {roots : List ComponentId} (stored : ∀ root ∈ roots, root ∈ graph.store.keys)
    (explored : roots.foldlM (Search.explore graph) search = .ok final) : motive final := by
  have explore : ∀ {search middle root}, motive search → Resting graph.store search →
      search.explore graph root = .ok middle → motive middle := by
    intro search middle root holds resting explored
    rw [Search.explore] at explored
    split at explored
    next =>
      cases explored
      exact holds
    next unseen =>
      cases found : graph.store.get? root with
      | none => simp [Store.get, found] at explored
      | some component =>
          obtain rfl := (Store.mem_of_get? found).2
          rw [Store.get_eq_ok found] at explored
          refine (run_keeps (motive := fun search =>
            Invariant graph.store search ∧ motive search) ?_
            ⟨resting.invariant_discover found unseen, discover resting holds found⟩ explored).2
          rintro search next ⟨inv, holds⟩ stepped
          obtain ⟨same, again, invariant, _⟩ := inv.step wf
          rw [stepped] at again
          cases again
          exact ⟨invariant, step inv holds stepped invariant⟩
  induction roots generalizing search with
  | nil =>
      cases explored
      exact before
  | cons root roots ih =>
      obtain ⟨middle, first, rests, _, _⟩ := resting.explore wf (stored root (by simp))
      rw [List.foldlM_cons, first] at explored
      exact ih (explore before resting first) rests
        (fun other member => stored other (List.mem_cons_of_mem root member)) explored

end Search

/-- What the search over a well-formed graph finds stands in order. -/
theorem Graph.WellFormed.ordered {graph : Graph} (wf : graph.WellFormed) {final : Search}
    (explored : graph.store.ids.foldlM (Search.explore graph) {} = .ok final) :
    Search.Ordered graph.store final :=
  Search.exploreAll_keeps wf.store (fun inv ordered stepped _ => ordered.step inv stepped)
    (fun _ ordered _ => ordered.of_found_eq (List.prefix_append ..) rfl)
    (Search.ordered_empty graph.store) (Search.resting_empty graph.store)
    (fun _ => Store.mem_ids.1) explored

end DepAtlas
