import DepAtlas.Proofs.CycleSearch.Reporting
import Mathlib.Data.List.Chain

/-!
# The order of a cycle's members

The search comes upon a component from the innermost of its visits.  Whatever that visit has
taken on before is finished by then, and has nothing left to come upon.  So the members of a
cycle stand in depth-first order: each one behind the first is a dependency of one before it, and
of what stands between the two nothing leads on.

The order is kept for every segment of the stack.  Where a visit hands its segment down, two
segments are joined at the dependency along which the visit began.
-/

namespace DepAtlas

/-! ## Depth-first order -/

/-- Components in depth-first order.  Each one behind the first is a dependency of one before it,
and whatever stands between the two depends neither on it nor on anything behind it. -/
def Store.IsDepthFirst (store : Store) (ids : List ComponentId) : Prop :=
  ∀ front next back, ids = front ++ next :: back → front ≠ [] →
    ∃ before source between, front = before ++ source :: between ∧
      store.DependsOn source next ∧
      ∀ id ∈ between, ∀ target ∈ next :: back, ¬store.DependsOn id target

namespace Store

variable {store : Store}

theorem isDepthFirst_singleton (id : ComponentId) : store.IsDepthFirst [id] := by
  intro front next back split some
  cases front with
  | nil => exact absurd rfl some
  | cons first rest => simp at split

/-- Depth-first orders are joined along a dependency of the first component of the one on the first
component of the other, if nothing else of the one leads into the other. -/
theorem IsDepthFirst.append {parent node : ComponentId} {first second : List ComponentId}
    (lower : store.IsDepthFirst (parent :: first)) (upper : store.IsDepthFirst (node :: second))
    (entered : store.DependsOn parent node)
    (apart : ∀ id ∈ first, ∀ target ∈ node :: second, ¬store.DependsOn id target) :
    store.IsDepthFirst (parent :: first ++ node :: second) := by
  intro front next back split some
  rcases List.append_eq_append_iff.1 split with ⟨middle, rfl, rest⟩ | ⟨middle, whole, rest⟩
  · cases middle with
    | nil =>
        obtain ⟨rfl, rfl⟩ := List.cons.inj rest
        exact ⟨[], parent, first, by simp, entered, apart⟩
    | cons top middle =>
        obtain ⟨before, source, between, same, depends, ended⟩ :=
          upper (top :: middle) next back rest (by simp)
        exact ⟨parent :: first ++ before, source, between, by simp [same], depends, ended⟩
  · cases middle with
    | nil =>
        obtain ⟨rfl, rfl⟩ := List.cons.inj rest
        rw [List.append_nil] at whole
        exact ⟨[], parent, first, whole.symm, entered, apart⟩
    | cons top middle =>
        obtain ⟨rfl, rfl⟩ := List.cons.inj rest
        obtain ⟨before, source, between, rfl, depends, ended⟩ :=
          lower front next middle whole some
        refine ⟨before, source, between, rfl, depends, ?_⟩
        have inner : ∀ id ∈ between, id ∈ first := by
          intro id member
          cases before with
          | nil =>
              obtain ⟨rfl, rfl⟩ := List.cons.inj whole
              simp [member]
          | cons start before =>
              obtain ⟨rfl, rfl⟩ := List.cons.inj whole
              simp [member]
        intro id member target targetMember
        rcases List.mem_append.1 (show target ∈ (next :: middle) ++ node :: second from targetMember)
          with mine | above
        · exact ended id member target mine
        · exact apart id (inner id member) target above

/-- Each component behind the first is a dependency of one before it. -/
theorem IsDepthFirst.exists_source {ids : List ComponentId} (ordered : store.IsDepthFirst ids)
    {front back : List ComponentId} {next : ComponentId} (split : ids = front ++ next :: back)
    (some : front ≠ []) : ∃ source ∈ front, store.DependsOn source next := by
  obtain ⟨before, source, between, rfl, depends, _⟩ := ordered front next back split some
  exact ⟨source, by simp, depends⟩

/-- A component that depends on something behind it depends on the very next one. -/
theorem IsDepthFirst.dependsOn_next {ids : List ComponentId} (ordered : store.IsDepthFirst ids)
    {front back : List ComponentId} {id next target : ComponentId}
    (split : ids = front ++ id :: next :: back) (later : target ∈ next :: back)
    (depends : store.DependsOn id target) : store.DependsOn id next := by
  obtain ⟨before, source, between, same, entered, ended⟩ :=
    ordered (front ++ [id]) next back (by simp [split]) (by simp)
  rcases List.eq_nil_or_concat between with rfl | ⟨others, last, rfl⟩
  · obtain ⟨_, atEnd⟩ := List.append_inj' same rfl
    rwa [List.cons.inj atEnd |>.1]
  · -- The component would stand between the next one and its source.
    have regrouped : front ++ [id] = (before ++ source :: others) ++ [last] := by simpa using same
    obtain ⟨_, atEnd⟩ := List.append_inj' regrouped rfl
    have member : id ∈ others.concat last := by simp [List.cons.inj atEnd |>.1]
    exact absurd depends (ended id member target later)

end Store

namespace Search

/-! ## The order on the stack -/

/-- What a visit has come upon stands in depth-first order, its own node first.  Whatever has ended
in it has all its dependencies discovered, and leads to nothing that lies above. -/
structure Ranges (store : Store) (discovered above : List ComponentId) (visit : Visit)
    (owned : List ComponentId) : Prop where
  ordered : store.IsDepthFirst (visit.node :: owned.reverse)
  looked : ∀ target, store.DependsOn visit.node target →
    target ∈ discovered ∨ target ∈ visit.pending
  ended : ∀ id ∈ owned, ∀ target, store.DependsOn id target → target ∈ discovered
  apart : ∀ id ∈ owned, ∀ target ∈ above, ¬store.DependsOn id target

/-- The visits range over the stack, with something above them. -/
inductive Spread (store : Store) (discovered : List ComponentId) :
    List ComponentId → List Visit → List ComponentId → Prop where
  | nil {above : List ComponentId} : Spread store discovered above [] []
  | cons {above : List ComponentId} {visit : Visit} {visits : List Visit}
      {owned below : List ComponentId} : Ranges store discovered above visit owned →
      Spread store discovered (above ++ owned ++ [visit.node]) visits below →
      Spread store discovered above (visit :: visits) (owned ++ visit.node :: below)

variable {store : Store} {discovered above owned below stack : List ComponentId}
  {visit parent : Visit} {visits : List Visit}

theorem Spread.inv (spread : Spread store discovered above (visit :: visits) stack) :
    ∃ owned below, stack = owned ++ visit.node :: below ∧
      Ranges store discovered above visit owned ∧
      Spread store discovered (above ++ owned ++ [visit.node]) visits below := by
  cases spread with
  | cons ranges rest => exact ⟨_, _, rfl, ranges, rest⟩

/-- What lies above the visits may be taken away. -/
theorem Spread.uncover (spread : Spread store discovered above visits stack)
    {fewer : List ComponentId} (subset : fewer ⊆ above) :
    Spread store discovered fewer visits stack := by
  induction spread generalizing fewer with
  | nil => exact .nil
  | cons ranges _ ih =>
      refine .cons { ranges with apart := ?_ } (ih ?_)
      · intro id member target targetMember
        exact ranges.apart id member target (subset targetMember)
      · intro id member
        simp only [List.mem_append, or_assoc] at member ⊢
        exact member.imp_left fun higher => subset higher

/-- Whatever is discovered next lies above the visits, and nothing that has ended leads to it. -/
theorem Spread.push (spread : Spread store discovered above visits stack) {new : ComponentId}
    (fresh : new ∉ discovered) :
    Spread store (discovered ++ [new]) (new :: above) visits stack := by
  induction spread with
  | nil => exact .nil
  | cons ranges _ ih =>
      refine .cons ⟨ranges.ordered, ?_, ?_, ?_⟩ ih
      · intro target depends
        exact (ranges.looked target depends).imp_left (List.mem_append_left [new])
      · intro id member target depends
        exact List.mem_append_left [new] (ranges.ended id member target depends)
      · intro id member target targetMember depends
        rcases List.mem_cons.1 targetMember with rfl | higher
        · exact fresh (ranges.ended id member target depends)
        · exact ranges.apart id member target higher depends

/-- The bound of a visit has nothing to do with what it ranges over. -/
theorem Spread.report (spread : Spread store discovered above visits stack) (low : Nat) :
    Spread store discovered above (report low visits) stack := by
  cases spread with
  | nil => exact .nil
  | cons ranges rest => exact .cons ⟨ranges.ordered, ranges.looked, ranges.ended, ranges.apart⟩ rest

/-- A visit that begins ranges over nothing but its node. -/
theorem ranges_discover {component : Component} {low : Nat}
    (found : store.get? component.id = some component) :
    Ranges store discovered [] ⟨component.id, low, component.dependencies⟩ [] := by
  refine ⟨Store.isDepthFirst_singleton _, ?_, by simp, by simp⟩
  intro target depends
  exact .inr ((Store.dependsOn_iff found).1 depends)

/-- A visit that has looked at all its dependencies hands its range down. -/
theorem Ranges.absorb {ownedAbove : List ComponentId}
    (upper : Ranges store discovered [] visit ownedAbove)
    (lower : Ranges store discovered (ownedAbove ++ [visit.node]) parent owned)
    (ended : visit.pending = []) (entered : store.DependsOn parent.node visit.node) :
    Ranges store discovered [] parent (ownedAbove ++ visit.node :: owned) := by
  constructor
  case ordered =>
    have joined := lower.ordered.append upper.ordered entered (by
      intro id member target targetMember
      apply lower.apart id (List.mem_reverse.1 member)
      simpa [or_comm] using targetMember)
    simpa using joined
  case looked => exact lower.looked
  case ended =>
    intro id member target depends
    rcases List.mem_append.1 member with above | rest
    · exact upper.ended id above target depends
    · rcases List.mem_cons.1 rest with rfl | mine
      · exact (upper.looked target depends).resolve_right (by simp [ended])
      · exact lower.ended id mine target depends
  case apart => simp

/-! ## What every step keeps -/

/-- Visits begin along dependencies, and what lies on the stack and what was found stands in
depth-first order. -/
structure DepthFirst (store : Store) (search : Search) : Prop where
  entered : search.visits.IsChain fun inner outer => store.DependsOn outer.node inner.node
  spread : Spread store search.discovered [] search.visits search.stack
  found : ∀ members ∈ search.found, store.IsDepthFirst members

theorem depthFirst_empty (store : Store) : DepthFirst store {} := by
  refine ⟨.nil, .nil, ?_⟩
  simp

/-- A search that rests keeps the order when it begins anew. -/
theorem DepthFirst.discover {search : Search} (ordered : DepthFirst store search)
    (resting : Resting store search) {component : Component}
    (found : store.get? component.id = some component) :
    DepthFirst store (search.discover component) := by
  refine ⟨?_, ?_, ordered.found⟩
  · simp only [Search.discover, resting.visits_eq]
    exact .singleton _
  · simp only [Search.discover, resting.visits_eq, resting.stack_eq]
    exact .cons (ranges_discover found) .nil

theorem entered_report (chained : visits.IsChain fun inner outer =>
    store.DependsOn outer.node inner.node) (low : Nat) :
    (report low visits).IsChain fun inner outer => store.DependsOn outer.node inner.node := by
  cases chained with
  | nil => exact .nil
  | singleton => exact .singleton _
  | cons_cons first others => exact .cons_cons first others

section Steps

variable {graph : Graph} {search next : Search} (ordered : DepthFirst graph.store search)
  (opened : search.visits = visit :: visits)

include ordered opened

/-- The innermost visit looks at a component that was discovered before. -/
theorem DepthFirst.look {seen : ComponentId} {pending : List ComponentId}
    (waiting : visit.pending = seen :: pending) (known : seen ∈ search.discovered) (low : Nat) :
    DepthFirst graph.store { search with visits := { visit with low, pending } :: visits } := by
  obtain ⟨entered, spread, found⟩ := ordered
  rw [opened] at entered spread
  obtain ⟨owned, below, stack, ranges, rest⟩ := spread.inv
  refine ⟨?_, ?_, found⟩
  · cases entered with
    | singleton => exact .singleton _
    | cons_cons first others => exact .cons_cons first others
  · rw [stack]
    refine .cons { ranges with looked := ?_ } rest
    intro target depends
    rcases ranges.looked target depends with old | waits
    · exact .inl old
    · rw [waiting] at waits
      rcases List.mem_cons.1 waits with rfl | later
      · exact .inl known
      · exact .inr later

/-- The innermost visit comes upon a component. -/
theorem DepthFirst.enter {component : Component} {pending : List ComponentId}
    (waiting : visit.pending = component.id :: pending)
    (fresh : component.id ∉ search.discovered)
    (stored : graph.store.get? component.id = some component)
    (depends : graph.store.DependsOn visit.node component.id) :
    DepthFirst graph.store
      (({ search with visits := { visit with pending } :: visits } : Search).discover
        component) := by
  obtain ⟨entered, spread, found⟩ := ordered
  rw [opened] at entered spread
  obtain ⟨owned, below, stack, ranges, rest⟩ := (spread.push fresh).inv
  refine ⟨?_, ?_, found⟩
  · cases entered with
    | singleton => exact .cons_cons depends (.singleton _)
    | cons_cons first others => exact .cons_cons depends (.cons_cons first others)
  · apply Spread.cons (ranges_discover stored)
    rw [List.append_nil, List.nil_append, stack]
    refine .cons { ranges with looked := ?_ } rest
    intro target edge
    rcases ranges.looked target edge with old | waits
    · exact .inl old
    · rw [waiting] at waits
      rcases List.mem_cons.1 waits with rfl | later
      · exact .inl (List.mem_append_right search.discovered List.mem_cons_self)
      · exact .inr later

/-- The innermost visit ends: it closes what it ranges over, or hands it down. -/
theorem DepthFirst.finish (inv : Invariant graph.store search) (ended : visit.pending = [])
    (stepped : search.step graph = .ok next) (later : Invariant graph.store next) :
    DepthFirst graph.store next := by
  obtain ⟨entered, spread, found⟩ := ordered
  rw [opened] at entered spread
  obtain ⟨owned, below, stack, ranges, rest⟩ := spread.inv
  have entered' := entered_report (List.isChain_cons.1 entered).2 visit.low
  by_cases root : visit.low = search.position visit.node
  · have rising := inv.rising
    rw [stack] at rising
    have fresh : visit.node ∉ owned := fun member =>
      Nat.lt_irrefl _ (rising.lt_of_mem_owned member)
    simp only [Search.step, opened, ended, closePart, if_pos root, stack, cut_append fresh,
      Except.map] at stepped
    cases stepped
    refine ⟨entered', (rest.uncover (List.nil_subset _)).report visit.low, ?_⟩
    intro members member
    split at member
    · rcases List.mem_append.1 member with old | new
      · exact found members old
      · rw [List.mem_singleton.1 new]
        simpa using ranges.ordered
    · exact found members member
  · simp only [Search.step, opened, ended, closePart, if_neg root, Except.map] at stepped
    cases stepped
    refine ⟨entered', ?_, found⟩
    cases visits with
    | nil =>
        have empty := later.divided.stack_eq_nil
        simp [stack] at empty
    | cons parent others =>
        obtain ⟨ownedBelow, lowest, rfl, lower, rest⟩ := rest.inv
        have regrouped : search.stack =
            (owned ++ visit.node :: ownedBelow) ++ parent.node :: lowest := by
          simp [stack]
        have merged := ranges.absorb lower ended (List.isChain_cons_cons.1 entered).1
        rw [regrouped]
        refine .cons ⟨merged.ordered, merged.looked, merged.ended, merged.apart⟩ ?_
        simpa using rest

end Steps

/-- A step keeps the order. -/
theorem DepthFirst.step {graph : Graph} {search next : Search}
    (ordered : DepthFirst graph.store search) (inv : Invariant graph.store search)
    (stepped : search.step graph = .ok next) (later : Invariant graph.store next) :
    DepthFirst graph.store next := by
  cases opened : search.visits with
  | nil =>
      simp only [Search.step, opened] at stepped
      cases stepped
      exact ordered
  | cons visit visits =>
      cases waiting : visit.pending with
      | nil => exact ordered.finish opened inv waiting stepped later
      | cons top pending =>
          have awaited := stepped
          simp only [Search.step, opened, waiting] at awaited
          split at awaited
          next known =>
            split at awaited <;> cases awaited <;> exact ordered.look opened waiting known _
          next fresh =>
            cases found : graph.store.get? top with
            | none => simp [Store.get, found, Except.map] at awaited
            | some component =>
                obtain rfl := (Store.mem_of_get? found).2
                simp only [Store.get_eq_ok found, Except.map] at awaited
                cases awaited
                have divided := inv.divided
                rw [opened] at divided
                obtain ⟨_, _, _, owns, _⟩ := divided.inv
                exact ordered.enter opened waiting fresh found
                  (owns.pending component.id (by simp [waiting]))

end Search

/-! ## The order of cycles -/

/-- The members of every cycle stand in depth-first order. -/
theorem Graph.WellFormed.depthFirst {graph : Graph} (wf : graph.WellFormed)
    {cycles : List (List ComponentId)} (found : graph.findCycles = .ok cycles)
    {members : List ComponentId} (member : members ∈ cycles) :
    graph.store.IsDepthFirst members := by
  rw [Graph.findCycles] at found
  cases explored : graph.store.ids.foldlM (Search.explore graph) {} with
  | error fault =>
      rw [explored] at found
      cases found
  | ok final =>
      rw [explored] at found
      cases found
      have ordered : Search.DepthFirst graph.store final :=
        Search.exploreAll_keeps wf.store
          (fun inv ordered stepped later => ordered.step inv stepped later)
          (fun resting ordered found => ordered.discover resting found)
          (Search.depthFirst_empty graph.store) (Search.resting_empty graph.store)
          (fun _ => Store.mem_ids.1) explored
      exact ordered.found members member

namespace Store

variable {store : Store} {members : List ComponentId}

theorem SameDependencies.isDepthFirst {other : Store} (same : store.SameDependencies other)
    (ordered : store.IsDepthFirst members) : other.IsDepthFirst members := by
  intro front next back split some
  obtain ⟨before, source, between, parts, depends, ended⟩ := ordered front next back split some
  refine ⟨before, source, between, parts, (same.dependsOn _ _).1 depends, ?_⟩
  intro id member target targetMember edge
  exact ended id member target targetMember ((same.dependsOn _ _).2 edge)

/-- Members that nothing leads out of but to themselves are all members. -/
theorem mem_of_kept
    (part : ∀ source ∈ members, ∀ target, target ∈ members ↔
      store.Reaches source target ∧ store.Reaches target source)
    {kept : List ComponentId} {start : ComponentId} (begun : start ∈ kept) (inside : start ∈ members)
    (closed : ∀ source ∈ kept, ∀ target ∈ members, store.DependsOn source target → target ∈ kept)
    {id : ComponentId} (member : id ∈ members) : id ∈ kept := by
  obtain ⟨there, back⟩ := (part start inside id).1 member
  induction there with
  | single depends => exact closed start begun _ member depends
  | tail walk depends ih =>
      rename_i middle last
      have returns : store.Reaches middle start := Relation.TransGen.head depends back
      have middleMember := (part start inside middle).2 ⟨walk, returns⟩
      exact closed middle (ih middleMember returns) last member depends

section Branchless

variable (ordered : store.IsDepthFirst members) (nodup : members.Nodup)
  (part : ∀ source ∈ members, ∀ target, target ∈ members ↔
    store.Reaches source target ∧ store.Reaches target source)
  (branchless : ∀ source ∈ members, ∀ target ∈ members, ∀ other ∈ members,
    store.DependsOn source target → store.DependsOn source other → target = other)

include ordered nodup part branchless

/-- Where no member depends on two, each one depends on the next. -/
theorem IsDepthFirst.dependsOn_of_branchless {front back : List ComponentId}
    {id next : ComponentId} (split : members = front ++ id :: next :: back) :
    store.DependsOn id next := by
  by_contra apart
  have ended : ∀ target ∈ next :: back, ¬store.DependsOn id target := fun target later depends =>
    apart (ordered.dependsOn_next split later depends)
  have regrouped : members = (front ++ [id]) ++ next :: back := by simp [split]
  have disjoint := (List.nodup_append.1 (regrouped ▸ nodup)).2.2
  have outside : next ∈ front ++ [id] := by
    have begun : id ∈ front ++ [id] := by simp
    refine mem_of_kept part begun (by simp [split]) ?_ (by simp [split])
    intro source member target inside depends
    by_contra beyond
    have later : target ∈ next :: back :=
      (List.mem_append.1 (regrouped ▸ inside)).resolve_left beyond
    rcases List.mem_append.1 member with earlier | last
    · -- The source has another dependency, the one right behind it.
      obtain ⟨start, rest, rfl⟩ := List.append_of_mem earlier
      obtain ⟨follower, others, behind⟩ := List.exists_cons_of_ne_nil
        (show rest ++ [id] ≠ [] by simp)
      have divided : members = start ++ source :: ((rest ++ [id]) ++ next :: back) := by
        simp [regrouped]
      rw [behind] at divided
      have follows := ordered.dependsOn_next divided (by simp [later]) depends
      have same := branchless source (by simp [divided]) target inside follower
        (by simp [divided]) depends follows
      apply beyond
      rw [same, List.append_assoc, List.cons_append, behind]
      simp
    · rw [List.mem_singleton.1 last] at depends
      exact ended target later depends
  exact disjoint next outside next (by simp) rfl

/-- Where no member depends on two, the last one depends on the first. -/
theorem IsDepthFirst.dependsOn_first_of_branchless {first last : ComponentId}
    (head : members.head? = some first) (tail : members.getLast? = some last) :
    store.DependsOn last first := by
  have firstMember : first ∈ members := List.mem_of_head? head
  obtain ⟨source, leads, depends⟩ := Relation.TransGen.tail'_iff.1
    ((part first firstMember first).1 firstMember).1
  have around : store.Reaches first first := Relation.TransGen.tail' leads depends
  have sourceMember : source ∈ members :=
    (part first firstMember source).2 ⟨around.trans_left leads, .single depends⟩
  obtain ⟨front, back, split⟩ := List.append_of_mem sourceMember
  cases back with
  | nil =>
      rw [split, List.getLast?_append_cons, List.getLast?_singleton] at tail
      rwa [← Option.some.inj tail]
  | cons next back =>
      -- The next one would be the first, which stands in front.
      have follows := ordered.dependsOn_of_branchless nodup part branchless split
      have same := branchless source sourceMember first firstMember next (by simp [split]) depends
        follows
      rw [split] at nodup head
      subst same
      cases front with
      | nil =>
          cases head
          simp at nodup
      | cons start front =>
          cases head
          simp at nodup

/-- Where no member depends on two, the members are a closed walk. -/
theorem IsDepthFirst.isChain_of_branchless :
    (members ++ members.take 1).IsChain store.DependsOn := by
  rw [List.isChain_append]
  refine ⟨?_, ?_, ?_⟩
  · rw [List.isChain_iff_forall_rel_of_append_cons_cons]
    intro id next front back split
    exact ordered.dependsOn_of_branchless nodup part branchless split
  · cases members with
    | nil => exact .nil
    | cons first rest => exact .singleton first
  · intro last tail first head
    have atHead : members.head? = some first := by simpa [List.head?_take] using head
    exact ordered.dependsOn_first_of_branchless nodup part branchless atHead tail

end Branchless

end Store

end DepAtlas
