import DepAtlas.DependencyOrder
import DepAtlas.Proofs.Construction
import Mathlib.Data.Set.Finite.Basic
import Mathlib.Order.WellFounded

/-!
# The processing order

A schedule counts for each component the dependencies that are not emitted; a component is
ready when it is not emitted and its count is zero.  Counts are lowered along the lists of
dependents and were set from the lists of dependencies, so the two have to mirror each
other.

The main statement is that the emitted components come after all their dependencies, and
that the others, which follow in ascending order, are those that lead to a cycle.
-/

namespace DepAtlas

/-! ## Serial relations -/

/-- Where every member of a list is related to a member again, every member leads to one
that leads back to itself. -/
theorem exists_transGen_self {α : Type} {related : α → α → Prop} {items : List α}
    (serial : ∀ item ∈ items, ∃ next ∈ items, related item next) {start : α}
    (member : start ∈ items) :
    ∃ around, Relation.ReflTransGen related start around ∧
      Relation.TransGen related around around := by
  by_contra none
  have acyclic : ∀ item, Relation.ReflTransGen related start item →
      ¬Relation.TransGen related item item := fun item leads around =>
    none ⟨item, leads, around⟩
  -- Without a cycle, going on is well-founded on the finitely many members reached.
  let reached := { item | item ∈ items ∧ Relation.ReflTransGen related start item }
  let beyond : reached → reached → Prop := fun later earlier =>
    Relation.TransGen related earlier.1 later.1
  have finite : Finite reached :=
    ((List.finite_toSet items).subset fun _ inside => inside.1).to_subtype
  have transitive : IsTrans reached beyond :=
    ⟨fun _ _ _ first second => Relation.TransGen.trans second first⟩
  have irreflexive : Std.Irrefl beyond := ⟨fun item around => acyclic item.1 item.2.2 around⟩
  obtain ⟨last, _, least⟩ := (Finite.wellFounded_of_trans_of_irrefl beyond).has_min Set.univ
    ⟨⟨start, member, .refl⟩, trivial⟩
  obtain ⟨next, nextMember, step⟩ := serial last.1 last.2.1
  exact least ⟨next, nextMember, last.2.2.tail step⟩ trivial (.single step)

/-! ## Ascending insertion -/

@[simp] theorem mem_insertAscending {id other : ComponentId} {ids : List ComponentId} :
    other ∈ insertAscending id ids ↔ other = id ∨ other ∈ ids := by
  induction ids with
  | nil => simp [insertAscending]
  | cons first rest ih =>
      rw [insertAscending]
      split
      · simp
      · simp [ih, or_left_comm]

theorem insertAscending_sorted {id : ComponentId} {ids : List ComponentId}
    (sorted : ids.Pairwise (· < ·)) (fresh : id ∉ ids) :
    (insertAscending id ids).Pairwise (· < ·) := by
  induction ids with
  | nil => simp [insertAscending]
  | cons first rest ih =>
      rw [List.mem_cons, not_or] at fresh
      obtain ⟨least, others⟩ := List.pairwise_cons.1 sorted
      rw [insertAscending]
      split
      next before =>
        have less : id < first := by
          apply String.not_le.1
          intro after
          exact fresh.1 (String.le_antisymm before after)
        refine List.pairwise_cons.2 ⟨?_, sorted⟩
        intro other member
        rcases List.mem_cons.1 member with rfl | later
        · exact less
        · exact String.lt_trans less (least other later)
      next notBefore =>
        refine List.pairwise_cons.2 ⟨?_, ih others fresh.2⟩
        intro other member
        rcases mem_insertAscending.1 member with rfl | later
        · exact String.not_le.1 notBefore
        · exact least other later

namespace Schedule

/-! ## Counts -/

/-- The entries of a count for each of some ids. -/
def entries (ids : List ComponentId) (count : ComponentId → Int) : List (ComponentId × Int) :=
  ids.map fun id => (id, count id)

theorem entries_congr {ids : List ComponentId} {count other : ComponentId → Int}
    (same : ∀ id ∈ ids, count id = other id) : entries ids count = entries ids other :=
  List.map_congr_left fun id member => by rw [same id member]

/-- A count with one id's number lowered. -/
def lowered (count : ComponentId → Int) (id : ComponentId) : ComponentId → Int :=
  fun other => if other = id then count other - 1 else count other

theorem lower_entries {ids : List ComponentId} (nodup : ids.Nodup) (count : ComponentId → Int)
    {id : ComponentId} (member : id ∈ ids) :
    lower id (entries ids count) = some (count id - 1, entries ids (lowered count id)) := by
  induction ids with
  | nil => simp at member
  | cons first rest ih =>
      obtain ⟨fresh, others⟩ := List.nodup_cons.1 nodup
      rw [entries, List.map_cons, lower]
      by_cases same : first = id
      · subst same
        have kept : entries rest (lowered count first) = entries rest count := by
          apply entries_congr
          intro other inside
          rw [lowered, if_neg]
          rintro rfl
          exact fresh inside
        rw [if_pos rfl, entries, List.map_cons, lowered, if_pos rfl]
        rw [entries, entries] at kept
        rw [kept]
      · have inside := (List.mem_cons.1 member).resolve_left (Ne.symm same)
        have later := ih others inside
        rw [entries] at later
        rw [if_neg same, later, Option.map_some, entries, entries, List.map_cons]
        rw [show lowered count id first = count first by rw [lowered, if_neg same]]

/-- The number of dependencies of a component that are not emitted. -/
def outstanding (store : Store) (emitted : List ComponentId) (id : ComponentId) : Nat :=
  match store.get? id with
  | some component => component.dependencies.countP fun target => target ∉ emitted
  | none => 0

theorem outstanding_eq_zero_iff {store : Store} {emitted : List ComponentId} {id : ComponentId} :
    outstanding store emitted id = 0 ↔
      ∀ target, store.DependsOn id target → target ∈ emitted := by
  rw [outstanding]
  cases found : store.get? id with
  | none => simp [Store.DependsOn, found]
  | some component => simp [Store.dependsOn_iff found, List.countP_eq_zero]

theorem countP_not_mem_append {targets emitted : List ComponentId} (nodup : targets.Nodup)
    {new : ComponentId} (fresh : new ∉ emitted) :
    targets.countP (fun target => target ∉ emitted) =
      targets.countP (fun target => target ∉ emitted ++ [new]) +
        if new ∈ targets then 1 else 0 := by
  induction targets with
  | nil => simp
  | cons first rest ih =>
      obtain ⟨firstFresh, others⟩ := List.nodup_cons.1 nodup
      rw [List.countP_cons, List.countP_cons, ih others]
      by_cases same : first = new
      · subst same
        simp [fresh, firstFresh]
      · have different : ¬new = first := fun equal => same equal.symm
        simp only [List.mem_append, List.mem_cons, List.not_mem_nil, or_false, same, different,
          false_or]
        omega

/-- The emission of a component lowers the counts of its dependents by one. -/
theorem outstanding_append {store : Store} (wf : store.WellFormed) {component : Component}
    (stored : component ∈ store.components) {emitted : List ComponentId}
    (fresh : component.id ∉ emitted) {id : ComponentId} (known : id ∈ store.keys) :
    outstanding store emitted id =
      outstanding store (emitted ++ [component.id]) id +
        if id ∈ component.dependents then 1 else 0 := by
  obtain ⟨dependent, found⟩ := Store.exists_get? known
  obtain ⟨member, rfl⟩ := Store.mem_of_get? found
  rw [outstanding, outstanding, found]
  simp only [← wf.mirrored dependent member component stored]
  exact countP_not_mem_append (wf.dependencies_nodup dependent member) fresh

/-! ## Releasing dependents -/

/-- A count with the numbers of several ids lowered. -/
def loweredAll (count : ComponentId → Int) (ids : List ComponentId) : ComponentId → Int :=
  fun id => if id ∈ ids then count id - 1 else count id

/-- Releasing a component lowers its count, and makes it ready if it waited for one dependency
only. -/
theorem release_entries {ids : List ComponentId} (nodup : ids.Nodup) {schedule : Schedule}
    {count : ComponentId → Int} (pending : schedule.pending = entries ids count)
    (sorted : schedule.ready.Pairwise (· < ·)) {id : ComponentId} (member : id ∈ ids)
    (waits : id ∉ schedule.ready) :
    ∃ next, schedule.release id = .ok next ∧ next.emitted = schedule.emitted ∧
      next.pending = entries ids (lowered count id) ∧ next.ready.Pairwise (· < ·) ∧
      ∀ other, other ∈ next.ready ↔ other ∈ schedule.ready ∨ other = id ∧ count id = 1 := by
  have released : schedule.release id = .ok { schedule with
      pending := entries ids (lowered count id)
      ready := if count id - 1 = 0 then insertAscending id schedule.ready
        else schedule.ready } := by
    simp only [release, pending, lower_entries nodup count member]
  refine ⟨_, released, rfl, rfl, ?_, ?_⟩
  · dsimp only
    split
    · exact insertAscending_sorted sorted waits
    · exact sorted
  · intro other
    dsimp only
    split
    next zero =>
      have one : count id = 1 := by omega
      simp [one, or_comm]
    next more =>
      have notOne : count id ≠ 1 := by omega
      simp [notOne]

/-- Releasing several components lowers their counts, and makes those ready that waited for
one dependency only. -/
theorem releases_entries {ids : List ComponentId} (nodup : ids.Nodup)
    {dependents : List ComponentId} (different : dependents.Nodup)
    (known : ∀ id ∈ dependents, id ∈ ids) {schedule : Schedule}
    {count : ComponentId → Int} (pending : schedule.pending = entries ids count)
    (sorted : schedule.ready.Pairwise (· < ·)) (waiting : ∀ id ∈ dependents, id ∉ schedule.ready) :
    ∃ next, dependents.foldlM release schedule = .ok next ∧
      next.emitted = schedule.emitted ∧
      next.pending = entries ids (loweredAll count dependents) ∧
      next.ready.Pairwise (· < ·) ∧
      ∀ id, id ∈ next.ready ↔ id ∈ schedule.ready ∨ id ∈ dependents ∧ count id = 1 := by
  induction dependents generalizing schedule count with
  | nil =>
      refine ⟨schedule, rfl, rfl, ?_, sorted, by simp⟩
      rw [pending]
      exact entries_congr fun id _ => by simp [loweredAll]
  | cons first rest ih =>
      obtain ⟨firstFresh, others⟩ := List.nodup_cons.1 different
      obtain ⟨middle, released, emittedNow, counted, sortedNow, readyNow⟩ :=
        release_entries nodup pending sorted (known first (by simp)) (waiting first (by simp))
      have waitingNow : ∀ id ∈ rest, id ∉ middle.ready := by
        intro id member
        rw [readyNow]
        rintro (old | ⟨rfl, _⟩)
        · exact waiting id (List.mem_cons_of_mem first member) old
        · exact firstFresh member
      obtain ⟨next, done, emitted, counts, sortedNext, ready⟩ := ih others
        (fun id member => known id (List.mem_cons_of_mem first member)) counted sortedNow waitingNow
      refine ⟨next, ?_, emitted.trans emittedNow, ?_, sortedNext, ?_⟩
      · rw [List.foldlM_cons, released]
        exact done
      · rw [counts]
        apply entries_congr
        intro id _
        by_cases same : id = first
        · subst same
          simp [loweredAll, lowered, firstFresh]
        · simp [loweredAll, lowered, same]
      · intro id
        rw [ready, readyNow]
        by_cases same : id = first
        · subst same
          simp [firstFresh]
        · simp [lowered, same]

/-! ## Emitting -/

/-- Every component of a list comes after all its dependencies. -/
def Settled (store : Store) (ids : List ComponentId) : Prop :=
  ∀ before id later, ids = before ++ id :: later →
    ∀ target, store.DependsOn id target → target ∈ before

theorem Settled.mem {store : Store} {ids : List ComponentId} (settled : Settled store ids)
    {source target : ComponentId} (member : source ∈ ids)
    (depends : store.DependsOn source target) : target ∈ ids := by
  obtain ⟨before, later, rfl⟩ := List.append_of_mem member
  exact List.mem_append_left _ (settled before source later rfl target depends)

theorem Settled.append {store : Store} {ids : List ComponentId} (settled : Settled store ids)
    {new : ComponentId} (ready : ∀ target, store.DependsOn new target → target ∈ ids) :
    Settled store (ids ++ [new]) := by
  intro before id later split target depends
  rcases List.eq_nil_or_concat later with rfl | ⟨front, last, rfl⟩
  · obtain ⟨rfl, same⟩ := List.append_inj' split rfl
    rw [List.cons.injEq] at same
    rw [← same.1] at depends
    exact ready target depends
  · rw [List.concat_eq_append, ← List.cons_append, ← List.append_assoc] at split
    obtain ⟨same, _⟩ := List.append_inj' split rfl
    exact settled before id front same target depends

/-- The invariant of the sort. -/
structure Invariant (store : Store) (schedule : Schedule) : Prop where
  pending : schedule.pending =
    entries store.keys fun id => outstanding store schedule.emitted id
  sorted : schedule.ready.Pairwise (· < ·)
  mem_ready : ∀ id, id ∈ schedule.ready ↔
    id ∈ store.keys ∧ id ∉ schedule.emitted ∧ outstanding store schedule.emitted id = 0
  nodup : schedule.emitted.Nodup
  stored : ∀ id ∈ schedule.emitted, id ∈ store.keys
  settled : Settled store schedule.emitted

theorem invariant_initial {store : Store} (wf : store.WellFormed) :
    Invariant store (initial store) := by
  have counts : ∀ component ∈ store.components,
      outstanding store [] component.id = component.dependencies.length := by
    intro component stored
    rw [outstanding, Store.get?_of_mem wf.keys_nodup stored]
    simp
  have pending : (initial store).pending =
      entries store.keys fun id => outstanding store [] id := by
    simp only [initial, entries, Store.keys, List.map_map]
    apply List.map_congr_left
    intro component stored
    simp [counts component stored]
  have entered : ∀ id, id ∈ ((initial store).pending.filter fun entry => entry.2 = 0).map (·.1) ↔
      id ∈ store.keys ∧ outstanding store [] id = 0 := by
    intro id
    rw [pending]
    simp [entries, List.mem_filter]
  refine ⟨pending, ascending_strict ?_, ?_, List.nodup_nil, by simp [initial], ?_⟩
  · change (((initial store).pending.filter fun entry => entry.2 = 0).map (·.1)).Nodup
    have all : ((initial store).pending.map (·.1)).Nodup := by
      rw [pending]
      simpa [entries, Function.comp_def] using wf.keys_nodup
    exact all.sublist (List.filter_sublist.map _)
  · intro id
    have ready : (initial store).ready =
        ascending (((initial store).pending.filter fun entry => entry.2 = 0).map (·.1)) := rfl
    rw [ready, mem_ascending, entered]
    simp [initial]
  · intro before id later split
    simp [initial] at split

/-- A dependent of a component that is not emitted waits for it. -/
theorem Invariant.dependent_waits {store : Store} (wf : store.WellFormed) {schedule : Schedule}
    (inv : Invariant store schedule) {component : Component} (stored : component ∈ store.components)
    (fresh : component.id ∉ schedule.emitted) {other : ComponentId}
    (member : other ∈ component.dependents) :
    other ∉ schedule.emitted ∧ other ∉ schedule.ready := by
  have depends : store.DependsOn other component.id := wf.dependsOn_of_mem_dependents stored member
  constructor
  · intro emitted
    exact fresh (inv.settled.mem emitted depends)
  · intro isReady
    have free := ((inv.mem_ready other).1 isReady).2.2
    exact fresh (outstanding_eq_zero_iff.1 free component.id depends)

/-- Behind an emission those are ready that were before and those that waited for nothing else. -/
theorem Invariant.mem_ready_emit {store : Store} (wf : store.WellFormed) {schedule : Schedule}
    (inv : Invariant store schedule) {component : Component} (stored : component ∈ store.components)
    {rest : List ComponentId} (taken : schedule.ready = component.id :: rest)
    (other : ComponentId) :
    other ∈ rest ∨ other ∈ component.dependents ∧ outstanding store schedule.emitted other = 1 ↔
      other ∈ store.keys ∧ other ∉ schedule.emitted ++ [component.id] ∧
        outstanding store (schedule.emitted ++ [component.id]) other = 0 := by
  have sorted := inv.sorted
  rw [taken] at sorted
  have notLater : component.id ∉ rest := fun member =>
    String.lt_irrefl component.id ((List.pairwise_cons.1 sorted).1 component.id member)
  obtain ⟨known, fresh, free⟩ := (inv.mem_ready component.id).1 (by simp [taken])
  have lowers : other ∈ store.keys → outstanding store schedule.emitted other =
      outstanding store (schedule.emitted ++ [component.id]) other +
        if other ∈ component.dependents then 1 else 0 := fun otherKnown =>
    outstanding_append wf stored fresh otherKnown
  simp only [List.mem_append, List.mem_singleton, not_or]
  constructor
  · rintro (old | ⟨member, one⟩)
    · obtain ⟨otherKnown, outside, zero⟩ := (inv.mem_ready other).1
        (taken ▸ List.mem_cons_of_mem component.id old)
      have lower := lowers otherKnown
      refine ⟨otherKnown, ⟨outside, ?_⟩, by omega⟩
      rintro rfl
      exact notLater old
    · have otherKnown := wf.dependents_stored component stored other member
      have lower := lowers otherKnown
      rw [if_pos member] at lower
      refine ⟨otherKnown, ⟨(inv.dependent_waits wf stored fresh member).1, ?_⟩, by omega⟩
      rintro rfl
      rw [free] at one
      simp at one
  · rintro ⟨otherKnown, ⟨outside, different⟩, zero⟩
    have lower := lowers otherKnown
    rw [zero] at lower
    by_cases member : other ∈ component.dependents
    · rw [if_pos member] at lower
      exact .inr ⟨member, lower⟩
    · rw [if_neg member] at lower
      have old := (inv.mem_ready other).2 ⟨otherKnown, outside, lower⟩
      rw [taken] at old
      exact .inl ((List.mem_cons.1 old).resolve_left different)

/-- The first ready component can be emitted, and its emission keeps the invariant. -/
theorem Invariant.emit {store : Store} (wf : store.WellFormed) {schedule : Schedule}
    (inv : Invariant store schedule) {id : ComponentId} {rest : List ComponentId}
    (taken : schedule.ready = id :: rest) :
    ∃ next, Schedule.emit store { schedule with ready := rest } id = .ok next ∧
      next.emitted = schedule.emitted ++ [id] ∧ Invariant store next := by
  obtain ⟨known, fresh, free⟩ := (inv.mem_ready id).1 (by simp [taken])
  obtain ⟨component, found⟩ := Store.exists_get? known
  obtain ⟨stored, rfl⟩ := Store.mem_of_get? found
  have sorted := inv.sorted
  rw [taken] at sorted
  have waiting : ∀ other ∈ component.dependents, other ∉ rest := by
    intro other member isReady
    exact (inv.dependent_waits wf stored fresh member).2 (by simp [taken, isReady])
  let before : Schedule :=
    { schedule with ready := rest, emitted := schedule.emitted ++ [component.id] }
  have pending : before.pending =
      entries store.keys fun other => outstanding store schedule.emitted other := inv.pending
  obtain ⟨next, done, emitted, counts, sortedNext, readyNext⟩ :=
    releases_entries wf.keys_nodup (wf.dependents_nodup component stored)
      (wf.dependents_stored component stored) pending (List.pairwise_cons.1 sorted).2 waiting
  have grown : next.emitted = schedule.emitted ++ [component.id] := emitted
  have stepped : Schedule.emit store { schedule with ready := rest } component.id = .ok next := by
    rw [Schedule.emit, Store.get_eq_ok found]
    exact done
  refine ⟨next, stepped, grown, ?_⟩
  constructor
  case pending =>
    rw [counts, grown]
    apply entries_congr
    intro other otherKnown
    have lower := outstanding_append wf stored fresh otherKnown
    simp only [loweredAll]
    split at lower
    next member =>
      rw [if_pos member]
      omega
    next outside =>
      rw [if_neg outside]
      omega
  case sorted => exact sortedNext
  case mem_ready =>
    intro other
    have one : (outstanding store schedule.emitted other : Int) = 1 ↔
        outstanding store schedule.emitted other = 1 := by omega
    rw [readyNext, grown, ← inv.mem_ready_emit wf stored taken other, one]
  case nodup =>
    rw [grown, List.nodup_append]
    refine ⟨inv.nodup, by simp, ?_⟩
    rintro other member _ new rfl
    exact fresh (List.mem_singleton.1 new ▸ member)
  case stored =>
    intro other member
    rw [grown] at member
    rcases List.mem_append.1 member with old | new
    · exact inv.stored other old
    · rw [List.mem_singleton.1 new]
      exact known
  case settled =>
    rw [grown]
    exact inv.settled.append (outstanding_eq_zero_iff.1 free)

theorem run_of_nil {store : Store} {schedule : Schedule} (ended : schedule.ready = []) :
    run store schedule = .ok schedule := by
  rw [run]
  split
  next => rfl
  next taken => simp [ended] at taken

theorem run_of_emit {store : Store} {schedule next : Schedule} {id : ComponentId}
    {rest : List ComponentId} (taken : schedule.ready = id :: rest)
    (emitted : Schedule.emit store { schedule with ready := rest } id = .ok next) :
    run store schedule = run store next := by
  rw [run.eq_def store schedule]
  split
  next ended => simp [ended] at taken
  next other others takenAgain =>
    obtain ⟨rfl, rfl⟩ := List.cons.inj (taken.symm.trans takenAgain)
    split
    next failed => simp [emitted] at failed
    next again emittedAgain =>
      rw [emitted] at emittedAgain
      cases emittedAgain
      rfl

/-- The sort ends without a fault when nothing is ready any more. -/
theorem Invariant.run {store : Store} (wf : store.WellFormed) {schedule : Schedule}
    (inv : Invariant store schedule) :
    ∃ final, Schedule.run store schedule = .ok final ∧ Invariant store final ∧
      final.ready = [] := by
  fun_induction Schedule.run store schedule with
  | case1 schedule ended => exact ⟨schedule, rfl, inv, ended⟩
  | case2 schedule id rest taken fault failed =>
      obtain ⟨next, emitted, _, _⟩ := inv.emit wf taken
      rw [failed] at emitted
      cases emitted
  | case3 schedule id rest taken next emitted ih =>
      obtain ⟨same, again, _, invariant⟩ := inv.emit wf taken
      rw [emitted] at again
      cases again
      exact ih invariant

/-! ## Blocked components -/

/-- No component of a settled list reaches itself. -/
theorem Settled.idxOf_lt {store : Store} {ids : List ComponentId} (settled : Settled store ids)
    (nodup : ids.Nodup) {source target : ComponentId} (member : source ∈ ids)
    (reaches : store.Reaches source target) :
    target ∈ ids ∧ ids.idxOf target < ids.idxOf source := by
  have single : ∀ {id next}, id ∈ ids → store.DependsOn id next →
      next ∈ ids ∧ ids.idxOf next < ids.idxOf id := by
    intro id next inside depends
    obtain ⟨before, later, rfl⟩ := List.append_of_mem inside
    have earlier := settled before id later rfl next depends
    have fresh : id ∉ before := fun again =>
      (List.nodup_append.1 nodup).2.2 id again id (by simp) rfl
    refine ⟨List.mem_append_left _ earlier, ?_⟩
    rw [List.idxOf_append_of_mem earlier, List.idxOf_append_of_notMem fresh,
      List.idxOf_cons_self, Nat.add_zero]
    exact List.idxOf_lt_length_of_mem earlier
  induction reaches with
  | single depends => exact single member depends
  | tail _ depends ih =>
      obtain ⟨inside, less⟩ := single ih.1 depends
      exact ⟨inside, Nat.lt_trans less ih.2⟩

/-- Whether a component leads to a cycle. -/
def LeadsToCycle (store : Store) (id : ComponentId) : Prop :=
  ∃ around, store.Leads id around ∧ store.Reaches around around

theorem mem_blocked {store : Store} {schedule : Schedule} (inv : Invariant store schedule)
    {id : ComponentId} : id ∈ schedule.blocked ↔ id ∈ store.keys ∧ id ∉ schedule.emitted := by
  rw [blocked, inv.pending, mem_ascending]
  simp [entries, Function.comp_def]

theorem Invariant.blocked_sorted {store : Store} (wf : store.WellFormed) {schedule : Schedule}
    (inv : Invariant store schedule) : schedule.blocked.Pairwise (· < ·) := by
  apply ascending_strict
  rw [inv.pending]
  apply List.Nodup.filter
  simpa [entries, Function.comp_def] using wf.keys_nodup

/-- When nothing is ready any more, those are blocked that lead to a cycle. -/
theorem Invariant.mem_blocked_iff {store : Store} (wf : store.WellFormed) {schedule : Schedule}
    (inv : Invariant store schedule) (ended : schedule.ready = []) {id : ComponentId} :
    id ∈ schedule.blocked ↔ LeadsToCycle store id := by
  constructor
  · have serial : ∀ other ∈ schedule.blocked, ∃ next ∈ schedule.blocked,
        store.DependsOn other next := by
      intro other isBlocked
      obtain ⟨known, outside⟩ := (mem_blocked inv).1 isBlocked
      by_contra stuck
      have free : outstanding store schedule.emitted other = 0 := by
        rw [outstanding_eq_zero_iff]
        intro target depends
        by_contra unemitted
        exact stuck ⟨target, (mem_blocked inv).2 ⟨wf.target_mem depends, unemitted⟩, depends⟩
      have isReady := (inv.mem_ready other).2 ⟨known, outside, free⟩
      simp [ended] at isReady
    exact exists_transGen_self serial
  · rintro ⟨around, leads, cycle⟩
    have known : id ∈ store.keys := by
      rcases Relation.ReflTransGen.cases_head leads with rfl | ⟨next, depends, _⟩
      · obtain ⟨next, depends, _⟩ := Relation.TransGen.head'_iff.1 cycle
        exact depends.source_mem
      · exact depends.source_mem
    refine (mem_blocked inv).2 ⟨known, ?_⟩
    intro emitted
    have inside : around ∈ schedule.emitted := by
      rcases Relation.reflTransGen_iff_eq_or_transGen.1 leads with rfl | reaches
      · exact emitted
      · exact (inv.settled.idxOf_lt inv.nodup emitted reaches).1
    exact Nat.lt_irrefl _ (inv.settled.idxOf_lt inv.nodup inside cycle).2

end Schedule

/-! ## The order of a graph -/

/-- A processing order: the components that lead to no cycle, each after everything it depends
on, and then the others in ascending order. -/
structure Store.IsProcessed (store : Store) (result : DependencyOrder)
    (ready blocked : List ComponentId) : Prop where
  split : result.order = ready ++ blocked
  perm : result.order.Perm store.keys
  settled : Schedule.Settled store ready
  sorted : blocked.Pairwise (· < ·)
  blocked_iff : ∀ id, id ∈ blocked ↔ Schedule.LeadsToCycle store id
  cyclesPresent : result.cyclesPresent = true ↔ blocked ≠ []

/-- On a well-formed graph the sort ends without a fault and gives a processing order. -/
theorem Graph.WellFormed.dependencyOrder {graph : Graph} (wf : graph.WellFormed) :
    ∃ result ready blocked, graph.dependencyOrder = .ok result ∧
      graph.store.IsProcessed result ready blocked := by
  obtain ⟨final, done, inv, ended⟩ := (Schedule.invariant_initial wf.store).run wf.store
  have sorted := inv.blocked_sorted wf.store
  have nodup := nodup_of_strict sorted
  refine ⟨_, final.emitted, final.blocked, by rw [Graph.dependencyOrder, Graph.schedule, done]; rfl,
    rfl, ?_, inv.settled, sorted, fun id => inv.mem_blocked_iff wf.store ended, ?_⟩
  · refine (List.perm_ext_iff_of_nodup ?_ wf.store.keys_nodup).2 ?_
    · refine List.nodup_append.2 ⟨inv.nodup, nodup, ?_⟩
      rintro id emitted _ member rfl
      exact ((Schedule.mem_blocked inv).1 member).2 emitted
    · intro id
      rw [List.mem_append, Schedule.mem_blocked inv]
      by_cases emitted : id ∈ final.emitted
      · simp [emitted, inv.stored id emitted]
      · simp [emitted]
  · simp

theorem Graph.WellFormed.mem_blocked_iff {graph : Graph} (wf : graph.WellFormed)
    {schedule : Schedule} (scheduled : graph.schedule = .ok schedule) {id : ComponentId} :
    id ∈ schedule.blocked ↔ Schedule.LeadsToCycle graph.store id := by
  obtain ⟨final, done, inv, ended⟩ := (Schedule.invariant_initial wf.store).run wf.store
  rw [Graph.schedule, done] at scheduled
  cases scheduled
  exact inv.mem_blocked_iff wf.store ended

/-! ## Graphs with the same dependencies -/

namespace Schedule

variable {store other : Store} {schedule twin : Schedule}

/-- What is ready follows from what has been emitted. -/
theorem Invariant.ready_eq (inv : Invariant store schedule) (invTwin : Invariant other twin)
    (same : store.SameDependencies other) (emitted : schedule.emitted = twin.emitted) :
    schedule.ready = twin.ready := by
  have free : ∀ id, outstanding store schedule.emitted id = 0 ↔
      outstanding other twin.emitted id = 0 := by
    intro id
    rw [outstanding_eq_zero_iff, outstanding_eq_zero_iff, emitted]
    simp only [same.dependsOn]
  apply eq_of_strict inv.sorted invTwin.sorted
  intro id
  rw [inv.mem_ready, invTwin.mem_ready, free, emitted, same.keys.mem_iff]

/-- Two sorts that have emitted the same go on to emit the same. -/
theorem Invariant.run_emitted_eq (wf : store.WellFormed) (wfOther : other.WellFormed)
    (same : store.SameDependencies other) (inv : Invariant store schedule)
    (invTwin : Invariant other twin) (emitted : schedule.emitted = twin.emitted)
    {final finalTwin : Schedule} (done : Schedule.run store schedule = .ok final)
    (doneTwin : Schedule.run other twin = .ok finalTwin) : final.emitted = finalTwin.emitted := by
  -- The two sorts keep step: what has been emitted decides which component comes next.
  fun_induction Schedule.run store schedule generalizing twin with
  | case1 schedule ended =>
      have endedTwin : twin.ready = [] := by rw [← inv.ready_eq invTwin same emitted, ended]
      rw [Schedule.run_of_nil endedTwin] at doneTwin
      cases done
      cases doneTwin
      exact emitted
  | case2 schedule id rest taken fault failed => cases done
  | case3 schedule id rest taken next stepped ih =>
      have takenTwin : twin.ready = id :: rest := by
        rw [← inv.ready_eq invTwin same emitted, taken]
      obtain ⟨first, firstStepped, grown, invFirst⟩ := inv.emit wf taken
      obtain ⟨second, secondStepped, grownTwin, invSecond⟩ := invTwin.emit wfOther takenTwin
      rw [stepped] at firstStepped
      cases firstStepped
      rw [Schedule.run_of_emit takenTwin secondStepped] at doneTwin
      exact ih invFirst invSecond (by rw [grown, grownTwin, emitted]) done doneTwin

/-- Sorts that have emitted the same leave the same behind. -/
theorem Invariant.blocked_eq (inv : Invariant store schedule) (invTwin : Invariant other twin)
    (same : store.SameDependencies other) (emitted : schedule.emitted = twin.emitted) :
    schedule.blocked = twin.blocked := by
  rw [blocked, blocked, inv.pending, invTwin.pending, emitted]
  apply ascending_eq_of_perm
  apply List.Perm.filter
  simpa [entries, Function.comp_def] using same.keys

end Schedule

namespace Graph

variable {graph other : Graph}

/-- The sorts of two graphs with the same dependencies emit the same in the same order. -/
theorem schedules_agree (wf : graph.WellFormed) (wfOther : other.WellFormed)
    (same : graph.store.SameDependencies other.store) :
    ∃ final twin, graph.schedule = .ok final ∧ other.schedule = .ok twin ∧
      final.emitted = twin.emitted ∧ final.blocked = twin.blocked := by
  obtain ⟨final, done, inv, _⟩ := (Schedule.invariant_initial wf.store).run wf.store
  obtain ⟨twin, doneTwin, invTwin, _⟩ :=
    (Schedule.invariant_initial wfOther.store).run wfOther.store
  have emitted := (Schedule.invariant_initial wf.store).run_emitted_eq wf.store wfOther.store same
    (Schedule.invariant_initial wfOther.store) rfl done doneTwin
  exact ⟨final, twin, done, doneTwin, emitted, inv.blocked_eq invTwin same emitted⟩

theorem dependencyOrder_eq_of_same (wf : graph.WellFormed) (wfOther : other.WellFormed)
    (same : graph.store.SameDependencies other.store) :
    graph.dependencyOrder = other.dependencyOrder := by
  obtain ⟨final, twin, done, doneTwin, emitted, blocked⟩ := schedules_agree wf wfOther same
  rw [Graph.dependencyOrder, Graph.dependencyOrder, done, doneTwin, Except.map, Except.map, emitted,
    blocked]

end Graph

/-- Whatever graph comes about by operations, the sort ends without a fault and orders the stored
components: first those that lead to no cycle, each after everything it depends on, then the
others in ascending order.  Without cycles everything comes after what it depends on. -/
theorem dependencyOrder_after (operations : List Graph.Operation) :
    ∃ result ready blocked, (Graph.after operations).dependencyOrder = .ok result ∧
      result.order = ready ++ blocked ∧
      result.order.Perm (Graph.after operations).store.ids ∧
      (∀ before id later, ready = before ++ id :: later →
        ∀ target, (Graph.after operations).store.DependsOn id target → target ∈ before) ∧
      blocked.Pairwise (· < ·) ∧
      (∀ id, id ∈ blocked ↔ ∃ around, (Graph.after operations).store.Leads id around ∧
        (Graph.after operations).store.Reaches around around) ∧
      (result.cyclesPresent = true ↔ blocked ≠ []) ∧
      ((∀ id, ¬(Graph.after operations).store.Reaches id id) →
        ∀ before id later, result.order = before ++ id :: later →
          ∀ target, (Graph.after operations).store.DependsOn id target → target ∈ before) := by
  obtain ⟨result, ready, blocked, ordered, processed⟩ :=
    (Graph.wellFormed_after operations).dependencyOrder
  have permuted : result.order.Perm (Graph.after operations).store.ids := by
    rw [Store.ids_eq]
    exact processed.perm.trans (ascending_perm _).symm
  refine ⟨result, ready, blocked, ordered, processed.split, permuted, processed.settled,
    processed.sorted, processed.blocked_iff, processed.cyclesPresent, ?_⟩
  intro acyclic
  have none : blocked = [] := by
    rw [List.eq_nil_iff_forall_not_mem]
    intro id member
    obtain ⟨around, _, cycle⟩ := (processed.blocked_iff id).1 member
    exact acyclic around cycle
  have whole : result.order = ready := by rw [processed.split, none, List.append_nil]
  rw [whole]
  exact processed.settled

end DepAtlas
