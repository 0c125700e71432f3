import DepAtlas.Proofs.DependencyOrder

/-!
# Counting down

The sort is a loop: it tests whether anything is ready and then makes a pass, which emits the first
ready component and releases its dependents.  Here the loop is followed from test to test, with a
log of everything that has been put among the ready components.

Each pass keeps the counts exact, although it lowers them along the dependents and they stand for
dependencies.  What has been put among the ready components is still there or has been emitted, and
no component is in both places or twice in one.  So nothing is put there twice, and there are no
more passes than components.
-/

namespace DepAtlas

namespace Schedule

/-! ## The loop with its log -/

/-- A schedule with a log of everything that was put among the ready components, in order. -/
structure Logged where
  schedule : Schedule
  pushed : List ComponentId

namespace Logged

/-- Release a component, and log it if its count is zero then. -/
def release (logged : Logged) (id : ComponentId) : Except Fault Logged :=
  (logged.schedule.release id).map fun next =>
    ⟨next, if next.pending.lookup id = some 0 then logged.pushed ++ [id] else logged.pushed⟩

/-- Emit a component that has been taken from the ready ones. -/
def emit (store : Store) (logged : Logged) (id : ComponentId) : Except Fault Logged :=
  match store.get id with
  | .error fault => .error fault
  | .ok component =>
      component.dependents.foldlM release
        ⟨{ logged.schedule with emitted := logged.schedule.emitted ++ [id] }, logged.pushed⟩

theorem map_releases (logged : Logged) (ids : List ComponentId) :
    (ids.foldlM release logged).map (·.schedule) =
      ids.foldlM Schedule.release logged.schedule := by
  induction ids generalizing logged with
  | nil => rfl
  | cons id ids ih =>
      rw [List.foldlM_cons, List.foldlM_cons, release]
      cases logged.schedule.release id with
      | error fault => rfl
      | ok next => exact ih _

/-- The log changes nothing in the schedule. -/
theorem map_emit (store : Store) (logged : Logged) (id : ComponentId) :
    (logged.emit store id).map (·.schedule) = Schedule.emit store logged.schedule id := by
  rw [emit, Schedule.emit]
  cases store.get id with
  | error fault => rfl
  | ok component => exact map_releases _ component.dependents

end Logged

/-- The loop comes to a test with a schedule, behind a number of passes and with a log of what has
been put among the ready components. -/
inductive AtTest (store : Store) : Nat → Schedule → List ComponentId → Prop where
  | start : AtTest store 0 (initial store) (initial store).ready
  | pass {passes : Nat} {schedule next : Schedule} {pushed more : List ComponentId}
      {id : ComponentId} {rest : List ComponentId} (before : AtTest store passes schedule pushed)
      (taken : schedule.ready = id :: rest)
      (emitted : Logged.emit store ⟨{ schedule with ready := rest }, pushed⟩ id =
        .ok ⟨next, more⟩) : AtTest store (passes + 1) next more

/-! ## What is put among the ready components -/

theorem lookup_lower {id : ComponentId} {pending after : List (ComponentId × Int)} {left : Int}
    (lowered : lower id pending = some (left, after)) : after.lookup id = some left := by
  induction pending generalizing after with
  | nil => cases lowered
  | cons entry rest ih =>
      obtain ⟨key, count⟩ := entry
      rw [lower] at lowered
      split at lowered
      next same =>
        cases lowered
        simp [same]
      next different =>
        cases found : lower id rest with
        | none =>
            rw [found] at lowered
            cases lowered
        | some behind =>
            obtain ⟨count, others⟩ := behind
            rw [found] at lowered
            cases lowered
            rw [List.lookup_cons, beq_false_of_ne (Ne.symm different)]
            exact ih found

theorem insertAscending_perm (id : ComponentId) (ids : List ComponentId) :
    (insertAscending id ids).Perm (id :: ids) := by
  fun_induction insertAscending id ids with
  | case1 => exact .refl _
  | case2 first rest before => exact .refl _
  | case3 first rest behind ih => exact (ih.cons first).trans (.swap id first rest)

namespace Logged

/-- Whatever was put among the ready components has been emitted or is still there. -/
def Balanced (logged : Logged) : Prop :=
  logged.pushed.Perm (logged.schedule.emitted ++ logged.schedule.ready)

theorem Balanced.release {logged next : Logged} {id : ComponentId} (balanced : logged.Balanced)
    (released : logged.release id = .ok next) : next.Balanced := by
  rw [Logged.release, Schedule.release] at released
  cases lowered : lower id logged.schedule.pending with
  | none =>
      rw [lowered] at released
      cases released
  | some found =>
      obtain ⟨left, pending⟩ := found
      rw [lowered] at released
      cases released
      rw [Balanced]
      simp only [lookup_lower lowered, Option.some.injEq]
      split
      next =>
        have entered := (insertAscending_perm id logged.schedule.ready).symm
        have last : (logged.pushed ++ [id]).Perm (id :: logged.pushed) :=
          List.perm_append_singleton id logged.pushed
        have first : (id :: (logged.schedule.emitted ++ logged.schedule.ready)).Perm
            (logged.schedule.emitted ++ id :: logged.schedule.ready) := List.perm_middle.symm
        exact last.trans ((balanced.cons id).trans (first.trans (entered.append_left _)))
      next => exact balanced

theorem Balanced.releases {logged next : Logged} {ids : List ComponentId}
    (balanced : logged.Balanced) (released : ids.foldlM Logged.release logged = .ok next) :
    next.Balanced := by
  induction ids generalizing logged with
  | nil =>
      cases released
      exact balanced
  | cons id ids ih =>
      rw [List.foldlM_cons] at released
      cases first : logged.release id with
      | error fault =>
          rw [first] at released
          cases released
      | ok middle =>
          rw [first] at released
          exact ih (balanced.release first) released

/-- An emission moves one component from the ready ones to the emitted ones. -/
theorem Balanced.emit {store : Store} {schedule : Schedule} {pushed rest : List ComponentId}
    {id : ComponentId} {next : Logged} (balanced : Balanced ⟨schedule, pushed⟩)
    (taken : schedule.ready = id :: rest)
    (emitted : Logged.emit store ⟨{ schedule with ready := rest }, pushed⟩ id = .ok next) :
    next.Balanced := by
  rw [Logged.emit] at emitted
  cases found : store.get id with
  | error fault =>
      rw [found] at emitted
      cases emitted
  | ok component =>
      rw [found] at emitted
      apply Balanced.releases _ emitted
      rw [Balanced, taken] at balanced
      rw [Balanced, List.append_assoc]
      exact balanced

end Logged

/-! ## Exact counts -/

/-- What is known at a test of the loop. -/
structure Exact (store : Store) (schedule : Schedule) (pushed : List ComponentId) : Prop where
  /-- The count of a component is the number of its dependencies that are not emitted. -/
  counted : ∀ component ∈ store.components, schedule.pending.lookup component.id =
    some ((component.dependencies.countP fun target => target ∉ schedule.emitted : Nat) : Int)
  /-- Nothing else is counted. -/
  keys : schedule.pending.map (·.1) = store.keys
  not_negative : ∀ entry ∈ schedule.pending, 0 ≤ entry.2
  ready_nodup : schedule.ready.Nodup
  mem_ready : ∀ id, id ∈ schedule.ready ↔
    id ∈ store.keys ∧ id ∉ schedule.emitted ∧ schedule.pending.lookup id = some 0
  /-- Nothing is put among the ready components twice. -/
  pushed_nodup : pushed.Nodup
  /-- What was put there is emitted or still ready. -/
  pushed_perm : pushed.Perm (schedule.emitted ++ schedule.ready)

theorem lookup_entries {ids : List ComponentId} {count : ComponentId → Int} {id : ComponentId}
    (member : id ∈ ids) : (entries ids count).lookup id = some (count id) := by
  induction ids with
  | nil => simp at member
  | cons first rest ih =>
      by_cases same : id = first
      · simp [entries, same]
      · rw [entries, List.map_cons, List.lookup_cons, beq_false_of_ne same]
        exact ih ((List.mem_cons.1 member).resolve_left same)

variable {store : Store} {schedule : Schedule} {pushed : List ComponentId}

theorem Invariant.lookup_pending (inv : Invariant store schedule) {id : ComponentId}
    (known : id ∈ store.keys) :
    schedule.pending.lookup id = some (outstanding store schedule.emitted id : Int) := by
  rw [inv.pending]
  exact lookup_entries known

theorem Invariant.emitted_append_ready_nodup (inv : Invariant store schedule) :
    (schedule.emitted ++ schedule.ready).Nodup := by
  apply List.nodup_append.2
  refine ⟨inv.nodup, nodup_of_strict inv.sorted, ?_⟩
  rintro id emitted _ isReady rfl
  exact ((inv.mem_ready id).1 isReady).2.1 emitted

theorem Invariant.exact (wf : store.WellFormed) (inv : Invariant store schedule)
    (balanced : Logged.Balanced ⟨schedule, pushed⟩) : Exact store schedule pushed := by
  constructor
  case counted =>
    intro component stored
    have known : component.id ∈ store.keys := Store.mem_keys.2 ⟨component, stored, rfl⟩
    rw [inv.lookup_pending known, outstanding, Store.get?_of_mem wf.keys_nodup stored]
  case keys =>
    rw [inv.pending]
    simp [entries, Function.comp_def]
  case not_negative =>
    intro entry member
    rw [inv.pending] at member
    obtain ⟨id, _, rfl⟩ := List.mem_map.1 member
    exact Int.natCast_nonneg _
  case ready_nodup => exact nodup_of_strict inv.sorted
  case mem_ready =>
    intro id
    rw [inv.mem_ready]
    apply and_congr_right
    intro known
    simp [inv.lookup_pending known]
  case pushed_nodup => exact balanced.nodup_iff.2 inv.emitted_append_ready_nodup
  case pushed_perm => exact balanced

/-! ## From test to test -/

/-- A pass of the loop ends with a schedule that keeps the invariant. -/
theorem Invariant.pass (wf : store.WellFormed) (inv : Invariant store schedule) {id : ComponentId}
    {rest : List ComponentId} (taken : schedule.ready = id :: rest) (pushed : List ComponentId) :
    ∃ next more, Logged.emit store ⟨{ schedule with ready := rest }, pushed⟩ id =
        .ok ⟨next, more⟩ ∧
      Schedule.emit store { schedule with ready := rest } id = .ok next ∧
      next.emitted = schedule.emitted ++ [id] ∧ Invariant store next := by
  obtain ⟨next, emitted, grown, kept⟩ := inv.emit wf taken
  have same := Logged.map_emit store ⟨{ schedule with ready := rest }, pushed⟩ id
  rw [emitted] at same
  cases logged : Logged.emit store ⟨{ schedule with ready := rest }, pushed⟩ id with
  | error fault =>
      rw [logged] at same
      cases same
  | ok result =>
      rw [logged] at same
      cases same
      exact ⟨result.schedule, result.pushed, rfl, emitted, grown, kept⟩

/-- What holds at every test, from which the exact counts follow. -/
structure Kept (store : Store) (passes : Nat) (schedule : Schedule) (pushed : List ComponentId) :
    Prop where
  invariant : Invariant store schedule
  balanced : Logged.Balanced ⟨schedule, pushed⟩
  emitted : schedule.emitted.length = passes
  /-- From here the sort ends as it does from the start. -/
  run : Schedule.run store (initial store) = Schedule.run store schedule

theorem AtTest.kept (wf : store.WellFormed) {passes : Nat}
    (atTest : AtTest store passes schedule pushed) : Kept store passes schedule pushed := by
  induction atTest with
  | start => exact ⟨invariant_initial wf, .refl _, rfl, rfl⟩
  | pass before taken emitted ih =>
      obtain ⟨_, _, again, stepped, grown, inv⟩ := ih.invariant.pass wf taken _
      rw [emitted] at again
      cases again
      constructor
      case invariant => exact inv
      case balanced => exact ih.balanced.emit taken emitted
      case emitted => simp [grown, ih.emitted]
      case run => exact ih.run.trans (run_of_emit taken stepped)

/-- From any test the loop goes on to one where nothing is ready. -/
theorem AtTest.exists_last (wf : store.WellFormed) {passes : Nat}
    (atTest : AtTest store passes schedule pushed) :
    ∃ passes last pushed, AtTest store passes last pushed ∧ last.ready = [] ∧
      Schedule.run store schedule = .ok last := by
  fun_induction Schedule.run store schedule generalizing passes pushed with
  | case1 schedule ended => exact ⟨passes, schedule, pushed, atTest, ended, rfl⟩
  | case2 schedule id rest taken fault failed =>
      obtain ⟨_, _, _, stepped, _⟩ := (atTest.kept wf).invariant.pass wf taken pushed
      rw [failed] at stepped
      cases stepped
  | case3 schedule id rest taken next emitted ih =>
      obtain ⟨_, more, logged, stepped, _⟩ := (atTest.kept wf).invariant.pass wf taken pushed
      rw [emitted] at stepped
      cases stepped
      exact ih (atTest.pass taken logged)

/-- There are no more passes than components. -/
theorem Kept.passes_le {passes : Nat} (kept : Kept store passes schedule pushed) :
    passes ≤ store.size := by
  have bounded := kept.invariant.nodup.length_le_of_subset kept.invariant.stored
  rw [kept.emitted, Store.keys, List.length_map] at bounded
  exact bounded

end Schedule

/-- Whatever graph comes about by operations, at every test of the sort's loop the counts are exact,
what is ready is not emitted and waits for nothing, and nothing has been put there twice.  Every
pass emits one more component, so there are no more passes than components; a pass is made without a
fault whenever something is ready, and the loop goes on from every test as it does from the start.
So it comes to a test where nothing is ready, with the schedule of the graph. -/
theorem countdown_after (operations : List Graph.Operation) :
    (∀ passes schedule pushed,
      Schedule.AtTest (Graph.after operations).store passes schedule pushed →
      Schedule.Exact (Graph.after operations).store schedule pushed ∧
        schedule.emitted.length = passes ∧ passes ≤ (Graph.after operations).store.size ∧
        (schedule.ready ≠ [] → ∃ next more,
          Schedule.AtTest (Graph.after operations).store (passes + 1) next more) ∧
        (Graph.after operations).schedule =
          Schedule.run (Graph.after operations).store schedule) ∧
    ∃ passes last pushed,
      Schedule.AtTest (Graph.after operations).store passes last pushed ∧ last.ready = [] ∧
        (Graph.after operations).schedule = .ok last := by
  have wf := (Graph.wellFormed_after operations).store
  constructor
  · intro passes schedule pushed atTest
    have kept := atTest.kept wf
    refine ⟨kept.invariant.exact wf kept.balanced, kept.emitted, kept.passes_le, ?_, kept.run⟩
    intro isReady
    obtain ⟨id, rest, taken⟩ := List.exists_cons_of_ne_nil isReady
    obtain ⟨next, more, logged, _⟩ := kept.invariant.pass wf taken pushed
    exact ⟨next, more, atTest.pass taken logged⟩
  · exact Schedule.AtTest.start.exists_last wf

end DepAtlas
