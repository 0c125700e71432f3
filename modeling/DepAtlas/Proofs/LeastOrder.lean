import DepAtlas.Proofs.DependencyOrder
import Mathlib.Data.List.Lex

/-!
# The least order

Of all orders in which every component comes after everything it depends on, the sort gives the
first, when orders are compared id by id.  As it never takes back what it has emitted, it is enough
that each emission is the smallest one possible: an order that goes on from what has been emitted
goes on with a component that is ready, and the sort takes the smallest of these.

Components that lead to a cycle have no place in such an order.  The main statement is about the
others, and about all components of a graph without cycles.
-/

namespace DepAtlas

namespace Store

/-- An order of some of the stored components in which each comes after everything it depends on. -/
structure IsOrderOf (store : Store) (chosen : ComponentId → Prop) (ids : List ComponentId) :
    Prop where
  nodup : ids.Nodup
  mem_iff : ∀ id, id ∈ ids ↔ id ∈ store.keys ∧ chosen id
  settled : Schedule.Settled store ids

/-- The first of these orders, compared id by id. -/
structure IsLeastOrderOf (store : Store) (chosen : ComponentId → Prop)
    (ids : List ComponentId) : Prop where
  isOrder : store.IsOrderOf chosen ids
  least : ∀ other, store.IsOrderOf chosen other → ids = other ∨ List.Lex (· < ·) ids other

theorem IsOrderOf.perm {store : Store} {chosen : ComponentId → Prop}
    {ids others : List ComponentId} (first : store.IsOrderOf chosen ids)
    (second : store.IsOrderOf chosen others) : ids.Perm others := by
  apply (List.perm_ext_iff_of_nodup first.nodup second.nodup).2
  intro id
  rw [first.mem_iff, second.mem_iff]

end Store

namespace Schedule

variable {store : Store} {schedule final : Schedule}

/-- What has been emitted stays where it is. -/
theorem Invariant.emitted_prefix (wf : store.WellFormed) (inv : Invariant store schedule)
    (done : Schedule.run store schedule = .ok final) : schedule.emitted <+: final.emitted := by
  fun_induction Schedule.run store schedule with
  | case1 schedule ended =>
      cases done
      exact List.prefix_rfl
  | case2 schedule id rest taken fault failed => cases done
  | case3 schedule id rest taken next stepped ih =>
      obtain ⟨same, again, grown, invNext⟩ := inv.emit wf taken
      rw [stepped] at again
      cases again
      have further := ih invNext done
      rw [grown] at further
      exact (List.prefix_append schedule.emitted [id]).trans further

/-- Where an order goes on from what has been emitted, it goes on with a ready component. -/
theorem Invariant.ready_of_settled (inv : Invariant store schedule) {next : ComponentId}
    {later : List ComponentId} (stored : next ∈ store.keys)
    (nodup : (schedule.emitted ++ next :: later).Nodup)
    (settled : Settled store (schedule.emitted ++ next :: later)) : next ∈ schedule.ready := by
  have fresh : next ∉ schedule.emitted := fun emitted =>
    (List.nodup_append.1 nodup).2.2 next emitted next (by simp) rfl
  have free : outstanding store schedule.emitted next = 0 :=
    outstanding_eq_zero_iff.2 (settled schedule.emitted next later rfl)
  exact (inv.mem_ready next).2 ⟨stored, fresh, free⟩

/-- No order of the components that a sort emits, which goes on from what has been emitted, comes
before the sort's own. -/
theorem Invariant.run_least (wf : store.WellFormed) (inv : Invariant store schedule)
    (done : Schedule.run store schedule = .ok final) (nodup : final.emitted.Nodup)
    (stored : ∀ id ∈ final.emitted, id ∈ store.keys) {later : List ComponentId}
    (perm : (schedule.emitted ++ later).Perm final.emitted)
    (settled : Settled store (schedule.emitted ++ later)) :
    final.emitted = schedule.emitted ++ later ∨
      List.Lex (· < ·) final.emitted (schedule.emitted ++ later) := by
  fun_induction Schedule.run store schedule generalizing later with
  | case1 schedule ended =>
      cases done
      have none : later = [] := by
        have lengths := perm.length_eq
        rw [List.length_append] at lengths
        exact List.length_eq_zero_iff.1 (by omega)
      exact .inl (by rw [none, List.append_nil])
  | case2 schedule id rest taken fault failed => cases done
  | case3 schedule id rest taken following stepped ih =>
      obtain ⟨same, again, grown, invNext⟩ := inv.emit wf taken
      rw [stepped] at again
      cases again
      obtain ⟨others, whole⟩ := invNext.emitted_prefix wf done
      rw [grown, List.append_assoc, List.singleton_append] at whole
      cases later with
      | nil =>
          -- The sort still emits a component, so the order cannot be complete.
          have lengths := perm.length_eq
          simp [← whole] at lengths
      | cons next more =>
          have member : next ∈ final.emitted := perm.mem_iff.1 (by simp)
          have isReady := inv.ready_of_settled (stored next member) (perm.nodup_iff.2 nodup) settled
          have sorted := inv.sorted
          rw [taken] at isReady sorted
          rcases List.mem_cons.1 isReady with rfl | waiting
          · have regrouped : schedule.emitted ++ next :: more = following.emitted ++ more := by
              rw [grown, List.append_assoc, List.singleton_append]
            rw [regrouped] at perm settled ⊢
            exact ih invNext done perm settled
          · have less : id < next := (List.pairwise_cons.1 sorted).1 next waiting
            rw [← whole]
            exact .inr (List.Lex.append_left _ (.rel less) schedule.emitted)

/-- What a sort emits is the least order of the components that lead to no cycle. -/
theorem isLeastOrderOf_emitted (wf : store.WellFormed)
    (done : Schedule.run store (initial store) = .ok final) :
    store.IsLeastOrderOf (fun id => ¬LeadsToCycle store id) final.emitted := by
  have start := invariant_initial wf
  obtain ⟨same, again, inv, ended⟩ := start.run wf
  rw [done] at again
  cases again
  have order : store.IsOrderOf (fun id => ¬LeadsToCycle store id) final.emitted := by
    refine ⟨inv.nodup, ?_, inv.settled⟩
    intro id
    rw [← inv.mem_blocked_iff wf ended, mem_blocked inv]
    constructor
    · intro emitted
      exact ⟨inv.stored id emitted, fun outside => outside.2 emitted⟩
    · rintro ⟨stored, inside⟩
      by_contra outside
      exact inside ⟨stored, outside⟩
  refine ⟨order, ?_⟩
  intro other isOrder
  exact start.run_least wf done inv.nodup inv.stored (isOrder.perm order) isOrder.settled

end Schedule

/-- Whatever graph comes about by operations, its processing order begins with the least order of
the components that lead to no cycle, compared id by id, and only the others follow.  Without cycles
the processing order is the least order of all components. -/
theorem dependencyOrder_least (operations : List Graph.Operation) :
    ∃ result ready blocked, (Graph.after operations).dependencyOrder = .ok result ∧
      result.order = ready ++ blocked ∧
      (Graph.after operations).store.IsLeastOrderOf
        (fun id => ¬∃ around, (Graph.after operations).store.Leads id around ∧
          (Graph.after operations).store.Reaches around around) ready ∧
      (∀ id, id ∈ blocked ↔ ∃ around, (Graph.after operations).store.Leads id around ∧
        (Graph.after operations).store.Reaches around around) ∧
      ((∀ id, ¬(Graph.after operations).store.Reaches id id) →
        (Graph.after operations).store.IsLeastOrderOf (fun _ => True) result.order) := by
  have wf := (Graph.wellFormed_after operations).store
  obtain ⟨final, done, inv, ended⟩ := (Schedule.invariant_initial wf).run wf
  have ordered : (Graph.after operations).dependencyOrder =
      .ok ⟨final.emitted ++ final.blocked, !final.blocked.isEmpty⟩ := by
    rw [Graph.dependencyOrder, Graph.schedule, done]
    rfl
  have least := Schedule.isLeastOrderOf_emitted wf done
  refine ⟨_, final.emitted, final.blocked, ordered, rfl, least,
    fun id => inv.mem_blocked_iff wf ended, ?_⟩
  intro acyclic
  have all : (fun id => ¬Schedule.LeadsToCycle (Graph.after operations).store id) =
      fun _ => True := by
    funext id
    apply eq_true
    rintro ⟨around, _, cycle⟩
    exact acyclic around cycle
  have none : final.blocked = [] := by
    rw [List.eq_nil_iff_forall_not_mem]
    intro id member
    obtain ⟨around, _, cycle⟩ := (inv.mem_blocked_iff wf ended).1 member
    exact acyclic around cycle
  rw [all] at least
  simpa [none] using least

end DepAtlas
