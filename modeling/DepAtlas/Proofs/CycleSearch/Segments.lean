import DepAtlas.CycleSearch
import DepAtlas.Proofs.WellFormed
import Mathlib.Data.List.Nodup

/-!
# The stack of the search

The stack of the search falls into segments, one for each visit: a visit *owns* what lies
above its node and above no later visit's node.  At every time a segment is strongly
connected, and everything below it leads to it.

What a visit knows of its segment stays true when it looks at a dependency, when something
else is discovered and when the segment above is handed down to it.
-/

namespace DepAtlas.Search

/-- A dependency that a visit has not looked at yet. -/
def Awaits (visit : Visit) (source target : ComponentId) : Prop :=
  source = visit.node ∧ target ∈ visit.pending

/-- What a visit knows of its segment of the stack and of what lies below. -/
structure Owns (store : Store) (discovered : List ComponentId) (visit : Visit)
    (owned below : List ComponentId) : Prop where
  pending : ∀ target ∈ visit.pending, store.DependsOn visit.node target
  leads : ∀ id ∈ owned, store.Leads visit.node id
  returns : ∀ id ∈ owned ++ visit.node :: below, store.Leads id visit.node
  looked : ∀ source ∈ owned ++ [visit.node], ∀ target, store.DependsOn source target →
    target ∈ discovered ∨ Awaits visit source target
  low_le : visit.low ≤ discovered.idxOf visit.node
  low_bound : ∀ source ∈ owned ++ [visit.node], ∀ target ∈ below,
    store.DependsOn source target →
      visit.low ≤ discovered.idxOf target ∨ Awaits visit source target
  low_reached : visit.low = discovered.idxOf visit.node ∨
    ∃ target ∈ below, discovered.idxOf target = visit.low ∧ store.Leads visit.node target

/-- The visits divide the stack among them. -/
inductive Divided (store : Store) (discovered : List ComponentId) :
    List Visit → List ComponentId → Prop where
  | nil : Divided store discovered [] []
  | cons {visit : Visit} {visits : List Visit} {owned below : List ComponentId} :
      Owns store discovered visit owned below → Divided store discovered visits below →
      Divided store discovered (visit :: visits) (owned ++ visit.node :: below)

/-- Positions rise from the bottom of a stack to its top. -/
def Rising (discovered stack : List ComponentId) : Prop :=
  stack.Pairwise fun upper lower => discovered.idxOf lower < discovered.idxOf upper

variable {store : Store} {discovered owned below : List ComponentId} {visit parent : Visit}

/-! ## Positions -/

theorem Rising.nodup {stack : List ComponentId} (rising : Rising discovered stack) :
    stack.Nodup :=
  rising.imp fun lower same => by simp [same] at lower

/-- What lies below a component was discovered before it. -/
theorem Rising.lt_of_mem_below {node target : ComponentId}
    (rising : Rising discovered (owned ++ node :: below)) (lower : target ∈ below) :
    discovered.idxOf target < discovered.idxOf node :=
  (List.pairwise_cons.1 (List.pairwise_append.1 rising).2.1).1 target lower

/-- What a visit owns was discovered after its node. -/
theorem Rising.lt_of_mem_owned {node target : ComponentId}
    (rising : Rising discovered (owned ++ node :: below)) (upper : target ∈ owned) :
    discovered.idxOf node < discovered.idxOf target :=
  (List.pairwise_append.1 rising).2.2 target upper node List.mem_cons_self

theorem Rising.rest {node : ComponentId}
    (rising : Rising discovered (owned ++ node :: below)) : Rising discovered below :=
  (List.pairwise_cons.1 (List.pairwise_append.1 rising).2.1).2

theorem idxOf_append {id : ComponentId} (new : ComponentId) (member : id ∈ discovered) :
    (discovered ++ [new]).idxOf id = discovered.idxOf id :=
  List.idxOf_append_of_mem member

/-- A discovery takes the place above the whole stack. -/
theorem Rising.push {stack : List ComponentId} (rising : Rising discovered stack)
    (stacked : ∀ id ∈ stack, id ∈ discovered) {new : ComponentId} (fresh : new ∉ discovered) :
    Rising (discovered ++ [new]) (new :: stack) := by
  have place : (discovered ++ [new]).idxOf new = discovered.length := by
    rw [List.idxOf_append_of_notMem fresh, List.idxOf_cons_self, Nat.add_zero]
  refine List.pairwise_cons.2 ⟨?_, ?_⟩
  · intro id member
    rw [place, idxOf_append new (stacked id member)]
    exact List.idxOf_lt_length_of_mem (stacked id member)
  · refine rising.imp_of_mem ?_
    intro upper lower upperMember lowerMember less
    rwa [idxOf_append new (stacked upper upperMember), idxOf_append new (stacked lower lowerMember)]

theorem Divided.inv {visits : List Visit} {stack : List ComponentId}
    (divided : Divided store discovered (visit :: visits) stack) :
    ∃ owned below, stack = owned ++ visit.node :: below ∧
      Owns store discovered visit owned below ∧ Divided store discovered visits below := by
  cases divided with
  | cons owns rest => exact ⟨_, _, rfl, owns, rest⟩

theorem Divided.stack_eq_nil {stack : List ComponentId}
    (divided : Divided store discovered [] stack) : stack = [] := by
  cases divided
  rfl

theorem cut_append {node : ComponentId} (fresh : node ∉ owned) :
    cut node (owned ++ node :: below) = some (owned ++ [node], below) := by
  induction owned with
  | nil => simp [cut]
  | cons top rest ih =>
      rw [List.mem_cons, not_or] at fresh
      simp [cut, Ne.symm fresh.1, ih fresh.2]

/-! ## Looking at a dependency -/

/-- Another discovery leaves what a visit knows as it is. -/
theorem Owns.extend (owns : Owns store discovered visit owned below)
    (stacked : ∀ id ∈ owned ++ visit.node :: below, id ∈ discovered) (new : ComponentId) :
    Owns store (discovered ++ [new]) visit owned below := by
  have node : (discovered ++ [new]).idxOf visit.node = discovered.idxOf visit.node :=
    idxOf_append new (stacked visit.node (by simp))
  have lower : ∀ {target}, target ∈ below →
      (discovered ++ [new]).idxOf target = discovered.idxOf target := fun member =>
    idxOf_append new (stacked _ (by simp [member]))
  refine { owns with looked := ?_, low_le := ?_, low_bound := ?_, low_reached := ?_ }
  · intro source member target depends
    rcases owns.looked source member target depends with seen | awaited
    · exact .inl (List.mem_append_left [new] seen)
    · exact .inr awaited
  · rw [node]
    exact owns.low_le
  · intro source member target isBelow depends
    rw [lower isBelow]
    exact owns.low_bound source member target isBelow depends
  · rw [node]
    rcases owns.low_reached with own | ⟨target, isBelow, place, leads⟩
    · exact .inl own
    · exact .inr ⟨target, isBelow, (lower isBelow).trans place, leads⟩

theorem Divided.extend {visits : List Visit} {stack : List ComponentId}
    (divided : Divided store discovered visits stack)
    (stacked : ∀ id ∈ stack, id ∈ discovered) (new : ComponentId) :
    Divided store (discovered ++ [new]) visits stack := by
  induction divided with
  | nil => exact .nil
  | cons owns rest ih =>
      refine .cons (owns.extend stacked new) (ih ?_)
      intro id member
      exact stacked id (by simp [member])

/-- A visit looks at a dependency that does not lie below it, or below which its new bound
does not lie. -/
theorem Owns.look (owns : Owns store discovered visit owned below) {next : ComponentId}
    {pending : List ComponentId} (awaited : visit.pending = next :: pending)
    (seen : next ∈ discovered) {low : Nat}
    (lowered : low = visit.low ∧ next ∉ below ∨
      low ≤ visit.low ∧ low ≤ discovered.idxOf next ∧
        (low = visit.low ∨ next ∈ below ∧ discovered.idxOf next = low)) :
    Owns store discovered { visit with low, pending } owned below := by
  have depends : store.DependsOn visit.node next := owns.pending next (by simp [awaited])
  have lower : low ≤ visit.low := by
    rcases lowered with ⟨rfl, _⟩ | ⟨less, _⟩
    · exact Nat.le_refl _
    · exact less
  constructor
  case pending =>
    intro target member
    exact owns.pending target (by simp [awaited, member])
  case leads => exact owns.leads
  case returns => exact owns.returns
  case looked =>
    intro source member target edge
    rcases owns.looked source member target edge with found | ⟨isNode, waits⟩
    · exact .inl found
    · rw [awaited] at waits
      rcases List.mem_cons.1 waits with rfl | later
      · exact .inl seen
      · exact .inr ⟨isNode, later⟩
  case low_le => exact Nat.le_trans lower owns.low_le
  case low_bound =>
    intro source member target isBelow edge
    rcases owns.low_bound source member target isBelow edge with bound | ⟨isNode, waits⟩
    · exact .inl (Nat.le_trans lower bound)
    · rw [awaited] at waits
      rcases List.mem_cons.1 waits with rfl | later
      · rcases lowered with ⟨_, outside⟩ | ⟨_, bound, _⟩
        · exact absurd isBelow outside
        · exact .inl bound
      · exact .inr ⟨isNode, later⟩
  case low_reached =>
    have kept : low = visit.low → low = discovered.idxOf visit.node ∨
        ∃ target ∈ below, discovered.idxOf target = low ∧ store.Leads visit.node target := by
      rintro rfl
      exact owns.low_reached
    rcases lowered with ⟨same, _⟩ | ⟨_, _, same | ⟨isBelow, place⟩⟩
    · exact kept same
    · exact kept same
    · exact .inr ⟨next, isBelow, place, .single depends⟩

/-- A stacked component lowers the bound of a visit only if it lies below it. -/
theorem Owns.min_low (owns : Owns store discovered visit owned below)
    (rising : Rising discovered (owned ++ visit.node :: below)) {next : ComponentId}
    (stacked : next ∈ owned ++ visit.node :: below) :
    min visit.low (discovered.idxOf next) = visit.low ∨
      next ∈ below ∧ discovered.idxOf next = min visit.low (discovered.idxOf next) := by
  have bound := owns.low_le
  rcases List.mem_append.1 stacked with above | rest
  · have higher := rising.lt_of_mem_owned above
    exact .inl (Nat.min_eq_left (by omega))
  · rcases List.mem_cons.1 rest with rfl | isBelow
    · exact .inl (Nat.min_eq_left bound)
    · rcases Nat.le_total visit.low (discovered.idxOf next) with less | less
      · exact .inl (Nat.min_eq_left less)
      · exact .inr ⟨isBelow, (Nat.min_eq_right less).symm⟩

/-! ## Where a visit begins and ends -/

/-- A visit that begins owns nothing but its node. -/
theorem owns_discover {component : Component} {stack : List ComponentId}
    (found : store.get? component.id = some component) (fresh : component.id ∉ discovered)
    (returns : ∀ id ∈ stack, store.Leads id component.id) :
    Owns store (discovered ++ [component.id])
      ⟨component.id, discovered.length, component.dependencies⟩ [] stack := by
  have place : (discovered ++ [component.id]).idxOf component.id = discovered.length := by
    rw [List.idxOf_append_of_notMem fresh, List.idxOf_cons_self, Nat.add_zero]
  have all : ∀ source ∈ [] ++ [component.id], ∀ target, store.DependsOn source target →
      source = component.id ∧ target ∈ component.dependencies := by
    intro source member target depends
    rw [List.nil_append, List.mem_singleton] at member
    subst member
    exact ⟨rfl, (Store.dependsOn_iff found).1 depends⟩
  constructor
  case pending =>
    intro target member
    exact (Store.dependsOn_iff found).2 member
  case leads => simp
  case returns =>
    intro id member
    rcases List.mem_cons.1 member with rfl | lower
    · exact .refl
    · exact returns id lower
  case looked =>
    intro source member target depends
    exact .inr (all source member target depends)
  case low_le => exact Nat.le_of_eq place.symm
  case low_bound =>
    intro source member target _ depends
    exact .inr (all source member target depends)
  case low_reached => exact .inl place.symm

section Absorbing

variable {ownedAbove : List ComponentId}
  (upper : Owns store discovered visit ownedAbove (owned ++ parent.node :: below))
  (lower : Owns store discovered parent owned below)
  (inner : visit.low ≠ discovered.idxOf visit.node)

include upper lower inner

/-- A visit that has reached something below its node leads back to the visit below. -/
theorem Owns.leads_parent : store.Leads visit.node parent.node := by
  obtain ⟨target, member, _, leads⟩ := upper.low_reached.resolve_left inner
  exact leads.trans (lower.returns target member)

/-- The lower of the two bounds is the place of the parent, or a place below that the parent
leads to. -/
theorem Owns.merged_low_reached (rising : Rising discovered (owned ++ parent.node :: below))
    (entered : store.Leads parent.node visit.node) :
    min parent.low visit.low = discovered.idxOf parent.node ∨
      ∃ target ∈ below, discovered.idxOf target = min parent.low visit.low ∧
        store.Leads parent.node target := by
  obtain ⟨target, member, place, leads⟩ := upper.low_reached.resolve_left inner
  rcases Nat.le_total parent.low visit.low with less | less
  · rw [Nat.min_eq_left less]
    exact lower.low_reached
  · rw [Nat.min_eq_right less, ← place]
    rcases List.mem_append.1 member with mine | rest
    · -- A place among the parent's own cannot be below the parent's bound.
      have above := rising.lt_of_mem_owned mine
      have bound := lower.low_le
      omega
    · rcases List.mem_cons.1 rest with rfl | isBelow
      · exact .inl rfl
      · exact .inr ⟨target, isBelow, rfl, entered.trans leads⟩

/-- A visit that has looked at everything and has reached something below its node hands
what it owns to the visit below. -/
theorem Owns.absorb (ended : visit.pending = [])
    (rising : Rising discovered (ownedAbove ++ visit.node :: (owned ++ parent.node :: below)))
    (entered : store.Leads parent.node visit.node) :
    Owns store discovered { parent with low := min parent.low visit.low }
      (ownedAbove ++ visit.node :: owned) below := by
  have back : store.Leads visit.node parent.node := upper.leads_parent lower inner
  have settled : ∀ source target, ¬Awaits visit source target := by
    rintro source target ⟨_, waits⟩
    simp [ended] at waits
  have handed : ∀ source, source ∈ ownedAbove ++ visit.node :: owned ++ [parent.node] →
      source ∈ ownedAbove ++ [visit.node] ∨ source ∈ owned ++ [parent.node] := by
    intro source member
    simp only [List.mem_append, List.mem_cons, List.not_mem_nil, or_false] at member ⊢
    rcases member with (above | node | mine) | own
    · exact .inl (.inl above)
    · exact .inl (.inr node)
    · exact .inr (.inl mine)
    · exact .inr (.inr own)
  constructor
  case pending => exact lower.pending
  case leads =>
    intro id member
    rcases List.mem_append.1 member with above | rest
    · exact entered.trans (upper.leads id above)
    · rcases List.mem_cons.1 rest with rfl | mine
      · exact entered
      · exact lower.leads id mine
  case returns =>
    intro id member
    rw [List.append_assoc, List.mem_append] at member
    rcases member with above | rest
    · exact (upper.returns id (List.mem_append_left _ above)).trans back
    · rcases List.mem_cons.1 rest with rfl | mine
      · exact back
      · exact lower.returns id mine
  case looked =>
    intro source member target depends
    rcases handed source member with above | mine
    · exact .inl ((upper.looked source above target depends).resolve_right (settled _ _))
    · exact lower.looked source mine target depends
  case low_le => exact Nat.le_trans (Nat.min_le_left ..) lower.low_le
  case low_bound =>
    intro source member target isBelow depends
    rcases handed source member with above | mine
    · have stillBelow : target ∈ owned ++ parent.node :: below := by simp [isBelow]
      have bound :=
        (upper.low_bound source above target stillBelow depends).resolve_right (settled _ _)
      exact .inl (Nat.le_trans (Nat.min_le_right ..) bound)
    · rcases lower.low_bound source mine target isBelow depends with bound | awaited
      · exact .inl (Nat.le_trans (Nat.min_le_left ..) bound)
      · exact .inr awaited
  case low_reached => exact upper.merged_low_reached lower inner rising.rest entered

end Absorbing

end DepAtlas.Search
