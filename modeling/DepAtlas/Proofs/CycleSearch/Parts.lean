import DepAtlas.Proofs.CycleSearch.Segments

/-!
# The parts that the search closes

A visit that has reached nothing below its own node owns a whole strongly connected part when
it ends.  The part is left behind by every later step: nothing in it depends on anything but
itself and parts that were closed before.
-/

namespace DepAtlas

theorem Graph.dependsOnItself_iff {graph : Graph} {id : ComponentId} :
    graph.dependsOnItself id = true ↔ graph.store.DependsOn id id := by
  rw [Graph.dependsOnItself]
  cases found : graph.store.get? id with
  | none => simp [Store.DependsOn, found]
  | some component => simp [Store.dependsOn_iff found]

namespace Search

/-- A component that belongs to a finished part. -/
def Finished (search : Search) (id : ComponentId) : Prop :=
  id ∈ search.discovered ∧ id ∉ search.stack

/-- The invariant of the search. -/
structure Invariant (store : Store) (search : Search) : Prop where
  nodup : search.discovered.Nodup
  stored : ∀ id ∈ search.discovered, id ∈ store.keys
  stacked : ∀ id ∈ search.stack, id ∈ search.discovered
  rising : Rising search.discovered search.stack
  closed : ∀ source, search.Finished source → ∀ target, store.DependsOn source target →
    search.Finished target
  divided : Divided store search.discovered search.visits search.stack
  found_nodup : search.found.flatten.Nodup
  found_finished : ∀ members ∈ search.found, ∀ id ∈ members, search.Finished id
  found_ne_nil : ∀ members ∈ search.found, members ≠ []
  found_iff : ∀ source, search.Finished source → ∀ target,
    (∃ members ∈ search.found, source ∈ members ∧ target ∈ members) ↔
      store.Reaches source target ∧ store.Reaches target source

variable {store : Store} {discovered owned below : List ComponentId} {visit : Visit}

/-! ## Strongly connected parts -/

theorem exists_other {part : List ComponentId} (nodup : part.Nodup) (several : 1 < part.length)
    (id : ComponentId) : ∃ other ∈ part, other ≠ id := by
  match part, nodup, several with
  | first :: second :: rest, nodup, _ =>
      have different : first ≠ second := by
        rintro rfl
        simp at nodup
      by_cases same : first = id
      · exact ⟨second, by simp, same ▸ different.symm⟩
      · exact ⟨first, by simp, same⟩

theorem one_lt_length {part : List ComponentId} {id other : ComponentId} (member : id ∈ part)
    (otherMember : other ∈ part) (different : id ≠ other) : 1 < part.length := by
  match part with
  | [] => simp at member
  | [only] =>
      rw [List.mem_singleton] at member otherMember
      exact absurd (member.trans otherMember.symm) different
  | first :: second :: rest => simp

/-- A set of components that lead to each other, and from which dependencies lead to
finished components only. -/
structure IsPart (store : Store) (search : Search) (part : List ComponentId) : Prop where
  nodup : part.Nodup
  unfinished : ∀ id ∈ part, ¬search.Finished id
  connected : ∀ source ∈ part, ∀ target ∈ part, store.Leads source target
  closed : ∀ source ∈ part, ∀ target, store.DependsOn source target →
    target ∈ part ∨ search.Finished target

theorem Invariant.finished_of_leads {search : Search} (inv : Invariant store search)
    {source target : ComponentId} (finished : search.Finished source)
    (leads : store.Leads source target) : search.Finished target := by
  induction leads with
  | refl => exact finished
  | tail _ depends ih => exact inv.closed _ ih _ depends

namespace IsPart

variable {search : Search} {part : List ComponentId}

theorem leads_out (isPart : IsPart store search part) (inv : Invariant store search)
    {source target : ComponentId} (member : source ∈ part) (leads : store.Leads source target) :
    target ∈ part ∨ search.Finished target := by
  induction leads with
  | refl => exact .inl member
  | tail _ depends ih =>
      rcases ih with inside | finished
      · exact isPart.closed _ inside _ depends
      · exact .inr (inv.closed _ finished _ depends)

/-- What leads to a part and is reached from it belongs to it. -/
theorem mem_of_leads (isPart : IsPart store search part) (inv : Invariant store search)
    {source target : ComponentId} (member : source ∈ part) (there : store.Leads source target)
    (back : store.Leads target source) : target ∈ part := by
  rcases isPart.leads_out inv member there with inside | finished
  · exact inside
  · exact absurd (inv.finished_of_leads finished back) (isPart.unfinished source member)

/-- The members of a cycle reach each other and themselves. -/
theorem reaches {graph : Graph} (isPart : IsPart graph.store search part) {node : ComponentId}
    (root : node ∈ part) (cyclic : isCycle graph node part.reverse = true)
    {source target : ComponentId} (sourceMember : source ∈ part) (targetMember : target ∈ part) :
    graph.store.Reaches source target := by
  have there := isPart.connected source sourceMember target targetMember
  rcases Relation.reflTransGen_iff_eq_or_transGen.1 there with rfl | reaches
  · simp only [isCycle, Bool.or_eq_true, decide_eq_true_eq, List.length_reverse] at cyclic
    rcases cyclic with several | itself
    · obtain ⟨other, otherMember, different⟩ :=
        exists_other isPart.nodup several target
      have away := isPart.connected target targetMember other otherMember
      have back := isPart.connected other otherMember target targetMember
      rcases Relation.reflTransGen_iff_eq_or_transGen.1 away with equal | reaches
      · exact absurd equal different
      · exact reaches.trans_left back
    · have around : graph.store.DependsOn node node := Graph.dependsOnItself_iff.1 itself
      have toRoot := isPart.connected target targetMember node root
      have fromRoot := isPart.connected node root target targetMember
      exact Relation.TransGen.trans_right toRoot (Relation.TransGen.head' around fromRoot)
  · exact reaches

/-- A part whose members reach themselves is a cycle. -/
theorem isCycle_of_reaches {graph : Graph} (isPart : IsPart graph.store search part)
    (inv : Invariant graph.store search) {node : ComponentId} (root : node ∈ part)
    {source : ComponentId} (member : source ∈ part)
    (around : graph.store.Reaches source source) :
    isCycle graph node part.reverse = true := by
  simp only [isCycle, Bool.or_eq_true, decide_eq_true_eq, List.length_reverse]
  by_cases several : 1 < part.length
  · exact .inl several
  · right
    have single : ∀ id ∈ part, id = node := by
      intro id inside
      by_contra different
      apply several
      exact one_lt_length inside root different
    obtain ⟨next, depends, back⟩ := Relation.TransGen.head'_iff.1 around
    have inside := isPart.mem_of_leads inv member (.single depends) back
    rw [Graph.dependsOnItself_iff]
    rwa [single source member, single next inside] at depends

end IsPart

/-! ## The part of a visit -/

/-- What a visit that ends at its own node has owned depends on nothing outside but
finished parts. -/
theorem Owns.part_closed {search : Search} (inv : Invariant store search)
    (stack : search.stack = owned ++ visit.node :: below)
    (owns : Owns store search.discovered visit owned below) (ended : visit.pending = [])
    (root : visit.low = search.discovered.idxOf visit.node) {source target : ComponentId}
    (member : source ∈ owned ++ [visit.node]) (depends : store.DependsOn source target) :
    target ∈ owned ++ [visit.node] ∨ search.Finished target := by
  have settled : ¬Awaits visit source target := by
    rintro ⟨_, waits⟩
    simp [ended] at waits
  have seen := (owns.looked source member target depends).resolve_right settled
  by_cases isStacked : target ∈ search.stack
  · left
    rw [stack, List.append_cons, List.mem_append] at isStacked
    rcases isStacked with inside | isBelow
    · exact inside
    · have bound := (owns.low_bound source member target isBelow depends).resolve_right settled
      have rising := inv.rising
      rw [stack] at rising
      have lower := rising.lt_of_mem_below isBelow
      omega
  · exact .inr ⟨seen, isStacked⟩

/-- What a visit has owned when it ends at its own node is a part. -/
theorem Owns.isPart {search : Search} (inv : Invariant store search)
    (stack : search.stack = owned ++ visit.node :: below)
    (owns : Owns store search.discovered visit owned below) (ended : visit.pending = [])
    (root : visit.low = search.discovered.idxOf visit.node) :
    IsPart store search (owned ++ [visit.node]) := by
  have toNode : ∀ id ∈ owned ++ [visit.node], store.Leads id visit.node := by
    intro id member
    apply owns.returns
    rw [List.append_cons]
    exact List.mem_append_left below member
  have fromNode : ∀ id ∈ owned ++ [visit.node], store.Leads visit.node id := by
    intro id member
    rcases List.mem_append.1 member with above | node
    · exact owns.leads id above
    · rw [List.mem_singleton.1 node]
      exact .refl
  constructor
  case nodup =>
    have nodup := inv.rising.nodup
    rw [stack, List.append_cons] at nodup
    exact (List.nodup_append.1 nodup).1
  case unfinished =>
    rintro id member ⟨_, outside⟩
    apply outside
    rw [stack, List.append_cons]
    exact List.mem_append_left below member
  case connected =>
    intro source sourceMember target targetMember
    exact (toNode source sourceMember).trans (fromNode target targetMember)
  case closed =>
    intro source member target depends
    exact owns.part_closed inv stack ended root member depends

/-! ## Closing a part -/

/-- The search behind the closing of a part. -/
def withPart (graph : Graph) (search : Search) (node : ComponentId)
    (part below : List ComponentId) (visits : List Visit) : Search :=
  { search with
    stack := below
    visits
    found := if isCycle graph node part.reverse then search.found ++ [part.reverse]
      else search.found }

section Closing

variable {graph : Graph} {search : Search} {node : ComponentId} {part : List ComponentId}
  {visits : List Visit}

theorem mem_found_withPart {members : List ComponentId} :
    members ∈ (withPart graph search node part below visits).found ↔
      members ∈ search.found ∨
        isCycle graph node part.reverse = true ∧ members = part.reverse := by
  by_cases cyclic : isCycle graph node part.reverse = true <;> simp [withPart, cyclic]

theorem finished_withPart (inv : Invariant graph.store search)
    (stack : search.stack = part ++ below) {id : ComponentId} :
    (withPart graph search node part below visits).Finished id ↔
      id ∈ part ∨ search.Finished id := by
  have nodup := inv.rising.nodup
  rw [stack, List.nodup_append] at nodup
  obtain ⟨_, _, disjoint⟩ := nodup
  simp only [Finished, withPart, stack, List.mem_append, not_or]
  constructor
  · rintro ⟨seen, outside⟩
    by_cases inside : id ∈ part
    · exact .inl inside
    · exact .inr ⟨seen, inside, outside⟩
  · rintro (inside | ⟨seen, _, outside⟩)
    · have known : id ∈ search.discovered := inv.stacked id (by simp [stack, inside])
      exact ⟨known, fun lower => disjoint id inside id lower rfl⟩
    · exact ⟨seen, outside⟩

/-- No list that was found before names a member of the part. -/
theorem IsPart.notMem_of_found (isPart : IsPart graph.store search part)
    (inv : Invariant graph.store search) {members : List ComponentId}
    (earlier : members ∈ search.found) {id : ComponentId} (inside : id ∈ members) : id ∉ part :=
  fun member => isPart.unfinished id member (inv.found_finished members earlier id inside)

/-- A member of the part shares a list with what it reaches and is reached from. -/
theorem IsPart.found_iff (isPart : IsPart graph.store search part)
    (inv : Invariant graph.store search) (root : node ∈ part) {source target : ComponentId}
    (inside : source ∈ part) :
    (∃ members ∈ (withPart graph search node part below visits).found,
        source ∈ members ∧ target ∈ members) ↔
      graph.store.Reaches source target ∧ graph.store.Reaches target source := by
  constructor
  · rintro ⟨members, member, sourceInside, targetInside⟩
    rcases mem_found_withPart.1 member with old | ⟨cyclic, rfl⟩
    · exact absurd inside (isPart.notMem_of_found inv old sourceInside)
    · rw [List.mem_reverse] at targetInside
      exact ⟨isPart.reaches root cyclic inside targetInside,
        isPart.reaches root cyclic targetInside inside⟩
  · rintro ⟨there, back⟩
    have targetInside :=
      isPart.mem_of_leads inv inside there.to_reflTransGen back.to_reflTransGen
    have cyclic := isPart.isCycle_of_reaches inv root inside (there.trans back)
    exact ⟨part.reverse, mem_found_withPart.2 (.inr ⟨cyclic, rfl⟩), List.mem_reverse.2 inside,
      List.mem_reverse.2 targetInside⟩

/-- What was finished before keeps its list. -/
theorem IsPart.found_iff_of_finished (isPart : IsPart graph.store search part)
    {source target : ComponentId} (finished : search.Finished source) :
    (∃ members ∈ (withPart graph search node part below visits).found,
        source ∈ members ∧ target ∈ members) ↔
      ∃ members ∈ search.found, source ∈ members ∧ target ∈ members := by
  constructor
  · rintro ⟨members, member, sourceInside, targetInside⟩
    rcases mem_found_withPart.1 member with old | ⟨_, rfl⟩
    · exact ⟨members, old, sourceInside, targetInside⟩
    · exact absurd finished (isPart.unfinished source (List.mem_reverse.1 sourceInside))
  · rintro ⟨members, member, inside⟩
    exact ⟨members, mem_found_withPart.2 (.inl member), inside⟩

theorem IsPart.nodup_found (isPart : IsPart graph.store search part)
    (inv : Invariant graph.store search) :
    (withPart graph search node part below visits).found.flatten.Nodup := by
  simp only [withPart]
  split
  · rw [List.flatten_append, List.flatten_singleton, List.nodup_append]
    refine ⟨inv.found_nodup, List.nodup_reverse.2 isPart.nodup, ?_⟩
    rintro id old other new rfl
    obtain ⟨members, member, inside⟩ := List.mem_flatten.1 old
    exact isPart.notMem_of_found inv member inside (List.mem_reverse.1 new)
  · exact inv.found_nodup

/-- Closing a part keeps the invariant. -/
theorem Invariant.close (inv : Invariant graph.store search)
    (stack : search.stack = part ++ below) (root : node ∈ part)
    (isPart : IsPart graph.store search part)
    (divided : Divided graph.store search.discovered visits below) :
    Invariant graph.store (withPart graph search node part below visits) := by
  constructor
  case nodup => exact inv.nodup
  case stored => exact inv.stored
  case stacked =>
    intro id member
    exact inv.stacked id (by simp [stack, show id ∈ below from member])
  case rising =>
    have rising := inv.rising
    rw [stack] at rising
    exact (List.pairwise_append.1 rising).2.1
  case closed =>
    intro source done target depends
    rw [finished_withPart inv stack] at done ⊢
    rcases done with inside | finished
    · exact isPart.closed source inside target depends
    · exact .inr (inv.closed source finished target depends)
  case divided => exact divided
  case found_nodup => exact isPart.nodup_found inv
  case found_finished =>
    intro members member id inside
    rw [finished_withPart inv stack]
    rcases mem_found_withPart.1 member with old | ⟨_, rfl⟩
    · exact .inr (inv.found_finished members old id inside)
    · exact .inl (List.mem_reverse.1 inside)
  case found_ne_nil =>
    intro members member
    rcases mem_found_withPart.1 member with old | ⟨_, rfl⟩
    · exact inv.found_ne_nil members old
    · rw [ne_eq, List.reverse_eq_nil_iff]
      exact List.ne_nil_of_mem root
  case found_iff =>
    intro source done target
    rcases (finished_withPart inv stack).1 done with inside | finished
    · exact isPart.found_iff inv root inside
    · rw [isPart.found_iff_of_finished finished]
      exact inv.found_iff source finished target

end Closing

end Search

end DepAtlas
