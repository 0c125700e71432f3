import DepAtlas.Proofs.Construction
import DepAtlas.Ranking
import Mathlib.Algebra.Module.Submodule.Lattice
import Mathlib.Data.List.Permutation

/-!
# What rankings list

A ranking sorts what is eligible and is cut off at its limit.  As ties are broken by name, no two
items tie in the end: the order is strict, a ranking lists its items in that order, and whatever it
lists comes before whatever it leaves out.

The main statement is about the three rankings of a graph, whatever it has come about by, and every
limit.
-/

namespace DepAtlas

/-- The first of the eligible items: as many as the limit lets through, under different names, in
order, and before everything that is left out. -/
structure IsTop {α : Type} (before : α → α → Prop) (name : α → String) (eligible : List α)
    (limit : Int) (listed : List α) : Prop where
  subset : listed ⊆ eligible
  length_eq : (listed.length : Int) = min limit eligible.length
  nodup : (listed.map name).Nodup
  sorted : listed.Pairwise before
  leads : ∀ item ∈ listed, ∀ other ∈ eligible, other ∉ listed → before item other

section Top

variable {α : Type} {name : α → String} {eligible sorted : List α} {limit : Int}

/-- The part of a sorted list that a limit lets through. -/
theorem isTop_shown {before : α → α → Prop} (notNegative : 0 ≤ limit)
    (perm : sorted.Perm eligible) (ordered : sorted.Pairwise before)
    (names : (eligible.map name).Nodup) :
    IsTop before name eligible limit (shown limit sorted) := by
  rw [shown_of_nonneg notNegative]
  have front := List.take_sublist limit.toNat sorted
  constructor
  case subset => exact fun item member => perm.subset (front.subset member)
  case length_eq =>
    rw [List.length_take, perm.length_eq]
    omega
  case nodup => exact ((perm.map name).nodup_iff.2 names).sublist (front.map name)
  case sorted => exact ordered.sublist front
  case leads =>
    intro item member other isEligible unlisted
    have split := List.take_append_drop limit.toNat sorted
    have later : other ∈ sorted.drop limit.toNat := by
      have inside := perm.mem_iff.2 isEligible
      rw [← split] at inside
      exact (List.mem_append.1 inside).resolve_left unlisted
    rw [← split] at ordered
    exact (List.pairwise_append.1 ordered).2.2 item member other later

theorem IsTop.imp {before after : α → α → Prop} {listed : List α}
    (top : IsTop before name eligible limit listed)
    (weaker : ∀ item other, before item other → after item other) :
    IsTop after name eligible limit listed :=
  { top with
    sorted := top.sorted.imp fun {item other} => weaker item other
    leads := fun item member other isEligible unlisted =>
      weaker item other (top.leads item member other isEligible unlisted) }

end Top

/-! ## Items with scores -/

/-- An item ranks before another: by the first score where they differ in it, else by the second,
else by the smaller name. -/
def Scored.Outranks (item other : Scored) : Prop :=
  other.first < item.first ∨ item.first = other.first ∧
    (other.second < item.second ∨ item.second = other.second ∧ item.name < other.name)

theorem Scored.outranks_of_ranksBefore {item other : Scored}
    (before : item.ranksBefore other = true) (different : item.name ≠ other.name) :
    item.Outranks other := by
  have strict : item.name ≤ other.name → item.name < other.name := by
    intro least
    apply String.not_le.1
    intro greatest
    exact different (String.le_antisymm least greatest)
  rw [ranksBefore_iff] at before
  exact before.imp_right fun same => ⟨same.1, same.2.imp_right fun tied => ⟨tied.1, strict tied.2⟩⟩

/-- The highest ranked names are those of the first items. -/
theorem isTop_topNames {α : Type} (scored : α → Scored) {eligible : List α} {limit : Int}
    (notNegative : 0 ≤ limit) (names : (eligible.map fun item => (scored item).name).Nodup) :
    ∃ listed, topNames limit (eligible.map scored) = listed.map (fun item => (scored item).name) ∧
      IsTop (fun item other => (scored item).Outranks (scored other))
        (fun item => (scored item).name) eligible limit listed := by
  let sorted := eligible.mergeSort fun item other => (scored item).ranksBefore (scored other)
  have perm : sorted.Perm eligible := List.mergeSort_perm _ _
  have same : (eligible.map scored).mergeSort Scored.ranksBefore = sorted.map scored := by
    symm
    apply List.map_mergeSort
    intro item _ other _
    rfl
  have ranked : sorted.Pairwise fun item other =>
      (scored item).ranksBefore (scored other) = true := by
    have all := Scored.pairwise_mergeSort_ranksBefore (eligible.map scored)
    rw [same] at all
    exact List.pairwise_map.1 all
  have different : sorted.Pairwise fun item other => (scored item).name ≠ (scored other).name :=
    List.pairwise_map.1 ((perm.map _).nodup_iff.2 names)
  have ordered := ranked.imp₂ (fun _ _ => Scored.outranks_of_ranksBefore) different
  refine ⟨shown limit sorted, ?_, isTop_shown notNegative perm ordered names⟩
  rw [topNames, same, ← map_shown, List.map_map]
  rfl

/-- A higher limit lists more behind the same front. -/
theorem isPrefix_topNames {limit more : Int} (notNegative : 0 ≤ limit) (higher : limit ≤ more)
    (items : List Scored) : topNames limit items <+: topNames more items := by
  rw [topNames, topNames, shown_of_nonneg notNegative, shown_of_nonneg (by omega)]
  apply List.IsPrefix.map
  exact List.take_prefix_take_left (by omega)

/-! ## The three rankings -/

/-- A component has more neighbours than another, or as many and the smaller id. -/
def Component.MoreConnected (component other : Component) : Prop :=
  other.connections < component.connections ∨
    component.connections = other.connections ∧ component.id < other.id

/-- More components depend on a component than on another; or as many, and it is more complex, or as
complex with the smaller id. -/
def Component.MoreNeeded (component other : Component) : Prop :=
  other.dependents.length < component.dependents.length ∨
    component.dependents.length = other.dependents.length ∧
      (other.complexity < component.complexity ∨
        component.complexity = other.complexity ∧ component.id < other.id)

/-- A file has the higher complexity, or the same and the smaller path. -/
def Store.MoreComplex (store : Store) (file other : String) : Prop :=
  store.fileComplexity other < store.fileComplexity file ∨
    store.fileComplexity file = store.fileComplexity other ∧ file < other

namespace Store

variable {store : Store} {limit : Int}

theorem WellFormed.nodup_ids_filter (wf : store.WellFormed) (keep : Component → Bool) :
    ((store.components.filter keep).map (·.id)).Nodup :=
  wf.keys_nodup.sublist (List.filter_sublist.map _)

theorem WellFormed.isTop_mostConnected (wf : store.WellFormed) (notNegative : 0 ≤ limit) :
    ∃ listed, store.mostConnected limit = listed.map (·.id) ∧
      IsTop Component.MoreConnected (·.id)
        (store.components.filter fun component => 0 < component.connections) limit listed := by
  obtain ⟨listed, same, top⟩ := isTop_topNames
    (fun component : Component => ⟨component.connections, 0, component.id⟩) notNegative
    (wf.nodup_ids_filter _)
  refine ⟨listed, same, top.imp fun component other outranks => ?_⟩
  simpa [Scored.Outranks, Component.MoreConnected, Int.natCast_inj] using outranks

theorem WellFormed.isTop_hotspots (wf : store.WellFormed) (notNegative : 0 ≤ limit) :
    ∃ listed, store.hotspots limit = listed.map (·.id) ∧
      IsTop Component.MoreNeeded (·.id)
        (store.components.filter fun component => !component.dependents.isEmpty) limit listed := by
  obtain ⟨listed, same, top⟩ := isTop_topNames
    (fun component : Component =>
      ⟨component.dependents.length, component.complexity, component.id⟩) notNegative
    (wf.nodup_ids_filter _)
  refine ⟨listed, same, top.imp fun component other outranks => ?_⟩
  simpa [Scored.Outranks, Component.MoreNeeded, Int.natCast_inj] using outranks

theorem isTop_complexFiles (store : Store) (notNegative : 0 ≤ limit) :
    IsTop store.MoreComplex id (store.files.filter fun file => 0 < store.fileComplexity file) limit
      (store.complexFiles limit) := by
  have names : ((store.files.filter fun file => 0 < store.fileComplexity file).map id).Nodup := by
    rw [List.map_id]
    exact (nodup_distinct _).filter _
  obtain ⟨listed, same, top⟩ := isTop_topNames
    (fun file : String => ⟨store.fileComplexity file, 0, file⟩) notNegative names
  have listedFiles : store.complexFiles limit = listed := same.trans (List.map_id listed)
  rw [listedFiles]
  refine top.imp fun file other outranks => ?_
  simpa [Scored.Outranks, Store.MoreComplex] using outranks

end Store

/-- Whatever graph comes about by operations, its rankings list the first of the eligible items, and
a higher limit lists more behind the same front.  Components with connections are ranked by their
number, components with dependents by their number and then by complexity, and files with a positive
complexity by that; ties are broken by the smaller id or path. -/
theorem rankings_after (operations : List Graph.Operation) {limit : Int} (positive : 1 ≤ limit) :
    (∃ listed, (Graph.after operations).store.mostConnected limit = listed.map (·.id) ∧
      IsTop Component.MoreConnected (·.id) ((Graph.after operations).store.components.filter
        fun component => 0 < component.connections) limit listed) ∧
      (∃ listed, (Graph.after operations).store.hotspots limit = listed.map (·.id) ∧
        IsTop Component.MoreNeeded (·.id) ((Graph.after operations).store.components.filter
          fun component => !component.dependents.isEmpty) limit listed) ∧
      IsTop (Graph.after operations).store.MoreComplex id
        ((Graph.after operations).store.files.filter fun file =>
          0 < (Graph.after operations).store.fileComplexity file) limit
        ((Graph.after operations).store.complexFiles limit) ∧
      ∀ more, limit ≤ more →
        (Graph.after operations).store.mostConnected limit <+:
            (Graph.after operations).store.mostConnected more ∧
          (Graph.after operations).store.hotspots limit <+:
            (Graph.after operations).store.hotspots more ∧
          (Graph.after operations).store.complexFiles limit <+:
            (Graph.after operations).store.complexFiles more := by
  have wf := (Graph.wellFormed_after operations).store
  have notNegative : 0 ≤ limit := by omega
  refine ⟨wf.isTop_mostConnected notNegative, wf.isTop_hotspots notNegative,
    Store.isTop_complexFiles _ notNegative, ?_⟩
  intro more higher
  exact ⟨isPrefix_topNames notNegative higher _, isPrefix_topNames notNegative higher _,
    isPrefix_topNames notNegative higher _⟩

/-- A component that depends on itself and one with two dependents have as many connections, and so
have two others, of which the limit lets one through; two files are equally complex. -/
theorem rankings_after_tied :
    ∃ operations connected needed, operations = [
        Graph.Operation.insertMany [
          { id := "d", name := "d", file := "h", startLine := 1, endLine := 1 },
          { id := "c", name := "c", file := "g", startLine := 1, endLine := 1,
            complexity := some 3 },
          { id := "b", name := "b", file := "f", startLine := 1, endLine := 1,
            complexity := some 2 },
          { id := "a", name := "a", file := "f", startLine := 2, endLine := 2,
            complexity := some 1 },
          { id := "e", name := "e", file := "h", startLine := 2, endLine := 2,
            complexity := none }],
        .build [⟨"d", "c", .call⟩, ⟨"a", "a", .call⟩, ⟨"b", "c", .call⟩]] ∧
      (1 : Int) ≤ 3 ∧
      connected.map Component.id = ["a", "c", "b"] ∧
      IsTop Component.MoreConnected (·.id) ((Graph.after operations).store.components.filter
        fun component => 0 < component.connections) 3 connected ∧
      needed.map Component.id = ["c", "a"] ∧
      IsTop Component.MoreNeeded (·.id) ((Graph.after operations).store.components.filter
        fun component => !component.dependents.isEmpty) 3 needed ∧
      IsTop (Graph.after operations).store.MoreComplex id
        ((Graph.after operations).store.files.filter fun file =>
          0 < (Graph.after operations).store.fileComplexity file) 3 ["f", "g"] ∧
      ["a", "c", "b"] <+: (Graph.after operations).store.mostConnected 4 := by
  let operations := [
    Graph.Operation.insertMany [
      { id := "d", name := "d", file := "h", startLine := 1, endLine := 1 },
      { id := "c", name := "c", file := "g", startLine := 1, endLine := 1, complexity := some 3 },
      { id := "b", name := "b", file := "f", startLine := 1, endLine := 1, complexity := some 2 },
      { id := "a", name := "a", file := "f", startLine := 2, endLine := 2, complexity := some 1 },
      { id := "e", name := "e", file := "h", startLine := 2, endLine := 2, complexity := none }],
    .build [⟨"d", "c", .call⟩, ⟨"a", "a", .call⟩, ⟨"b", "c", .call⟩]]
  have positive : (1 : Int) ≤ 3 := by decide
  obtain ⟨⟨connected, mostConnected, first⟩, ⟨needed, hotspots, second⟩, third, higher⟩ :=
    rankings_after operations positive
  have connections : (Graph.after operations).store.mostConnected 3 = ["a", "c", "b"] := by cbv
  have dependents : (Graph.after operations).store.hotspots 3 = ["c", "a"] := by cbv
  have files : (Graph.after operations).store.complexFiles 3 = ["f", "g"] := by cbv
  have more := (higher 4 (by decide)).1
  rw [files] at third
  rw [connections] at mostConnected more
  rw [dependents] at hotspots
  exact ⟨operations, connected, needed, rfl, positive, mostConnected.symm, first, hotspots.symm,
    second, third, more⟩

end DepAtlas
