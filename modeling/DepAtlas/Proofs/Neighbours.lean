import DepAtlas.Proofs.WellFormed
import Mathlib.Data.List.Forall2

/-!
# What edges do to a component

Edges change nothing of a component but its neighbours: its dependencies become the targets of the
edges that leave it, its dependents the sources of those that lead to it, each listed once, where it
came up first.

So the order of the edges matters for the order of the neighbours only.  Components that differ in
nothing but that order are alike.
-/

namespace DepAtlas

/-! ## Lists without repeats -/

/-- The order of the items only matters for the order of what results. -/
theorem foldl_addNew_perm {α : Type} [DecidableEq α] {items others start : List α}
    (nodup : start.Nodup) (perm : items.Perm others) :
    (items.foldl addNew start).Perm (others.foldl addNew start) := by
  apply (List.perm_ext_iff_of_nodup (nodup_foldl_addNew nodup) (nodup_foldl_addNew nodup)).2
  intro item
  rw [mem_foldl_addNew, mem_foldl_addNew, perm.mem_iff]

theorem distinct_perm {α : Type} [DecidableEq α] {items others : List α}
    (perm : items.Perm others) : (distinct items).Perm (distinct others) :=
  foldl_addNew_perm List.nodup_nil perm

namespace Component

/-! ## Edges -/

/-- A component without its neighbours. -/
def bare (component : Component) : Component :=
  { component with dependencies := [], dependents := [] }

theorem bare_link (component : Component) (edge : Reference) :
    (component.link edge).bare = component.bare := by
  unfold link
  split <;> split <;> rfl

theorem bare_linked (component : Component) (edges : List Reference) :
    (edges.foldl link component).bare = component.bare := by
  induction edges generalizing component with
  | nil => rfl
  | cons edge edges ih => rw [List.foldl_cons, ih, bare_link]

@[simp] theorem id_linked (component : Component) (edges : List Reference) :
    (edges.foldl link component).id = component.id :=
  (congrArg Component.id (component.bare_linked edges) :)

@[simp] theorem file_linked (component : Component) (edges : List Reference) :
    (edges.foldl link component).file = component.file :=
  (congrArg Component.file (component.bare_linked edges) :)

theorem canonical_linked {component : Component} (canonical : component.Canonical)
    (edges : List Reference) : (edges.foldl link component).Canonical := by
  induction edges generalizing component with
  | nil => exact canonical
  | cons edge edges ih => exact ih (canonical_link edge canonical)

theorem dependencies_link (component : Component) (edge : Reference) :
    (component.link edge).dependencies =
      if component.id = edge.source then addNew component.dependencies edge.target
      else component.dependencies := by
  unfold link
  split <;> split <;> simp_all [addDependency, addDependent]

theorem dependents_link (component : Component) (edge : Reference) :
    (component.link edge).dependents =
      if component.id = edge.target then addNew component.dependents edge.source
      else component.dependents := by
  unfold link
  split <;> split <;> simp_all [addDependency, addDependent]

/-- The targets of the edges that leave a component become its dependencies. -/
theorem dependencies_linked (component : Component) (edges : List Reference) :
    (edges.foldl link component).dependencies =
      ((edges.filter fun edge => component.id = edge.source).map (·.target)).foldl addNew
        component.dependencies := by
  induction edges generalizing component with
  | nil => rfl
  | cons edge edges ih =>
      rw [List.foldl_cons, ih, id_link, dependencies_link]
      split
      next leaves => simp [leaves]
      next stays => simp [stays]

/-- The sources of the edges that lead to a component become its dependents. -/
theorem dependents_linked (component : Component) (edges : List Reference) :
    (edges.foldl link component).dependents =
      ((edges.filter fun edge => component.id = edge.target).map (·.source)).foldl addNew
        component.dependents := by
  induction edges generalizing component with
  | nil => rfl
  | cons edge edges ih =>
      rw [List.foldl_cons, ih, id_link, dependents_link]
      split
      next leads => simp [leads]
      next stays => simp [stays]

/-! ## Components that are alike -/

/-- Two components that differ in nothing but the order of their neighbours. -/
structure Alike (component other : Component) : Prop where
  bare : component.bare = other.bare
  dependencies : component.dependencies.Perm other.dependencies
  dependents : component.dependents.Perm other.dependents

namespace Alike

variable {component other : Component} (alike : component.Alike other)

theorem refl (component : Component) : component.Alike component :=
  ⟨rfl, .refl _, .refl _⟩

include alike

theorem id : component.id = other.id :=
  (congrArg Component.id alike.bare :)

theorem file : component.file = other.file :=
  (congrArg Component.file alike.bare :)

theorem complexity : component.complexity = other.complexity :=
  (congrArg Component.complexity alike.bare :)

end Alike

/-- The order in which edges are entered matters for the order of the neighbours only. -/
theorem alike_linked {component : Component} (dependencies : component.dependencies.Nodup)
    (dependents : component.dependents.Nodup) {edges others : List Reference}
    (perm : edges.Perm others) :
    (edges.foldl link component).Alike (others.foldl link component) where
  bare := by rw [bare_linked, bare_linked]
  dependencies := by
    rw [dependencies_linked, dependencies_linked]
    exact foldl_addNew_perm dependencies ((perm.filter _).map _)
  dependents := by
    rw [dependents_linked, dependents_linked]
    exact foldl_addNew_perm dependents ((perm.filter _).map _)

/-- Two lists of components that differ in nothing but their order and that of the neighbours. -/
def AllAlike (components others : List Component) : Prop :=
  ∃ middle, components.Perm middle ∧ List.Forall₂ Alike middle others

namespace AllAlike

variable {components others : List Component}

theorem of_perm (perm : components.Perm others) : AllAlike components others :=
  ⟨others, perm, List.forall₂_same.2 fun component _ => .refl component⟩

variable (alike : AllAlike components others)

include alike

theorem length_eq : components.length = others.length := by
  obtain ⟨middle, perm, same⟩ := alike
  exact perm.length_eq.trans same.length_eq

theorem exists_alike {component : Component} (member : component ∈ components) :
    ∃ other ∈ others, component.Alike other := by
  obtain ⟨middle, perm, same⟩ := alike
  have inside := perm.mem_iff.1 member
  -- The induction is on the list in the middle, of which the permutation must not speak.
  clear perm
  induction same with
  | nil => simp at inside
  | cons first rest ih =>
      rcases List.mem_cons.1 inside with rfl | later
      · exact ⟨_, List.mem_cons_self, first⟩
      · obtain ⟨other, listed, same⟩ := ih later
        exact ⟨other, List.mem_cons_of_mem _ listed, same⟩

theorem map {β : Type} {view : Component → β}
    (seen : ∀ component other : Component, component.Alike other → view component = view other) :
    (components.map view).Perm (others.map view) := by
  obtain ⟨middle, perm, same⟩ := alike
  have equal : middle.map view = others.map view := by
    rw [← List.forall₂_eq_eq_eq, List.forall₂_map_left_iff, List.forall₂_map_right_iff]
    exact same.imp seen
  rw [← equal]
  exact perm.map view

theorem filter {keep : Component → Bool}
    (kept : ∀ component other : Component, component.Alike other → keep component = keep other) :
    AllAlike (components.filter keep) (others.filter keep) := by
  obtain ⟨middle, perm, same⟩ := alike
  refine ⟨middle.filter keep, perm.filter keep, List.rel_filter ?_ same⟩
  intro component other pair
  simp only [kept component other pair]

end AllAlike

end Component

end DepAtlas
