import DepAtlas.Analysis
import DepAtlas.Proofs.CycleSearch
import DepAtlas.Proofs.DependencyOrder
import DepAtlas.Proofs.Neighbours

/-!
# Surveys

A well-formed graph can be surveyed: neither the search for cycles nor the sort nor the
overview comes upon a component that is not stored.

The survey does not depend on the order in which the components stand in the store.  Ids are
sought in ascending order, components are looked up by id, and whatever is listed is sorted by
something that is unique.  The processing order and the overview do not depend on the order of the
edges either, nor on that of the neighbours of a component; the search for cycles does, as it
follows the neighbours in their order.
-/

namespace DepAtlas

namespace Graph

/-! ## Well-formed graphs can be surveyed -/

/-- The layer of the component with an id. -/
def layerOf (store : Store) (id : ComponentId) : String :=
  ((store.get? id).map Component.layer).getD ""

/-- The layers at the ends of the edges. -/
def crossings (graph : Graph) : List (String × String) :=
  graph.edges.map fun edge => (layerOf graph.store edge.source, layerOf graph.store edge.target)

theorem WellFormed.edgeLayers {graph : Graph} (wf : graph.WellFormed) {edge : Reference}
    (member : edge ∈ graph.edges) :
    graph.edgeLayers edge =
      .ok (layerOf graph.store edge.source, layerOf graph.store edge.target) := by
  have depends := wf.edges edge member
  obtain ⟨source, sourceFound⟩ := Store.exists_get? depends.source_mem
  obtain ⟨target, targetFound⟩ := Store.exists_get? (wf.store.target_mem depends)
  rw [Graph.edgeLayers, Store.get_eq_ok sourceFound, Store.get_eq_ok targetFound, layerOf, layerOf,
    sourceFound, targetFound]
  rfl

theorem WellFormed.layers {graph : Graph} (wf : graph.WellFormed) :
    graph.layers = .ok (graph.store.layerNames.map fun name =>
      ⟨name, graph.store.layerFiles name, Layer.summary (graph.store.layerComponents name).length
        (graph.store.layerFiles name).length (outgoing graph.crossings name)⟩) := by
  have mapped : ∀ edges : List Reference, (∀ edge ∈ edges, edge ∈ graph.edges) →
      edges.mapM graph.edgeLayers = .ok (edges.map fun edge =>
        (layerOf graph.store edge.source, layerOf graph.store edge.target)) := by
    intro edges
    induction edges with
    | nil => exact fun _ => rfl
    | cons edge edges ih =>
        intro members
        have rest := ih fun other inside => members other (List.mem_cons_of_mem edge inside)
        rw [List.mapM_cons, wf.edgeLayers (members edge (by simp)), rest]
        rfl
  rw [Graph.layers, mapped graph.edges fun _ member => member]
  rfl

theorem WellFormed.overview {graph : Graph} (wf : graph.WellFormed) (settings : Settings) :
    ∃ overview, graph.overview settings = .ok overview := by
  rw [Graph.overview, wf.layers]
  exact ⟨_, rfl⟩

end Graph

/-- What makes up the survey of a graph. -/
structure Survey.Of (survey : Survey) (graph : Graph) (settings : Settings) : Prop where
  finished : survey.graph = { graph with cycles := survey.graph.cycles }.sealed
  found : graph.findCycles = .ok survey.graph.cycles
  ordered : graph.dependencyOrder = .ok survey.order
  drawn : graph.overview settings = .ok survey.overview

theorem Graph.outcome_survey_eq_ok_iff {graph : Graph} {settings : Settings} {survey : Survey} :
    (graph.survey settings).outcome = .ok survey ↔ survey.Of graph settings := by
  have stages : (graph.survey settings).outcome = graph.findCycles.bind fun cycles =>
      graph.dependencyOrder.bind fun order => (graph.overview settings).bind fun overview =>
        .ok ⟨{ graph with cycles }.sealed, order, overview⟩ := by
    simp only [Graph.survey, Traced.outcome_bind]
    rfl
  rw [stages]
  constructor
  · intro ended
    cases cycles : graph.findCycles with
    | error fault => simp [cycles, Except.bind] at ended
    | ok found =>
        cases order : graph.dependencyOrder with
        | error fault => simp [cycles, order, Except.bind] at ended
        | ok result =>
            cases drawn : graph.overview settings with
            | error fault => simp [cycles, order, drawn, Except.bind] at ended
            | ok overview =>
                rw [cycles, order, drawn] at ended
                cases ended
                exact ⟨rfl, cycles, order, drawn⟩
  · rintro ⟨same, cycles, order, drawn⟩
    rw [cycles, order, drawn]
    cases survey
    simp only at same
    rw [same]
    rfl

/-- A well-formed graph can be surveyed. -/
theorem Graph.WellFormed.survey {graph : Graph} (wf : graph.WellFormed) (settings : Settings) :
    ∃ survey, (graph.survey settings).outcome = .ok survey := by
  obtain ⟨cycles, found, _⟩ := wf.findCycles
  obtain ⟨order, _, _, ordered, _⟩ := wf.dependencyOrder
  obtain ⟨overview, drawn⟩ := wf.overview settings
  have whole : Survey.Of ⟨{ graph with cycles }.sealed, order, overview⟩ graph settings :=
    ⟨rfl, found, ordered, drawn⟩
  exact ⟨_, outcome_survey_eq_ok_iff.2 whole⟩

/-! ## Notices -/

namespace Graph

variable {graph : Graph} {notice : Notice}

theorem topic_findCycles (member : notice ∈ graph.findCyclesTraced.notices) :
    notice.topic = .cycles := by
  simp only [findCyclesTraced, cycleNotices] at member
  split at member
  next cycles found =>
    split at member
    next => simp at member
    next =>
      rcases List.mem_cons.1 member with rfl | listed
      · rfl
      · obtain ⟨entry, _, rfl⟩ := List.mem_map.1 listed
        rfl
  next => simp at member

theorem mem_notices_dependencyOrder {schedule : Schedule}
    (scheduled : graph.schedule = .ok schedule) :
    notice ∈ graph.dependencyOrderTraced.notices ↔
      schedule.blocked ≠ [] ∧ notice = .blocked schedule.blocked.length := by
  simp only [dependencyOrderTraced, scheduled]
  split
  next none => simp [List.isEmpty_iff.1 none]
  next some =>
    have present : schedule.blocked ≠ [] := fun none => some (List.isEmpty_iff.2 none)
    simp [present]

theorem topic_dependencyOrder (member : notice ∈ graph.dependencyOrderTraced.notices) :
    notice.topic = .order := by
  cases scheduled : graph.schedule with
  | error fault => simp [dependencyOrderTraced, scheduled] at member
  | ok schedule =>
      obtain ⟨_, rfl⟩ := (mem_notices_dependencyOrder scheduled).1 member
      rfl

theorem topic_overview {settings : Settings}
    (member : notice ∈ (graph.overviewTraced settings).notices) : notice.topic = .overview := by
  rw [List.mem_singleton.1 member]
  rfl

end Graph

/-! ## What does not depend on an order -/

/-- Something that adds up does not depend on the order. -/
theorem total_eq_of_perm {values others : List Int} (perm : values.Perm others) :
    total values = total others :=
  perm.foldr_eq' (fun first _ second _ rest => Int.add_left_comm second first rest) 0

/-- A ranking does not depend on the order of the items: no two different ones tie. -/
theorem topNames_eq_of_perm {limit : Int} {items others : List Scored}
    (perm : items.Perm others) : topNames limit items = topNames limit others := by
  have permuted : (items.mergeSort Scored.ranksBefore).Perm
      (others.mergeSort Scored.ranksBefore) :=
    (List.mergeSort_perm _ _).trans (perm.trans (List.mergeSort_perm _ _).symm)
  have same := List.Perm.eq_of_pairwise (fun _ _ _ _ => Scored.ranksBefore_antisymm)
    (Scored.pairwise_mergeSort_ranksBefore items) (Scored.pairwise_mergeSort_ranksBefore others)
    permuted
  rw [topNames, topNames, same]

namespace Store

section Rearranged

variable {store other : Store} (perm : store.components.Perm other.components)

include perm

theorem keys_perm : store.keys.Perm other.keys :=
  perm.map _

theorem ids_eq_of_perm : store.ids = other.ids :=
  ascending_eq_of_perm (keys_perm perm)

theorem get?_eq_of_perm (unique : store.keys.Nodup) : store.get? = other.get? := by
  have uniqueOther : other.keys.Nodup := (keys_perm perm).nodup_iff.1 unique
  funext id
  apply Option.ext
  intro component
  rw [get?_eq_some_iff unique, get?_eq_some_iff uniqueOther, perm.mem_iff]

theorem get_eq_of_perm (unique : store.keys.Nodup) : store.get = other.get := by
  funext id
  rw [get, get, get?_eq_of_perm perm unique]

end Rearranged

end Store

namespace Component.Alike

variable {component other : Component} (alike : component.Alike other)

include alike

theorem layer : component.layer = other.layer := by
  rw [Component.layer, Component.layer, alike.file]

theorem connections : component.connections = other.connections := by
  rw [Component.connections, Component.connections, alike.dependencies.length_eq,
    alike.dependents.length_eq]

end Component.Alike

namespace Store

section Alike

variable {store other : Store} (alike : Component.AllAlike store.components other.components)

include alike

theorem keys_perm_of_alike : store.keys.Perm other.keys :=
  alike.map fun _ _ pair => pair.id

theorem exists_get?_of_alike (unique : other.keys.Nodup) {id : ComponentId} {component : Component}
    (found : store.get? id = some component) :
    ∃ twin, other.get? id = some twin ∧ component.Alike twin := by
  obtain ⟨stored, rfl⟩ := mem_of_get? found
  obtain ⟨twin, twinStored, pair⟩ := alike.exists_alike stored
  refine ⟨twin, ?_, pair⟩
  rw [pair.id]
  exact get?_of_mem unique twinStored

theorem get?_eq_none_of_alike {id : ComponentId} (absent : store.get? id = none) :
    other.get? id = none := by
  rw [get?_eq_none_iff] at absent ⊢
  rwa [← (keys_perm_of_alike alike).mem_iff]

theorem sameDependencies_of_alike (unique : other.keys.Nodup) :
    store.SameDependencies other := by
  refine ⟨keys_perm_of_alike alike, ?_⟩
  intro source target
  cases found : store.get? source with
  | none => simp [DependsOn, found, get?_eq_none_of_alike alike found]
  | some component =>
      obtain ⟨twin, twinFound, pair⟩ := exists_get?_of_alike alike unique found
      rw [dependsOn_iff found, dependsOn_iff twinFound, pair.dependencies.mem_iff]

theorem files_perm : store.files.Perm other.files :=
  distinct_perm (alike.map fun _ _ pair => pair.file)

theorem fileComplexity_eq_of_alike : store.fileComplexity = other.fileComplexity := by
  funext file
  refine total_eq_of_perm ((alike.filter ?kept).map fun _ _ pair => pair.complexity)
  intro component twin pair
  rw [pair.file]

theorem entryPoints_eq_of_alike : store.entryPoints = other.entryPoints :=
  ascending_eq_of_perm ((alike.filter fun _ _ pair => pair.dependencies.isEmpty_eq).map
    fun _ _ pair => pair.id)

theorem mostConnected_eq_of_alike : store.mostConnected = other.mostConnected := by
  funext limit
  refine topNames_eq_of_perm ((alike.filter ?kept).map ?seen)
  case kept =>
    intro component twin pair
    rw [pair.connections]
  case seen =>
    intro component twin pair
    rw [pair.connections, pair.id]

theorem hotspots_eq_of_alike : store.hotspots = other.hotspots := by
  funext limit
  refine topNames_eq_of_perm ((alike.filter ?kept).map ?seen)
  case kept =>
    intro component twin pair
    rw [pair.dependents.isEmpty_eq]
  case seen =>
    intro component twin pair
    rw [pair.dependents.length_eq, pair.complexity, pair.id]

theorem complexFiles_eq_of_alike : store.complexFiles = other.complexFiles := by
  funext limit
  rw [complexFiles, complexFiles, fileComplexity_eq_of_alike alike]
  exact topNames_eq_of_perm (((files_perm alike).filter _).map _)

theorem layerComponents_alike (layer : String) :
    Component.AllAlike (store.layerComponents layer) (other.layerComponents layer) :=
  alike.filter fun _ _ pair => by rw [pair.layer]

theorem layerFiles_eq_of_alike : store.layerFiles = other.layerFiles := by
  funext layer
  exact ascending_eq_of_perm
    (distinct_perm ((layerComponents_alike alike layer).map fun _ _ pair => pair.file))

theorem layerNames_eq_of_alike : store.layerNames = other.layerNames :=
  ascending_eq_of_perm (distinct_perm (alike.map fun _ _ pair => pair.layer))

end Alike

end Store

/-! ## The order of components, edges and neighbours -/

/-- Two graphs that differ in nothing but the order of their components, of their edges and of the
neighbours of every component. -/
structure Graph.Reordered (graph other : Graph) : Prop where
  components : Component.AllAlike graph.store.components other.store.components
  edges : graph.edges.Perm other.edges

namespace Graph.Reordered

variable {graph other : Graph}

theorem sameDependencies (same : graph.Reordered other) (wfOther : other.WellFormed) :
    graph.store.SameDependencies other.store :=
  Store.sameDependencies_of_alike same.components wfOther.store.keys_nodup

theorem dependencyOrder (same : graph.Reordered other) (wf : graph.WellFormed)
    (wfOther : other.WellFormed) : graph.dependencyOrder = other.dependencyOrder :=
  dependencyOrder_eq_of_same wf wfOther (same.sameDependencies wfOther)

theorem layerOf (same : graph.Reordered other) (wfOther : other.WellFormed) :
    layerOf graph.store = layerOf other.store := by
  funext id
  rw [Graph.layerOf, Graph.layerOf]
  cases found : graph.store.get? id with
  | none => rw [Store.get?_eq_none_of_alike same.components found]
  | some component =>
      obtain ⟨twin, twinFound, pair⟩ :=
        Store.exists_get?_of_alike same.components wfOther.store.keys_nodup found
      rw [twinFound, Option.map_some, Option.map_some, pair.layer]

theorem crossings (same : graph.Reordered other) (wfOther : other.WellFormed) :
    graph.crossings.Perm other.crossings := by
  rw [Graph.crossings, Graph.crossings, same.layerOf wfOther]
  exact same.edges.map _

theorem layers (same : graph.Reordered other) (wf : graph.WellFormed)
    (wfOther : other.WellFormed) : graph.layers = other.layers := by
  have lengths : ∀ name, (graph.store.layerComponents name).length =
      (other.store.layerComponents name).length := fun name =>
    (Store.layerComponents_alike same.components name).length_eq
  have counts : outgoing graph.crossings = outgoing other.crossings := by
    funext name
    exact (same.crossings wfOther).countP_eq _
  rw [wf.layers, wfOther.layers]
  simp only [lengths, counts, Store.layerNames_eq_of_alike same.components,
    Store.layerFiles_eq_of_alike same.components]

theorem overview (same : graph.Reordered other) (wf : graph.WellFormed)
    (wfOther : other.WellFormed) (settings : Settings) :
    graph.overview settings = other.overview settings := by
  have files := (Store.files_perm same.components).length_eq
  have size : graph.store.size = other.store.size := same.components.length_eq
  simp only [Graph.overview, same.layers wf wfOther, files, size, same.edges.length_eq,
    Store.entryPoints_eq_of_alike same.components,
    Store.mostConnected_eq_of_alike same.components, Store.hotspots_eq_of_alike same.components,
    Store.complexFiles_eq_of_alike same.components]

end Graph.Reordered

/-! ## The order of the components -/

namespace Graph

/-- The search looks components up and goes through the ids in ascending order; it does not look at
the edges. -/
theorem findCycles_eq_of_perm {graph other : Graph}
    (components : graph.store.components.Perm other.store.components)
    (unique : graph.store.keys.Nodup) : graph.findCycles = other.findCycles := by
  have get := Store.get_eq_of_perm components unique
  -- The store is looked at by these functions only; the search itself is the same.
  have itself : graph.dependsOnItself = other.dependsOnItself := by
    funext id
    rw [dependsOnItself, dependsOnItself, Store.get?_eq_of_perm components unique]
  have cycle : Search.isCycle graph = Search.isCycle other := by
    funext root members
    rw [Search.isCycle, Search.isCycle, itself]
  have close : Search.closePart graph = Search.closePart other := by
    funext search visit
    rw [Search.closePart, Search.closePart, cycle]
  have step : Search.step graph = Search.step other := by
    funext search
    rw [Search.step, Search.step, get, close]
  have run : ∀ search, Search.run graph search = Search.run other search := by
    intro search
    fun_induction Search.run graph search with
    | case1 search ended => rw [Search.run, dif_pos ended]
    | case2 search opened fault failed =>
        rw [step] at failed
        rw [Search.run, dif_neg opened]
        split
        next again => rw [failed] at again; exact again
        next again => rw [failed] at again; cases again
    | case3 search opened next stepped ih =>
        rw [step] at stepped
        rw [ih, Search.run.eq_def other search, dif_neg opened]
        split
        next again => rw [stepped] at again; cases again
        next again => rw [stepped] at again; cases again; rfl
  have explore : Search.explore graph = Search.explore other := by
    funext search root
    simp only [Search.explore, get, run]
  rw [Graph.findCycles, Graph.findCycles, explore, Store.ids_eq_of_perm components]

end Graph

/-- Two graphs that differ in nothing but the order of their components. -/
structure Graph.Rearranged (graph other : Graph) : Prop where
  components : graph.store.components.Perm other.store.components
  edges : graph.edges = other.edges

namespace Graph.Rearranged

variable {graph other : Graph}

theorem reordered (same : graph.Rearranged other) : graph.Reordered other :=
  ⟨.of_perm same.components, same.edges ▸ .refl _⟩

/-- The surveys of rearranged graphs are the same. -/
theorem survey (same : graph.Rearranged other) (wf : graph.WellFormed)
    (wfOther : other.WellFormed) {settings : Settings} {survey : Survey}
    (whole : survey.Of graph settings) :
    Survey.Of ⟨{ other with cycles := survey.graph.cycles }.sealed, survey.order, survey.overview⟩
      other settings where
  finished := rfl
  found := findCycles_eq_of_perm same.components wf.store.keys_nodup ▸ whole.found
  ordered := same.reordered.dependencyOrder wf wfOther ▸ whole.ordered
  drawn := same.reordered.overview wf wfOther settings ▸ whole.drawn

end Graph.Rearranged

end DepAtlas
