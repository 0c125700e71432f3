import DepAtlas.Map
import DepAtlas.Proofs.MoreReferences
import DepAtlas.Proofs.Rankings

/-!
# Drawing a map

A map looks components up by ids that come from five stages of an analysis: the lists of neighbours,
the edges, the cycles, the processing order and the rankings.  Each stage is closed under the store,
so that no look-up fails, wherever the analysis comes from.

What is left is the line about entries that are not shown.  With a very negative preview length it
would have to write a number of too many digits, and only then does a map come to nothing.
-/

namespace DepAtlas

/-! ## Computations that give a value under a condition -/

/-- A computation gives a value if a condition holds, and otherwise stops at a number that is too
long to be written. -/
structure Writes {α : Type} (condition : Prop) (computation : Except Fault α) : Prop where
  gives : condition → ∃ value, computation = .ok value
  stops : ¬condition → computation = .error .oversizedNumber

namespace Writes

variable {α β : Type} {condition other : Prop}

theorem of_ok {computation : Except Fault α} (given : ∃ value, computation = .ok value) :
    Writes True computation :=
  ⟨fun _ => given, fun never => absurd trivial never⟩

theorem bind {computation : Except Fault α} {next : α → Except Fault β}
    (first : Writes condition computation) (rest : ∀ value, Writes other (next value)) :
    Writes (condition ∧ other) (computation >>= next) := by
  by_cases holds : condition
  · obtain ⟨value, given⟩ := first.gives holds
    rw [given]
    exact ⟨fun both => (rest value).gives both.2,
      fun failed => (rest value).stops fun otherHolds => failed ⟨holds, otherHolds⟩⟩
  · rw [first.stops holds]
    exact ⟨fun both => absurd both.1 holds, fun _ => rfl⟩

theorem congr {computation : Except Fault α} (writes : Writes condition computation)
    (same : condition ↔ other) : Writes other computation :=
  ⟨fun holds => writes.gives (same.2 holds), fun failed => writes.stops (mt same.1 failed)⟩

/-- What happens before without a fault does not matter. -/
theorem after {computation : Except Fault α} {next : α → Except Fault β}
    (given : ∃ value, computation = .ok value) (rest : ∀ value, Writes condition (next value)) :
    Writes condition (computation >>= next) := by
  obtain ⟨value, given⟩ := given
  rw [given]
  exact rest value

/-- What happens behind without a fault does not matter. -/
theorem before {computation : Except Fault α} {next : α → Except Fault β}
    (writes : Writes condition computation) (given : ∀ value, ∃ result, next value = .ok result) :
    Writes condition (computation >>= next) :=
  (writes.bind fun value => of_ok (given value)).congr (iff_of_eq (and_true _))

/-- A section that is left out does not stop a map. -/
theorem chosen {computation : Except Fault α} (writes : Writes condition computation)
    (wanted : Bool) (otherwise : α) :
    Writes (wanted = true → condition) (if wanted then computation else .ok otherwise) := by
  cases wanted with
  | true => exact writes.congr (by simp)
  | false => exact (of_ok ⟨otherwise, rfl⟩).congr (by simp)

end Writes

theorem exists_mapM_eq_ok {α β : Type} {draw : α → Except Fault β} {items : List α}
    (each : ∀ item ∈ items, ∃ value, draw item = .ok value) :
    ∃ values, items.mapM draw = .ok values := by
  induction items with
  | nil => exact ⟨[], rfl⟩
  | cons item items ih =>
      obtain ⟨value, drawn⟩ := each item List.mem_cons_self
      obtain ⟨values, rest⟩ := ih fun other member => each other (List.mem_cons_of_mem item member)
      rw [List.mapM_cons, drawn, rest]
      exact ⟨value :: values, rfl⟩

/-! ## What a map looks up -/

namespace Analysis

/-- Every id that a map looks up is stored. -/
structure IdsStored (analysis : Analysis) : Prop where
  entryPoints : analysis.overview.entryPoints ⊆ analysis.graph.store.keys
  mostConnected : analysis.overview.mostConnected ⊆ analysis.graph.store.keys
  cycles : ∀ members ∈ analysis.graph.cycles, members ⊆ analysis.graph.store.keys
  order : analysis.order.order ⊆ analysis.graph.store.keys
  edges : ∀ edge ∈ analysis.graph.edges,
    edge.source ∈ analysis.graph.store.keys ∧ edge.target ∈ analysis.graph.store.keys
  focus : ∀ text component, analysis.resolve? text = some component →
    component.dependencies ⊆ analysis.graph.store.keys ∧
      component.dependents ⊆ analysis.graph.store.keys

theorem mem_components_of_resolve? {analysis : Analysis} {text : String} {component : Component}
    (resolved : analysis.resolve? text = some component) :
    component ∈ analysis.graph.store.components := by
  rw [resolve?] at resolved
  split at resolved
  next found =>
    cases resolved
    exact (Store.mem_of_get? found).1
  next =>
    obtain ⟨id, _, found⟩ := List.mem_filterMap.1 (List.mem_of_find?_eq_some resolved)
    exact (Store.mem_of_get? found).1

end Analysis

theorem Origin.idsStored {origin : Origin} {analysis : Analysis}
    (returned : origin.trace.outcome = .ok analysis) : analysis.IdsStored := by
  have sound := Origin.sound returned
  have store := sound.wellFormed.store
  have overview := Origin.overview_eq returned
  constructor
  case entryPoints =>
    intro id listed
    rw [overview] at listed
    exact ((Store.mem_entryPoints_iff store.keys_nodup).1 listed).1
  case mostConnected =>
    have notNegative : 0 ≤ analysis.settings.mostConnected := by
      have least := analysis.settings.one_le_mostConnected
      omega
    obtain ⟨ranked, same, top⟩ := store.isTop_mostConnected notNegative
    intro id listed
    rw [overview] at listed
    simp only [same] at listed
    obtain ⟨component, member, rfl⟩ := List.mem_map.1 listed
    exact Store.mem_keys.2 ⟨component, (List.mem_filter.1 (top.subset member)).1, rfl⟩
  case cycles =>
    intro members member id inside
    -- A member reaches itself, and so depends on something.
    obtain ⟨next, depends, _⟩ := Relation.TransGen.head'_iff.1
      (sound.cycles.mem_flatten_iff.1 (List.mem_flatten_of_mem member inside))
    exact depends.source_mem
  case order =>
    obtain ⟨result, ready, blocked, sorted, processed⟩ := sound.wellFormed.dependencyOrder
    rw [sound.order] at sorted
    cases sorted
    exact processed.perm.subset
  case edges =>
    intro edge member
    have depends := sound.wellFormed.edges edge member
    exact ⟨depends.source_mem, store.target_mem depends⟩
  case focus =>
    intro text component resolved
    have stored := Analysis.mem_components_of_resolve? resolved
    exact ⟨store.dependencies_stored component stored, store.dependents_stored component stored⟩

/-! ## The sections of a map -/

/-- The number of entries that are left out has few enough digits to be written. -/
def LeftOutFits (count : Nat) (limit : Int) : Prop :=
  (count : Int) - limit < Nat.pow 10 Text.maxDigits

theorem leftOutFits_of_le {count : Nat} {limit : Int} (all : (count : Int) ≤ limit) :
    LeftOutFits count limit := by
  have positive : ∀ digits, 0 < Nat.pow 10 digits := fun digits => Nat.pow_pos (by decide)
  have power := positive Text.maxDigits
  rw [LeftOutFits]
  omega

theorem writes_leftOutLine (count : Nat) (limit : Int) :
    Writes (LeftOutFits count limit) (leftOutLine count limit) := by
  rw [leftOutLine]
  split
  next more =>
    constructor
    · intro fits
      exact ⟨_, if_pos fits⟩
    · intro long
      exact if_neg long
  next all =>
    -- Nothing is left out and no line is drawn, so the fault cannot come from here.
    have fits := leftOutFits_of_le (Int.not_lt.1 all)
    exact ⟨fun _ => ⟨_, rfl⟩, fun long => absurd fits long⟩

namespace Analysis

variable {analysis : Analysis}

theorem exists_viewsOf {ids : List ComponentId} (stored : ids ⊆ analysis.graph.store.keys)
    (view : Component → String) :
    ∃ views, (ids.mapM fun id => (analysis.graph.store.get id).map view) = .ok views := by
  apply exists_mapM_eq_ok
  intro id member
  obtain ⟨component, found⟩ := Store.exists_get? (stored member)
  rw [Store.get_eq_ok found]
  exact ⟨_, rfl⟩

theorem exists_namesOf {ids : List ComponentId} (stored : ids ⊆ analysis.graph.store.keys) :
    ∃ names, analysis.namesOf ids = .ok names :=
  exists_viewsOf stored (·.name)

theorem exists_locatedOf {ids : List ComponentId} (stored : ids ⊆ analysis.graph.store.keys) :
    ∃ located, analysis.locatedOf ids = .ok located :=
  exists_viewsOf stored (·.located)

theorem exists_neighbourLines {ids : List ComponentId} (heading arrow : String)
    (stored : ids ⊆ analysis.graph.store.keys) :
    ∃ lines, analysis.neighbourLines heading arrow ids = .ok lines := by
  obtain ⟨located, drawn⟩ := exists_locatedOf stored
  rw [neighbourLines, drawn]
  exact ⟨_, rfl⟩

namespace IdsStored

variable (ids : analysis.IdsStored)

include ids

theorem exists_focusLines (focus : String) : ∃ lines, analysis.focusLines focus = .ok lines := by
  rw [focusLines]
  split
  next => exact ⟨_, rfl⟩
  next component resolved =>
    obtain ⟨dependenciesStored, dependentsStored⟩ := ids.focus focus component resolved
    obtain ⟨dependencies, drawn⟩ := exists_neighbourLines "Depends on:" "→" dependenciesStored
    obtain ⟨dependents, drawnBack⟩ := exists_neighbourLines "Used by:" "←" dependentsStored
    rw [drawn, drawnBack]
    exact ⟨_, rfl⟩

theorem exists_entryPointLines : ∃ lines, analysis.entryPointLines = .ok lines := by
  obtain ⟨located, drawn⟩ := exists_locatedOf ids.entryPoints
  rw [entryPointLines, drawn]
  exact ⟨_, rfl⟩

theorem exists_keyComponentLines (settings : Settings) :
    ∃ lines, analysis.keyComponentLines settings = .ok lines := by
  obtain ⟨located, drawn⟩ := exists_locatedOf
    (List.Subset.trans (shown_subset settings.keyComponents _) ids.mostConnected)
  rw [keyComponentLines, drawn]
  exact ⟨_, rfl⟩

theorem exists_cycleLines : ∃ lines, analysis.cycleLines = .ok lines := by
  have drawn : ∃ lines, analysis.graph.cycles.mapM analysis.cycleLine = .ok lines := by
    apply exists_mapM_eq_ok
    intro members member
    obtain ⟨names, named⟩ := exists_namesOf (ids.cycles members member)
    rw [cycleLine, named]
    exact ⟨_, rfl⟩
  obtain ⟨lines, drawn⟩ := drawn
  rw [cycleLines, drawn]
  exact ⟨_, rfl⟩

theorem exists_cyclicLine : ∃ lines, analysis.cyclicLine = .ok lines := by
  have stored : ascending analysis.graph.cycles.flatten ⊆ analysis.graph.store.keys := by
    intro id listed
    obtain ⟨members, member, inside⟩ := List.mem_flatten.1 (mem_ascending.1 listed)
    exact ids.cycles members member inside
  obtain ⟨names, named⟩ := exists_namesOf stored
  rw [cyclicLine, named]
  split <;> exact ⟨_, rfl⟩

theorem exists_edgeLine {edge : Reference} (member : edge ∈ analysis.graph.edges) :
    ∃ line, analysis.edgeLine edge = .ok line := by
  obtain ⟨sourceStored, targetStored⟩ := ids.edges edge member
  obtain ⟨source, sourceFound⟩ := Store.exists_get? sourceStored
  obtain ⟨target, targetFound⟩ := Store.exists_get? targetStored
  rw [edgeLine, Store.get_eq_ok sourceFound, Store.get_eq_ok targetFound]
  exact ⟨_, rfl⟩

theorem writes_orderLines (settings : Settings) :
    Writes (LeftOutFits analysis.order.order.length settings.orderPreview)
      (analysis.orderLines settings) := by
  have named := exists_namesOf
    (List.Subset.trans (shown_subset settings.orderPreview analysis.order.order) ids.order)
  have counted := writes_leftOutLine analysis.order.order.length settings.orderPreview
  obtain ⟨cyclic, drawn⟩ := ids.exists_cyclicLine
  refine .after named fun names => counted.before fun leftOut => ?_
  rw [drawn]
  exact ⟨_, rfl⟩

theorem writes_edgeLines (settings : Settings) :
    Writes (analysis.graph.edges ≠ [] →
        LeftOutFits analysis.graph.edges.length settings.edgePreview)
      (analysis.edgeLines settings) := by
  have drawn : ∃ lines, (shown settings.edgePreview analysis.graph.edges).mapM analysis.edgeLine =
      .ok lines := by
    apply exists_mapM_eq_ok
    intro edge member
    exact ids.exists_edgeLine (shown_subset settings.edgePreview _ member)
  have counted := writes_leftOutLine analysis.graph.edges.length settings.edgePreview
  rw [edgeLines]
  by_cases none : analysis.graph.edges = []
  · rw [none]
    exact (Writes.of_ok ⟨_, rfl⟩).congr (by simp)
  · have some : analysis.graph.edges.isEmpty = false := by simpa using none
    simp only [some, Bool.false_eq_true, if_false]
    refine .after drawn fun lines => (counted.before fun leftOut => ⟨_, rfl⟩).congr ?_
    simp [none]

end IdsStored

/-- The section of the component in focus, or nothing. -/
def focusSection (analysis : Analysis) (options : MapOptions) : Except Fault (List String) :=
  match Text.present options.focus with
  | some focus => analysis.focusLines focus
  | none => .ok []

/-- The section of the processing order, or nothing. -/
def orderSection (analysis : Analysis) (options : MapOptions) (settings : Settings) :
    Except Fault (List String) :=
  if options.showOrder then analysis.orderLines settings else .ok []

/-- The section of the edges, or nothing. -/
def edgeSection (analysis : Analysis) (options : MapOptions) (settings : Settings) :
    Except Fault (List String) :=
  if options.showDependencies then analysis.edgeLines settings else .ok []

/-- The lines of a map around those of its sections. -/
def laidOut (analysis : Analysis) (options : MapOptions)
    (focus entryPoints keyComponents cycles order edges : List String) : List String :=
  let path := match Text.present options.repository with
    | some repository => [s!"Path: {repository}"]
    | none => []
  ["Repository Map", "==============", ""] ++ path ++ analysis.totalLines ++ focus ++
    analysis.structureLines ++ entryPoints ++ keyComponents ++ cycles ++ order ++ edges

/-- The sections of a map are drawn one after the other. -/
theorem mapLines_eq (analysis : Analysis) (options : MapOptions) (settings : Settings) :
    analysis.mapLines options settings = do
      let focus ← analysis.focusSection options
      let entryPoints ← analysis.entryPointLines
      let keyComponents ← analysis.keyComponentLines settings
      let cycles ← analysis.cycleLines
      let order ← analysis.orderSection options settings
      let edges ← analysis.edgeSection options settings
      return analysis.laidOut options focus entryPoints keyComponents cycles order edges := by
  rw [mapLines, focusSection, orderSection, edgeSection]
  cases Text.present options.focus <;> cases options.showOrder <;>
    cases options.showDependencies <;> rfl

/-- Neither of the listings that a map shows leaves out too many entries. -/
structure PreviewsFit (analysis : Analysis) (options : MapOptions) (settings : Settings) : Prop where
  order : options.showOrder = true →
    LeftOutFits analysis.order.order.length settings.orderPreview
  edges : options.showDependencies = true → analysis.graph.edges ≠ [] →
    LeftOutFits analysis.graph.edges.length settings.edgePreview

namespace IdsStored

variable (ids : analysis.IdsStored) (options : MapOptions) (settings : Settings)

include ids

theorem exists_focusSection : ∃ lines, analysis.focusSection options = .ok lines := by
  rw [focusSection]
  split
  next focus _ => exact ids.exists_focusLines focus
  next => exact ⟨_, rfl⟩

theorem writes_mapLines :
    Writes (analysis.PreviewsFit options settings) (analysis.mapLines options settings) := by
  have order := (ids.writes_orderLines settings).chosen options.showOrder []
  have edges := (ids.writes_edgeLines settings).chosen options.showDependencies []
  rw [mapLines_eq]
  refine .after (ids.exists_focusSection options) fun focus =>
    .after ids.exists_entryPointLines fun entryPoints =>
      .after (ids.exists_keyComponentLines settings) fun keyComponents =>
        .after ids.exists_cycleLines fun cycles => ?_
  refine (order.bind fun order => edges.before fun edges => ⟨_, rfl⟩).congr ?_
  exact ⟨fun fit => ⟨fit.1, fit.2⟩, fun fit => ⟨fit.order, fit.edges⟩⟩

theorem writes_map :
    Writes (analysis.PreviewsFit options settings) (analysis.map options settings) := by
  have lines := ids.writes_mapLines options settings
  constructor
  · intro fit
    obtain ⟨lines, drawn⟩ := lines.gives fit
    rw [map, drawn]
    exact ⟨_, rfl⟩
  · intro long
    rw [map, lines.stops long]
    rfl

end IdsStored

end Analysis

/-- Every id that a map of an analysis looks up is stored, wherever the analysis comes from.  So a
map is drawn, whatever it is to show and whatever the settings are, but for one case: the line about
entries that are left out would have to write a number of too many digits. -/
theorem map_of_returned {origin : Origin} {analysis : Analysis}
    (returned : origin.trace.outcome = .ok analysis) (options : MapOptions) (settings : Settings) :
    analysis.IdsStored ∧
      Writes (analysis.PreviewsFit options settings) (analysis.map options settings) := by
  have ids := Origin.idsStored returned
  exact ⟨ids, ids.writes_map options settings⟩

/-- A map that shows everything there is to show: a component in focus, a cycle, the processing
order and the edges. -/
theorem map_of_returned_everything :
    ∃ analysis text,
      (analyze {} [{ id := "a", name := "a", file := "f", startLine := 1, endLine := 1 },
        { id := "b", name := "b", file := "f", startLine := 2, endLine := 2 },
        { id := "c", name := "c", file := "g", startLine := 1, endLine := 1 }]
        [⟨"a", "b", .call⟩, ⟨"b", "a", .call⟩, ⟨"c", "a", .call⟩]).outcome = .ok analysis ∧
      analysis.IdsStored ∧ analysis.graph.cycles = [["a", "b"]] ∧
      analysis.map { focus := some "a", showOrder := true, showDependencies := true } {} =
        .ok text := by
  have evaluated : (analyze {}
      [{ id := "a", name := "a", file := "f", startLine := 1, endLine := 1 },
        { id := "b", name := "b", file := "f", startLine := 2, endLine := 2 },
        { id := "c", name := "c", file := "g", startLine := 1, endLine := 1 }]
      [⟨"a", "b", .call⟩, ⟨"b", "a", .call⟩, ⟨"c", "a", .call⟩]).outcome.toOption.map
        (fun analysis => (analysis.graph.cycles, analysis.order.order.length,
          analysis.graph.edges.length)) = some ([["a", "b"]], 3, 3) := by
    cbv
  obtain ⟨analysis, known, values⟩ := Option.map_eq_some_iff.1 evaluated
  simp only [Prod.mk.injEq] at values
  obtain ⟨cycles, orderLength, edgesLength⟩ := values
  have returned := Traced.outcome_of_toOption known
  obtain ⟨ids, writes⟩ := @map_of_returned (.analyzed _ _ _) analysis returned
    { focus := some "a", showOrder := true, showDependencies := true } {}
  have fit : analysis.PreviewsFit
      { focus := some "a", showOrder := true, showDependencies := true } {} := by
    constructor
    · intro _
      exact leftOutFits_of_le (by rw [orderLength]; decide)
    · intro _ _
      exact leftOutFits_of_le (by rw [edgesLength]; decide)
  obtain ⟨text, drawn⟩ := writes.gives fit
  exact ⟨analysis, text, returned, ids, cycles, drawn⟩

/-- A preview length so negative that the number of entries left out cannot be written. -/
theorem map_oversized :
    ∃ analysis,
      (analyze {} [{ id := "a", name := "a", file := "f", startLine := 1, endLine := 1 }]
        []).outcome = .ok analysis ∧
      analysis.map { showOrder := true } { orderPreview := 1 - Nat.pow 10 Text.maxDigits } =
        .error .oversizedNumber := by
  have evaluated : (analyze {}
      [{ id := "a", name := "a", file := "f", startLine := 1, endLine := 1 }]
      []).outcome.toOption.map (·.order.order.length) = some 1 := by
    cbv
  obtain ⟨analysis, known, orderLength⟩ := Option.map_eq_some_iff.1 evaluated
  have returned := Traced.outcome_of_toOption known
  refine ⟨analysis, returned, ?_⟩
  apply ((@Origin.idsStored (.analyzed _ _ _) analysis returned).writes_map _ _).stops
  intro fit
  have few := fit.order rfl
  rw [LeftOutFits, orderLength] at few
  simp only at few
  omega

end DepAtlas
