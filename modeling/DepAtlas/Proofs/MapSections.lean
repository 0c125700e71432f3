import DepAtlas.Proofs.DrawnMaps

/-!
# The sections of a map

A map that is drawn is made up of its sections, one behind the other, and each of them is drawn by
itself.  So whatever is proved of a section by itself holds where it stands on the map.
-/

namespace DepAtlas

theorem exists_of_bind {α β : Type} {computation : Except Fault α} {next : α → Except Fault β}
    {result : β} (ended : computation >>= next = .ok result) :
    ∃ value, computation = .ok value ∧ next value = .ok result := by
  cases computation with
  | error fault => cases ended
  | ok value => exact ⟨value, rfl, ended⟩

/-- Values that are drawn from items one by one are related to them one by one. -/
theorem forall₂_of_mapM {α β : Type} {draw : α → Except Fault β} {related : α → β → Prop}
    {items : List α} {values : List β}
    (sound : ∀ item ∈ items, ∀ value, draw item = .ok value → related item value)
    (drawn : items.mapM draw = .ok values) : List.Forall₂ related items values := by
  induction items generalizing values with
  | nil =>
      cases drawn
      exact .nil
  | cons item items ih =>
      rw [List.mapM_cons] at drawn
      obtain ⟨value, first, drawn⟩ := exists_of_bind drawn
      obtain ⟨rest, others, drawn⟩ := exists_of_bind drawn
      cases drawn
      have ⟨soundFirst, soundOthers⟩ := List.forall_mem_cons.1 sound
      exact .cons (soundFirst value first) (ih soundOthers others)

theorem forall_of_mapM {α β : Type} {draw : α → Except Fault β} {property : β → Prop}
    {items : List α} {values : List β}
    (sound : ∀ item ∈ items, ∀ value, draw item = .ok value → property value)
    (drawn : items.mapM draw = .ok values) : ∀ value ∈ values, property value := by
  have each : List.Forall₂ (fun _ value => property value) items values :=
    forall₂_of_mapM sound drawn
  intro value member
  obtain ⟨position, inside, rfl⟩ := List.mem_iff_getElem.1 member
  obtain ⟨same, related⟩ := List.forall₂_iff_get.1 each
  exact related position (same ▸ inside) inside

theorem Store.get?_of_get {store : Store} {id : ComponentId} {component : Component}
    (got : store.get id = .ok component) : store.get? id = some component := by
  rw [get] at got
  split at got
  next other found => rw [found, Except.ok.inj got]
  next => cases got

/-- A component that is shown in some way is stored. -/
theorem Store.exists_of_view {store : Store} {id : ComponentId} {view : Component → String}
    {value : String} (shown : (store.get id).map view = .ok value) :
    ∃ component, store.get? id = some component ∧ value = view component := by
  cases got : store.get id with
  | error fault =>
      rw [got] at shown
      cases shown
  | ok component =>
      rw [got] at shown
      cases shown
      exact ⟨component, get?_of_get got, rfl⟩

namespace Analysis

/-- The lines of a map by section. -/
structure Sections where
  focus : List String
  entryPoints : List String
  keyComponents : List String
  cycles : List String
  order : List String
  edges : List String

/-- Sections that are those of a map. -/
structure Draws (analysis : Analysis) (options : MapOptions) (settings : Settings)
    (sections : Sections) : Prop where
  focus : analysis.focusSection options = .ok sections.focus
  entryPoints : analysis.entryPointLines = .ok sections.entryPoints
  keyComponents : analysis.keyComponentLines settings = .ok sections.keyComponents
  cycles : analysis.cycleLines = .ok sections.cycles
  order : analysis.orderSection options settings = .ok sections.order
  edges : analysis.edgeSection options settings = .ok sections.edges

variable {analysis : Analysis} {options : MapOptions} {settings : Settings}

/-- A map is drawn from its sections. -/
theorem exists_draws {lines : List String} (drawn : analysis.mapLines options settings = .ok lines) :
    ∃ sections, analysis.Draws options settings sections ∧
      lines = analysis.laidOut options sections.focus sections.entryPoints sections.keyComponents
        sections.cycles sections.order sections.edges := by
  rw [mapLines_eq] at drawn
  obtain ⟨focus, focusDrawn, drawn⟩ := exists_of_bind drawn
  obtain ⟨entryPoints, entryPointsDrawn, drawn⟩ := exists_of_bind drawn
  obtain ⟨keyComponents, keyComponentsDrawn, drawn⟩ := exists_of_bind drawn
  obtain ⟨cycles, cyclesDrawn, drawn⟩ := exists_of_bind drawn
  obtain ⟨order, orderDrawn, drawn⟩ := exists_of_bind drawn
  obtain ⟨edges, edgesDrawn, drawn⟩ := exists_of_bind drawn
  cases drawn
  exact ⟨⟨focus, entryPoints, keyComponents, cycles, order, edges⟩,
    ⟨focusDrawn, entryPointsDrawn, keyComponentsDrawn, cyclesDrawn, orderDrawn, edgesDrawn⟩, rfl⟩

/-- The text of a map is made up of its lines. -/
theorem map_eq_ok_iff {text : String} : analysis.map options settings = .ok text ↔
    ∃ lines, analysis.mapLines options settings = .ok lines ∧ "\n".intercalate lines = text := by
  rw [map]
  cases analysis.mapLines options settings with
  | error fault => simp [Except.map]
  | ok lines => simp [Except.map]

end Analysis

end DepAtlas
