import DepAtlas.Proofs.Adjacency
import DepAtlas.Proofs.FirstRecords

/-!
# Stored values and computed ones

Rebuilding compares the derived fields of a document with what its graph gives, and names those that
disagree in a warning.  So a document that is rebuilt without a warning is written down again as it
was, but for its components.

Components are entered anew and linked by the edges, whatever neighbours the document lists for
them.  Of each id the first entry with a valid range is kept, with the normal form of its path, with
no negative complexity, and with the neighbours that the edges give.  So components are written down
again as they were where that is how they stood there, each id once.
-/

namespace DepAtlas

/-! ## Components -/

/-- What is kept of the entry of a component under some edges. -/
def Component.kept (entry : Component) (edges : List Reference) : Component :=
  { entry with
    file := normalPath entry.file
    complexity := max 0 entry.complexity
    dependencies := farEnds (·.source) (·.target) edges entry.id
    dependents := farEnds (·.target) (·.source) edges entry.id }

/-- How a store keeps a component under some edges. -/
structure Component.Settled (component : Component) (edges : List Reference) : Prop where
  canonical : component.Canonical
  dependencies : component.dependencies = farEnds (·.source) (·.target) edges component.id
  dependents : component.dependents = farEnds (·.target) (·.source) edges component.id

namespace Component

variable {component : Component} {edges : List Reference}

theorem eq_of_bare {other : Component} (bare : component.bare = other.bare)
    (dependencies : component.dependencies = other.dependencies)
    (dependents : component.dependents = other.dependents) : component = other := by
  cases component
  cases other
  simp_all [Component.bare]

/-- A settled component that is entered without its neighbours gets them back from the edges. -/
theorem Settled.linked_bare (settled : component.Settled edges) :
    edges.foldl link component.bare = component := by
  obtain ⟨dependencies, dependents⟩ := component.neighbours_linked_bare edges
  refine eq_of_bare (component.bare.bare_linked edges) ?_ ?_
  · rw [dependencies, settled.dependencies]
  · rw [dependents, settled.dependents]

theorem Settled.eq_kept {entry : Component} (settled : component.Settled edges)
    (stored : entry.toSymbol.StoredAs component) : component = entry.kept edges := by
  obtain ⟨id, name, kind, file, startLine, endLine, visibility, complexity⟩ := stored
  obtain ⟨_, dependencies, dependents⟩ := settled
  have measured : component.complexity = max 0 entry.complexity := by
    rw [complexity]
    simp only [toSymbol]
    omega
  cases component
  cases entry
  simp_all [kept, toSymbol]

end Component

namespace Analysis.Of

variable {analysis : Analysis} {store : Store}

theorem settled {edges : List Reference} (made : analysis.Of store edges) (wf : store.WellFormed)
    (bare : ∀ component ∈ store.components, component.bare = component) {component : Component}
    (stored : component ∈ analysis.graph.store.components) : component.Settled edges := by
  obtain ⟨dependencies, dependents⟩ := made.neighbours_eq bare stored
  exact ⟨made.canonical wf stored, dependencies, dependents⟩

/-- The components of a document come back, in whatever order, exactly if no two have the same id
and all are settled. -/
theorem components_perm_iff {document : Document} (made : analysis.Of store document.edges)
    (loaded : (Store.load document.records).outcome = .ok store) :
    analysis.graph.store.components.Perm document.components ↔
      (document.components.map (·.id)).Nodup ∧
        ∀ component ∈ document.components, component.Settled document.edges := by
  have wf := (Store.of_load loaded).2
  constructor
  · intro perm
    refine ⟨(perm.map _).nodup_iff.1 (made.keys_nodup wf), ?_⟩
    intro component member
    exact made.settled wf (Store.bare_of_load loaded) (perm.mem_iff.2 member)
  · rintro ⟨unique, settled⟩
    have canonical : ∀ component ∈ document.components, component.Canonical :=
      fun component member => (settled component member).canonical
    have entered := Store.load_toSymbol canonical unique
    rw [Document.records, entered] at loaded
    cases loaded
    rw [made.graph_components, List.map_map]
    refine .of_eq ((List.map_congr_left ?_).trans (List.map_id _))
    intro component member
    exact (settled component member).linked_bare

end Analysis.Of

/-! ## Derived fields -/

namespace Document

variable {document : Document} {analysis : Analysis}

theorem DerivedField.mem_all (field : DerivedField) : field ∈ all := by
  cases field <;> decide

theorem mem_outdatedFields {stored fresh : Document} {field : DerivedField} :
    field ∈ stored.outdatedFields fresh ↔ field.same stored fresh = false := by
  simp [outdatedFields, field.mem_all]

/-- A warning lists the fields that are out of date, and there is one if there are any. -/
theorem outOfDate_mem_notices_rebuild {fresh : Document}
    (rebuilt : document.rebuild.outcome = .ok analysis) (written : analysis.document = .ok fresh)
    {names : List String} :
    Notice.outOfDate names ∈ document.rebuild.notices ↔
      document.outdatedFields fresh ≠ [] ∧
        names = (document.outdatedFields fresh).map DerivedField.name := by
  have replayed := rebuilt
  rw [outcome_rebuild] at replayed
  have quiet := document.upToDate_replay names
  rw [rebuild, Traced.mem_notices_bind]
  simp only [quiet, replayed, false_or, Except.ok.injEq, exists_eq_left', Traced.mem_notices_bind,
    outdatedAgainst, written, Traced.notices_note, Traced.notices_pure, List.not_mem_nil,
    and_false, exists_false, or_false]
  cases document.outdatedFields fresh <;> simp

/-- Documents with the same derived fields, edges, audit lists and limits differ in their components
only. -/
theorem eq_of_outdatedFields_eq_nil {stored fresh : Document}
    (same : stored.outdatedFields fresh = []) (edges : fresh.edges = stored.edges)
    (dangling : fresh.dangling = stored.dangling) (rejected : fresh.rejected = stored.rejected)
    (limits : fresh.limits = stored.limits) :
    fresh = { stored with components := fresh.components } := by
  simp only [outdatedFields, List.filter_eq_nil_iff, DerivedField.all, List.forall_mem_cons,
    DerivedField.same, Bool.not_eq_true', Bool.not_eq_false, beq_iff_eq] at same
  cases stored
  cases fresh
  simp_all

/-- The components that are written down again come each from the first entry of its id with a valid
range. -/
structure Restores (fresh document : Document) : Prop where
  unique : (fresh.components.map (·.id)).Nodup
  mem_ids_iff : ∀ id, id ∈ fresh.components.map (·.id) ↔
    ∃ entry ∈ document.components, entry.startLine ≤ entry.endLine ∧ entry.id = id
  first : ∀ component ∈ fresh.components, ∃ entry,
    document.components.find? (fun entry =>
      entry.startLine ≤ entry.endLine ∧ entry.id = component.id) = some entry ∧
    component = entry.kept document.edges

theorem restores_of_perm {fresh : Document} (kept : analysis.KeepsFirst document.records)
    (listed : fresh.components.Perm analysis.graph.store.components)
    (settled : ∀ component ∈ fresh.components, component.Settled document.edges) :
    fresh.Restores document := by
  have keys : (fresh.components.map (·.id)).Perm analysis.graph.store.keys := listed.map _
  constructor
  case unique => exact keys.nodup_iff.2 kept.unique
  case mem_ids_iff =>
    intro id
    rw [keys.mem_iff, kept.mem_keys_iff]
    simp [records, Component.toSymbol]
  case first =>
    intro component member
    obtain ⟨record, found, stored⟩ := kept.first component (listed.mem_iff.1 member)
    rw [records, List.find?_map, Option.map_eq_some_iff] at found
    obtain ⟨entry, found, rfl⟩ := found
    exact ⟨entry, found, (settled component member).eq_kept stored⟩

/-- Every derived field of a document that its graph contradicts is named in a warning, which stands
in a log of any level.  What is rebuilt without a warning is written down as the document was, but
for the components.  These are what is kept of the first entries of their ids, and they come back as
they were, in whatever order, exactly if no two have the same id and all are settled under the
edges. -/
theorem warned_or_in_date (rebuilt : document.rebuild.outcome = .ok analysis) :
    ∃ fresh, analysis.document = .ok fresh ∧
      (∀ field, DerivedField.same document fresh field = false →
        ∃ names, Notice.outOfDate names ∈ document.rebuild.notices ∧ field.name ∈ names ∧
          ∀ least, outdatedLine names ∈ Notice.lines least document.rebuild.notices) ∧
      ((∀ names, Notice.outOfDate names ∉ document.rebuild.notices) ∨
          (∀ names, outdatedLine names ∉ Notice.lines .warning document.rebuild.notices) →
        fresh = { document with components := fresh.components }) ∧
      fresh.Restores document ∧
      (∀ component ∈ fresh.components, component.Settled document.edges) ∧
      (fresh.components.Perm document.components ↔
        (document.components.map (·.id)).Nodup ∧
          ∀ component ∈ document.components, component.Settled document.edges) := by
  obtain ⟨store, loaded, _, made, dangling, rejected, settings⟩ := of_rebuild rebuilt
  obtain ⟨_, _, _, _, _, measured⟩ := (Analysis.Returned.rebuilt document rebuilt).loaded
  obtain ⟨fresh, describes⟩ := Analysis.described measured
  have wf := (Store.of_load loaded).2
  have listed := describes.listed (made.keys_nodup wf)
  have warning := @outOfDate_mem_notices_rebuild document analysis fresh rebuilt describes.written
  have settled : ∀ component ∈ fresh.components, component.Settled document.edges :=
    fun component member =>
      made.settled wf (Store.bare_of_load loaded) (listed.mem_iff.1 member)
  refine ⟨fresh, describes.written, ?_, ?_,
    restores_of_perm (made.keepsFirst loaded) listed settled, settled, ?_⟩
  · intro field different
    have outdated := mem_outdatedFields.2 different
    have warned := warning.2 ⟨List.ne_nil_of_mem outdated, rfl⟩
    exact ⟨_, warned, List.mem_map_of_mem outdated, fun _ => Notice.outdatedLine_mem_lines warned⟩
  · intro upToDate
    have same : document.outdatedFields fresh = [] := by
      by_contra some
      have warned := warning.2 ⟨some, rfl⟩
      rcases upToDate with unnoticed | unlogged
      · exact unnoticed _ warned
      · exact unlogged _ (Notice.outdatedLine_mem_lines warned)
    have entries := describes.rejected.trans rejected
    refine eq_of_outdatedFields_eq_nil same (describes.edges.trans made.graph_edges)
      (describes.dangling.trans dangling)
      (List.map_injective_iff.2 RejectedEntry.toSymbol_injective entries) ?_
    rw [describes.limits, settings]
    rfl
  · rw [← made.components_perm_iff loaded]
    exact ⟨listed.symm.trans, listed.trans⟩

/-- A component that depends on itself, in a document that counts seven edges. -/
def miscounted : Document where
  totalComponents := 1
  totalFiles := 1
  totalEdges := 7
  components := [
    { id := "a", name := "a", kind := .function, file := "a.py", startLine := 1, endLine := 1,
      visibility := .pub, complexity := 0, dependencies := ["a"], dependents := ["a"] }]
  edges := [⟨"a", "a", .call⟩]
  cycles := [["a"]]
  cyclesPresent := true
  entryPoints := []
  mostConnected := ["a"]
  hotspots := ["a"]
  complexFiles := []
  layers := []
  order := ["a"]
  dangling := []
  rejected := []
  limits := {}

theorem warned_or_in_date_miscounted :
    ∃ (analysis : Analysis) (fresh : Document), miscounted.rebuild.outcome = .ok analysis ∧
      analysis.document = .ok fresh ∧ fresh.totalEdges = 1 ∧
      (∃ names, Notice.outOfDate names ∈ miscounted.rebuild.notices ∧ "total_edges" ∈ names ∧
        ∀ least, outdatedLine names ∈ Notice.lines least miscounted.rebuild.notices) ∧
      fresh.components = miscounted.components := by
  have evaluated : miscounted.rebuild.outcome.toOption.map (fun analysis =>
      (analysis.document.toExcept.toOption.map (·.totalEdges))) = some (some 1) := by
    cbv
  obtain ⟨analysis, known, counted⟩ := Option.map_eq_some_iff.1 evaluated
  have rebuilt := Traced.outcome_of_toOption known
  obtain ⟨fresh, written, warned, _, _, _, restored⟩ := warned_or_in_date rebuilt
  have total : fresh.totalEdges = 1 := by
    simpa [written, Checked.toExcept, Except.toOption] using counted
  refine ⟨analysis, fresh, rebuilt, written, total, warned .totalEdges ?_,
    List.perm_singleton.1 (restored.2 ⟨?_, ?_⟩)⟩
  · rw [DerivedField.same, total]
    rfl
  · decide
  · intro component member
    obtain rfl := List.mem_singleton.1 member
    exact ⟨⟨by decide, by decide, by decide +kernel⟩, by decide, by decide⟩

/-- A component that lists a dependency without an edge for it, beside one whose path is not normal.
All derived fields are those of the graph. -/
def unlinked : Document where
  totalComponents := 2
  totalFiles := 2
  totalEdges := 0
  components := [
    { id := "a", name := "a", kind := .function, file := "a.py", startLine := 1, endLine := 1,
      visibility := .pub, complexity := 0, dependencies := ["b"], dependents := [] },
    { id := "b", name := "b", kind := .function, file := "./b.py", startLine := 1, endLine := 1,
      visibility := .pub, complexity := 0, dependencies := [], dependents := [] }]
  edges := []
  cycles := []
  cyclesPresent := false
  entryPoints := ["a", "b"]
  mostConnected := []
  hotspots := []
  complexFiles := []
  layers := [⟨"root", ["a.py", "b.py"],
    "2 component(s) in 2 file(s), 0 outgoing cross-layer edge(s)"⟩]
  order := ["a", "b"]
  dangling := []
  rejected := []
  limits := {}

/-- There is no warning, but the components are written down otherwise. -/
theorem rebuild_unlinked :
    ∃ (analysis : Analysis) (fresh : Document), unlinked.rebuild.outcome = .ok analysis ∧
      (∀ names, Notice.outOfDate names ∉ unlinked.rebuild.notices) ∧
      Notice.lines .warning unlinked.rebuild.notices = [] ∧
      analysis.document = .ok fresh ∧
      fresh = { unlinked with
        components := [
          { id := "a", name := "a", kind := .function, file := "a.py", startLine := 1, endLine := 1,
            visibility := .pub, complexity := 0, dependencies := [], dependents := [] },
          { id := "b", name := "b", kind := .function, file := "b.py", startLine := 1, endLine := 1,
            visibility := .pub, complexity := 0, dependencies := [], dependents := [] }] } ∧
      ¬fresh.components.Perm unlinked.components := by
  have evaluated : unlinked.rebuild.outcome.toOption.map Analysis.document =
      some (.ok { unlinked with
        components := [
          { id := "a", name := "a", kind := .function, file := "a.py", startLine := 1, endLine := 1,
            visibility := .pub, complexity := 0, dependencies := [], dependents := [] },
          { id := "b", name := "b", kind := .function, file := "b.py", startLine := 1, endLine := 1,
            visibility := .pub, complexity := 0, dependencies := [], dependents := [] }] }) := by
    cbv
  have notices : unlinked.rebuild.notices = [.drawingOverview] := by cbv
  obtain ⟨analysis, known, written⟩ := Option.map_eq_some_iff.1 evaluated
  refine ⟨analysis, _, Traced.outcome_of_toOption known, ?_, ?_, written, rfl, by decide⟩
  · simp [notices]
  · rw [notices]
    rfl

end Document

end DepAtlas
