import DepAtlas.Proofs.Documents
import DepAtlas.Proofs.Reanalysis
import DepAtlas.Proofs.Reloading
import Mathlib.Algebra.Module.Submodule.Lattice
import Mathlib.Data.List.Permutation

/-!
# Analyses restored from their documents

The document of an analysis lists the components in ascending order, and rebuilding enters them
in that order.  The edges give every component the same neighbours in the same order as before.
So the store that comes out is the old one but for the order of its components, on which the
survey does not depend.
-/

namespace DepAtlas

/-! ## Writing an analysis down -/

/-- Rejected records whose complexity was measured are all written down. -/
theorem Checked.all_toRejectedEntry {records : List Symbol}
    (measured : ∀ record ∈ records, record.complexity.isSome = true) :
    ∃ entries, Checked.all (records.map Symbol.toRejectedEntry) = .ok entries ∧
      entries.map RejectedEntry.toSymbol = records := by
  induction records with
  | nil => exact ⟨[], rfl, rfl⟩
  | cons record records ih =>
      obtain ⟨entries, others, restored⟩ :=
        ih fun other member => measured other (List.mem_cons_of_mem record member)
      obtain ⟨complexity, found⟩ := Option.isSome_iff_exists.1 (measured record (by simp))
      have first : ∃ entry, record.toRejectedEntry = .ok entry ∧ entry.toSymbol = record := by
        cases record
        subst found
        exact ⟨_, rfl, rfl⟩
      obtain ⟨entry, written, back⟩ := first
      refine ⟨entry :: entries, ?_, by rw [List.map_cons, back, restored]⟩
      rw [List.map_cons, written, Checked.all, others]
      rfl

theorem RejectedEntry.toSymbol_injective : Function.Injective RejectedEntry.toSymbol := by
  intro entry other same
  simp only [toSymbol, Symbol.mk.injEq, Option.some.injEq] at same
  cases entry
  cases other
  simp_all

/-- Nothing is lost of a rejected record that was written down. -/
theorem Symbol.toSymbol_of_toRejectedEntry {record : Symbol} {entry : RejectedEntry}
    (written : record.toRejectedEntry = .ok entry) : entry.toSymbol = record := by
  rw [toRejectedEntry] at written
  split at written
  next complexity measured =>
    cases written
    rw [RejectedEntry.toSymbol, ← measured]
  next => cases written

theorem Checked.eq_of_all_toRejectedEntry {records : List Symbol} {entries : List RejectedEntry}
    (written : Checked.all (records.map Symbol.toRejectedEntry) = .ok entries) :
    entries.map RejectedEntry.toSymbol = records := by
  induction records generalizing entries with
  | nil =>
      cases written
      rfl
  | cons record records ih =>
      rw [List.map_cons] at written
      cases first : record.toRejectedEntry with
      | bad issues =>
          rw [first] at written
          cases written
      | ok entry =>
          rw [first, Checked.all] at written
          cases rest : Checked.all (records.map Symbol.toRejectedEntry) with
          | bad issues =>
              rw [rest] at written
              cases written
          | ok others =>
              rw [rest] at written
              cases written
              rw [List.map_cons, Symbol.toSymbol_of_toRejectedEntry first, ih rest]

/-- What a document says about an analysis. -/
structure Document.Describes (document : Document) (analysis : Analysis) : Prop where
  written : analysis.document = .ok document
  components : document.components =
    analysis.graph.store.ids.filterMap analysis.graph.store.get?
  edges : document.edges = analysis.graph.edges
  dangling : document.dangling = analysis.dangling
  rejected : document.rejected.map RejectedEntry.toSymbol = analysis.rejected
  limits : document.limits = analysis.settings.limits

theorem Analysis.describes_of_document {analysis : Analysis} {document : Document}
    (written : analysis.document = .ok document) : document.Describes analysis := by
  have parts := written
  rw [Analysis.document] at parts
  cases entered : Checked.all (analysis.rejected.map Symbol.toRejectedEntry) with
  | bad issues =>
      rw [entered] at parts
      cases parts
  | ok entries =>
      rw [entered] at parts
      cases parts
      exact ⟨written, rfl, rfl, rfl, Checked.eq_of_all_toRejectedEntry entered, rfl⟩

/-- An analysis whose rejected records have a complexity can be written down. -/
theorem Analysis.described {analysis : Analysis}
    (measured : ∀ record ∈ analysis.rejected, record.complexity.isSome = true) :
    ∃ document : Document, document.Describes analysis := by
  obtain ⟨entries, all, _⟩ := Checked.all_toRejectedEntry measured
  have written : ∃ document, analysis.document = .ok document := by
    rw [Analysis.document, all]
    exact ⟨_, rfl⟩
  obtain ⟨document, done⟩ := written
  exact ⟨document, describes_of_document done⟩

/-- A document lists the components of the store. -/
theorem Document.Describes.listed {document : Document} {analysis : Analysis}
    (describes : document.Describes analysis) (unique : analysis.graph.store.keys.Nodup) :
    document.components.Perm analysis.graph.store.components := by
  rw [describes.components]
  exact Store.listed_perm unique

/-! ## Rebuilding -/

namespace Analysis.Of

variable {analysis : Analysis} {store : Store} {edges : List Reference}

/-- Surveying a graph changes none of its components. -/
theorem surveyed_components (made : analysis.Of store edges) :
    analysis.graph.store.components = (Graph.ofEdges store edges).store.components :=
  congrArg (fun graph => graph.store.components) made.surveyed.finished

theorem graph_components (made : analysis.Of store edges) :
    analysis.graph.store.components =
      store.components.map fun component => edges.foldl Component.link component := by
  rw [made.surveyed_components, Graph.ofEdges, Graph.store_linked]

theorem graph_edges (made : analysis.Of store edges) : analysis.graph.edges = edges :=
  (congrArg Graph.edges made.surveyed.finished).trans (List.nil_append edges)

theorem graph_keys (made : analysis.Of store edges) : analysis.graph.store.keys = store.keys := by
  simp [Store.keys, made.graph_components, Function.comp_def]

theorem keys_nodup (made : analysis.Of store edges) (wf : store.WellFormed) :
    analysis.graph.store.keys.Nodup := by
  rw [made.graph_keys]
  exact wf.keys_nodup

theorem canonical (made : analysis.Of store edges) (wf : store.WellFormed) {component : Component}
    (stored : component ∈ analysis.graph.store.components) : component.Canonical := by
  rw [made.graph_components] at stored
  obtain ⟨before, member, rfl⟩ := List.mem_map.1 stored
  exact Component.canonical_linked (wf.canonical before member) edges

/-- Analyses of two stores that differ in the order of their components agree. -/
theorem agrees_of_perm {other : Store} {again : Analysis} (made : analysis.Of store edges)
    (remade : again.Of other edges) (perm : store.components.Perm other.components)
    (wf : store.WellFormed) (wfOther : other.WellFormed)
    (limits : analysis.settings.limits = again.settings.limits) :
    analysis.graph.store.components.Perm again.graph.store.components ∧
      analysis.graph.cycles = again.graph.cycles ∧ analysis.order = again.order ∧
        analysis.overview = again.overview := by
  have rearranged : (Graph.ofEdges store edges).Rearranged (Graph.ofEdges other edges) := by
    refine ⟨?_, rfl⟩
    rw [Graph.ofEdges, Graph.ofEdges, Graph.store_linked, Graph.store_linked]
    exact perm.map _
  have wfOver := Graph.wellFormed_ofEdges wf made.taken
  have wfOverOther := Graph.wellFormed_ofEdges wfOther remade.taken
  -- The survey of the one graph, carried over to the other, is the other's own.
  have carried : Analysis.Of
      { analysis with
        graph := { Graph.ofEdges other edges with cycles := analysis.graph.cycles }.sealed }
      other edges :=
    ⟨remade.taken, rearranged.survey wfOver wfOverOther made.surveyed⟩
  obtain ⟨graph, order, overview⟩ := carried.unique remade limits
  have cycles := congrArg Graph.cycles graph
  refine ⟨?_, cycles, order, overview⟩
  rw [made.graph_components, remade.graph_components]
  exact perm.map _

end Analysis.Of

/-- The components of a document, entered anew, are those of the store that was analysed. -/
theorem Document.Describes.load {document : Document} {analysis : Analysis} {store : Store}
    {edges : List Reference} (describes : document.Describes analysis)
    (made : analysis.Of store edges) (wf : store.WellFormed)
    (bare : ∀ component ∈ store.components, component.bare = component) :
    ∃ reloaded, (Store.load document.records).outcome = .ok reloaded ∧
      store.components.Perm reloaded.components := by
  have unique := made.keys_nodup wf
  have listed := describes.listed unique
  have canonical : ∀ component ∈ document.components, component.Canonical :=
    fun component member => made.canonical wf (listed.mem_iff.1 member)
  have ids : (document.components.map (·.id)).Nodup := ((listed.map _).nodup_iff).2 unique
  refine ⟨_, Store.load_toSymbol canonical ids, ?_⟩
  have stripped : analysis.graph.store.components.map Component.bare = store.components := by
    rw [made.graph_components, List.map_map]
    refine (List.map_congr_left ?_).trans (List.map_id _)
    intro component stored
    exact (component.bare_linked edges).trans (bare component stored)
  have perm := listed.map Component.bare
  rw [stripped] at perm
  exact perm.symm

/-- A document that describes an analysis can be rebuilt, and then it describes the result, which
agrees with the analysis. -/
theorem Document.Describes.rebuild {document : Document} {analysis : Analysis} {store : Store}
    {edges : List Reference} (describes : document.Describes analysis)
    (made : analysis.Of store edges) (wf : store.WellFormed)
    (bare : ∀ component ∈ store.components, component.bare = component) :
    ∃ restored, document.rebuild.outcome = .ok restored ∧ restored.document = .ok document ∧
      analysis.agrees restored = true ∧ restored.settings.limits = analysis.settings.limits := by
  obtain ⟨reloaded, loaded, perm⟩ := describes.load made wf bare
  obtain ⟨_, wfReloaded⟩ := Store.of_load loaded
  have edgesKept : document.edges = edges := describes.edges.trans made.graph_edges
  have none : document.edges.filterMap reloaded.dangling? = [] := by
    rw [edgesKept, List.filterMap_eq_nil_iff]
    intro edge member
    obtain ⟨source, target⟩ := Store.takes_iff.1 (made.taken edge member)
    have keys := Store.keys_perm perm
    have present := Store.missingEnd?_eq_none_iff.2 ⟨keys.mem_iff.1 source, keys.mem_iff.1 target⟩
    rw [Store.dangling?, present]
    rfl
  obtain ⟨restored, rebuilt, remade, dangling, rejected, limited⟩ := rebuild_of_load loaded none
  rw [edgesKept] at remade
  rw [describes.dangling] at dangling
  rw [describes.rejected] at rejected
  have limits : restored.settings.limits = analysis.settings.limits := by
    rw [limited, ← describes.limits]
    rfl
  obtain ⟨components, cycles, order, overview⟩ :=
    made.agrees_of_perm remade perm wf wfReloaded limits.symm
  have unique := made.keys_nodup wf
  have sameEdges : analysis.graph.edges = restored.graph.edges := by
    rw [made.graph_edges, remade.graph_edges]
  have sameDocument : restored.document = analysis.document := by
    simp only [Analysis.document, Store.ids_eq_of_perm components,
      Store.get?_eq_of_perm components unique, sameEdges, cycles, order, overview, dangling,
      rejected, limits]
  refine ⟨restored, rebuilt, sameDocument.trans describes.written, ?_, limits⟩
  have stores := Store.agrees_of_perm components unique
  simp [Analysis.agrees, Graph.agrees, stores, sameEdges, cycles, order, overview, dangling,
    rejected]

/-! ## Notices -/

namespace Traced

variable {α β : Type}

/-- Whether a computation reports no values that are out of date. -/
def UpToDate (computation : Traced α) : Prop :=
  ∀ fields, Notice.outOfDate fields ∉ computation.notices

theorem UpToDate.bind {first : Traced α} {next : α → Traced β} (before : first.UpToDate)
    (after : ∀ value, first.outcome = .ok value → (next value).UpToDate) :
    (first >>= next).UpToDate := by
  intro fields member
  rcases mem_notices_bind.1 member with early | ⟨value, ended, late⟩
  · exact before fields early
  · exact after value ended fields late

theorem UpToDate.pure (value : α) : (Pure.pure value : Traced α).UpToDate := by
  intro fields member
  simp at member

/-- Computations that report on another topic are up to date. -/
theorem UpToDate.of_topic {computation : Traced α}
    (other : ∀ notice ∈ computation.notices, notice.topic ≠ .documents) : computation.UpToDate :=
  fun _ member => other _ member rfl

end Traced

theorem Graph.upToDate_survey (graph : Graph) (settings : Settings) :
    (graph.survey settings).UpToDate := by
  refine Traced.UpToDate.bind (.of_topic ?_) fun cycles _ =>
    Traced.UpToDate.bind (.of_topic ?_) fun order _ =>
      Traced.UpToDate.bind (.of_topic ?_) fun overview _ => Traced.UpToDate.pure _
  · intro notice member
    simp [topic_findCycles member]
  · intro notice member
    simp [topic_dependencyOrder member]
  · intro notice member
    simp [topic_overview member]

namespace Document

theorem upToDate_replay (document : Document) : document.replay.UpToDate := by
  refine Traced.UpToDate.bind ?_ fun graph _ =>
    (graph.upToDate_survey document.limits.settings).bind fun survey _ => Traced.UpToDate.pure _
  refine Traced.UpToDate.bind (.of_topic ?_) fun store _ => ?_
  · intro notice member
    simp [Store.topic_load member]
  · intro fields member
    simp at member

theorem outdatedFields_self (document : Document) : document.outdatedFields document = [] := by
  rw [outdatedFields, List.filter_eq_nil_iff]
  intro field _
  cases field <;> simp [DerivedField.same]

/-- Nothing is out of date in the document of the analysis that it is rebuilt to. -/
theorem upToDate_rebuild {document : Document} {analysis : Analysis}
    (rebuilt : document.rebuild.outcome = .ok analysis)
    (written : analysis.document = .ok document) : document.rebuild.UpToDate := by
  rw [outcome_rebuild] at rebuilt
  refine document.upToDate_replay.bind fun replayed outcome => ?_
  rw [rebuilt] at outcome
  cases outcome
  have stale : document.outdatedAgainst analysis = [] := by
    rw [outdatedAgainst, written]
    exact document.outdatedFields_self
  rw [stale]
  intro fields member
  simp [Traced.note, Bind.bind, Traced.andThen] at member

end Document

/-! ## The round trip -/

/-- An analysis as it comes out of a pipeline: of records whose complexity was measured, or of a
document. -/
inductive Analysis.Returned (analysis : Analysis) : Prop where
  | analyzed (settings : Settings) (records : List Symbol) (references : List Reference)
      (measured : ∀ record ∈ records, record.complexity.isSome = true)
      (returned : (analyze settings records references).outcome = .ok analysis)
  | rebuilt (document : Document) (returned : document.rebuild.outcome = .ok analysis)

/-- Behind every analysis stands a loaded store; its rejected records have a complexity. -/
theorem Analysis.Returned.loaded {analysis : Analysis} (returned : analysis.Returned) :
    ∃ records store edges, (Store.load records).outcome = .ok store ∧ analysis.Of store edges ∧
      ∀ record ∈ analysis.rejected, record.complexity.isSome = true := by
  cases returned with
  | analyzed settings records references measured returned =>
      obtain ⟨store, loaded, made, _, rejected, _⟩ := of_analyze returned
      refine ⟨records, store, _, loaded, made, ?_⟩
      intro record member
      rw [rejected] at member
      exact measured record (Store.rejected_of_load loaded record member)
  | rebuilt document returned =>
      obtain ⟨store, loaded, _, made, _, rejected, _⟩ := Document.of_rebuild returned
      refine ⟨document.records, store, _, loaded, made, ?_⟩
      intro record member
      rw [rejected] at member
      obtain ⟨entry, _, rfl⟩ := List.mem_map.1 member
      rfl

/-- An analysis is written to a text and read back from it, whatever the indentation.  The reader
takes integers of any size or, as the program's own reader, those of at most `Text.maxDigits`
digits.  What is rebuilt agrees with the analysis and has its limits, and no value is reported to
be out of date. -/
theorem rebuild_document {analysis : Analysis} (returned : analysis.Returned)
    (indent : Option Nat) :
    ∃ document restored, analysis.document = .ok document ∧
      Document.ofTextWithin { Json.documentBounds with longIntegers := true }
        (document.toText indent) = .ok document ∧
      ((∀ n ∈ document.integers, n.natAbs < Nat.pow 10 Text.maxDigits) →
        Document.ofText (document.toText indent) = .ok document) ∧
      document.rebuild.outcome = .ok restored ∧ analysis.agrees restored = true ∧
      restored.settings.mostConnected = analysis.settings.mostConnected ∧
      restored.settings.hotspots = analysis.settings.hotspots ∧
      restored.settings.complexFiles = analysis.settings.complexFiles ∧
      ∀ fields, Notice.outOfDate fields ∉ document.rebuild.notices := by
  obtain ⟨records, store, edges, loaded, made, measured⟩ := returned.loaded
  obtain ⟨document, describes⟩ := Analysis.described measured
  obtain ⟨restored, rebuilt, rewritten, agree, limits⟩ :=
    describes.rebuild made (Store.of_load loaded).2 (Store.bare_of_load loaded)
  refine ⟨document, restored, describes.written, ?_, ?_, rebuilt, agree,
    congrArg LimitsEntry.mostConnected limits, congrArg LimitsEntry.hotspots limits,
    congrArg LimitsEntry.complexFiles limits, Document.upToDate_rebuild rebuilt rewritten⟩
  · exact Document.ofTextWithin_toText (by decide) rfl (fun _ _ => .inl rfl) indent
  · intro short
    exact Document.ofTextWithin_toText (by decide) rfl (fun n member => .inr (short n member))
      indent

/-- Two components that depend on each other and on one that is missing. -/
theorem rebuild_document_pair :
    ∃ analysis, (analyze {}
        [{ id := "b", name := "say \"b\"", file := "./b.py", startLine := 3, endLine := 3 },
          { id := "a", name := "a", file := "a.py", startLine := 1, endLine := 2,
            complexity := some (-1) }]
        [⟨"a", "b", .call⟩, ⟨"b", "a", .importing⟩, ⟨"b", "c", .call⟩]).outcome = .ok analysis ∧
      ∃ document restored, analysis.document = .ok document ∧
        Document.ofTextWithin { Json.documentBounds with longIntegers := true }
          (document.toText (some 2)) = .ok document ∧
        Document.ofText (document.toText (some 2)) = .ok document ∧
        document.rebuild.outcome = .ok restored ∧ analysis.agrees restored = true := by
  have evaluated : (analyze {}
      [{ id := "b", name := "say \"b\"", file := "./b.py", startLine := 3, endLine := 3 },
        { id := "a", name := "a", file := "a.py", startLine := 1, endLine := 2,
          complexity := some (-1) }]
      [⟨"a", "b", .call⟩, ⟨"b", "a", .importing⟩, ⟨"b", "c", .call⟩]).outcome.toOption.map
        (fun analysis => analysis.document.toExcept.toOption.map Document.integers) =
      some (some [2, 2, 2, 1, 2, 0, 3, 3, 0, 10, 10, 10]) := by
    cbv
  obtain ⟨analysis, known, counted⟩ := Option.map_eq_some_iff.1 evaluated
  have returned := Traced.outcome_of_toOption known
  obtain ⟨document, restored, written, read, readShort, rebuilt, agree, _⟩ :=
    rebuild_document (.analyzed _ _ _ (by decide) returned) (some 2)
  have integers : document.integers = [2, 2, 2, 1, 2, 0, 3, 3, 0, 10, 10, 10] := by
    simpa [written, Checked.toExcept, Except.toOption] using counted
  have short : ∀ n ∈ document.integers, n.natAbs < Nat.pow 10 Text.maxDigits := by
    rw [integers]
    decide +kernel
  exact ⟨analysis, returned, document, restored, written, read, readShort short, rebuilt, agree⟩

end DepAtlas
