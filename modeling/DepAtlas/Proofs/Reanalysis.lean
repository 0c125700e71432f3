import DepAtlas.Proofs.Pipelines

/-!
# Rebuilding is analysing again

A document is rebuilt from its records, its edges and its limits.  What comes out is what the
analysis of these records and edges gives, as long as that leaves nothing dangling; whatever
else a document has written down makes no difference.
-/

namespace DepAtlas

theorem Graph.overview_eq_of_limits (graph : Graph) {settings other : Settings}
    (same : settings.limits = other.limits) :
    graph.overview settings = graph.overview other := by
  have mostConnected := congrArg LimitsEntry.mostConnected same
  have hotspots := congrArg LimitsEntry.hotspots same
  have complexFiles := congrArg LimitsEntry.complexFiles same
  simp only [Settings.limits] at mostConnected hotspots complexFiles
  simp only [Graph.overview, mostConnected, hotspots, complexFiles]

/-- There is one analysis of a store under some edges and limits. -/
theorem Analysis.Of.unique {analysis other : Analysis} {store : Store} {edges : List Reference}
    (first : analysis.Of store edges) (second : other.Of store edges)
    (limits : analysis.settings.limits = other.settings.limits) :
    analysis.graph = other.graph ∧ analysis.order = other.order ∧
      analysis.overview = other.overview := by
  have cycles := Except.ok.inj (first.surveyed.found.symm.trans second.surveyed.found)
  have order := Except.ok.inj (first.surveyed.ordered.symm.trans second.surveyed.ordered)
  have overview := first.surveyed.drawn
  rw [Graph.overview_eq_of_limits _ limits, second.surveyed.drawn] at overview
  refine ⟨?_, order, (Except.ok.inj overview).symm⟩
  have graph := first.surveyed.finished
  rw [cycles, ← second.surveyed.finished] at graph
  exact graph

/-- Some settings with the ranking limits of a document. -/
def Settings.withLimits (settings : Settings) (limits : LimitsEntry) : Settings :=
  { settings with
    mostConnected := limits.mostConnected
    hotspots := limits.hotspots
    complexFiles := limits.complexFiles
    one_le_mostConnected := limits.one_le_mostConnected
    one_le_hotspots := limits.one_le_hotspots
    one_le_complexFiles := limits.one_le_complexFiles }

namespace Document

/-- The analysis of a document's components, read as records, and edges, read as references. -/
def reanalysis (document : Document) (settings : Settings) : Traced Analysis :=
  analyze (settings.withLimits document.limits) document.records document.edges

/-- Two documents that differ in computed values and in lists of neighbours only. -/
structure SameSource (document other : Document) : Prop where
  records : document.components.map Component.toSymbol = other.components.map Component.toSymbol
  edges : document.edges = other.edges
  dangling : document.dangling = other.dangling
  rejected : document.rejected = other.rejected
  limits : document.limits = other.limits

/-- How the rebuilding of a document and the analysis of its components and edges can go. -/
inductive Compared : Except Fault Analysis → Except Fault Analysis → Prop where
  | duplicate (id : ComponentId) (first second : String) :
      Compared (.error (.duplicate id first second)) (.error (.duplicate id first second))
  | dangling (again : Analysis) (first : DanglingReference) (rest : List DanglingReference)
      (left : again.dangling = first :: rest) :
      Compared (.error (.unknownEndpoint first.missing)) (.ok again)
  | whole (result again : Analysis) (left : again.dangling = [])
      (graph : result.graph = again.graph) (order : result.order = again.order)
      (overview : result.overview = again.overview) :
      Compared (.ok result) (.ok again)

theorem compared (document : Document) (settings : Settings) :
    Compared document.rebuild.outcome (document.reanalysis settings).outcome := by
  rw [reanalysis]
  cases loaded : (Store.load document.records).outcome with
  | error fault =>
      obtain ⟨id, first, second, rfl⟩ := Store.duplicate_of_load loaded
      rw [rebuild_of_load_error loaded, analyze_of_load_error _ _ loaded]
      exact .duplicate id first second
  | ok store =>
      obtain ⟨again, analyzed, made, dangling, _, limited⟩ :=
        analyze_of_load (settings.withLimits document.limits) document.edges loaded
      rw [analyzed]
      cases left : document.edges.filterMap store.dangling? with
      | cons first rest =>
          rw [rebuild_of_load_dangling loaded left]
          exact .dangling again first rest (dangling.trans left)
      | nil =>
          obtain ⟨result, rebuilt, remade, _, _, relimited⟩ := rebuild_of_load loaded left
          rw [Store.filter_takes_of_dangling_eq_nil left] at made
          have limits : result.settings.limits = again.settings.limits := by
            rw [limited, relimited]
            rfl
          obtain ⟨graph, order, overview⟩ := remade.unique made limits
          rw [rebuilt]
          exact .whole result again (dangling.trans left) graph order overview

theorem SameSource.outcome_rebuild {document other : Document}
    (same : document.SameSource other) : document.rebuild.outcome = other.rebuild.outcome := by
  simp only [Document.outcome_rebuild, replay, graph, same.records, same.edges, same.dangling,
    same.rejected, same.limits]

/-- Rebuilding a document is analysing its components and edges anew: it succeeds when that leaves
nothing dangling, with the same graph, order and overview; it fails when that fails, with the same
fault; and otherwise it names the missing end of the first dangling reference.  Computed values and
lists of neighbours in the document make no difference. -/
theorem rebuild_iff_reanalysis (document : Document) (settings : Settings) :
    ((∃ result, document.rebuild.outcome = .ok result) ↔
      ∃ again, (document.reanalysis settings).outcome = .ok again ∧ again.dangling = []) ∧
    (∀ id first second, document.rebuild.outcome = .error (.duplicate id first second) ↔
      (document.reanalysis settings).outcome = .error (.duplicate id first second)) ∧
    (∀ id, document.rebuild.outcome = .error (.unknownEndpoint id) ↔
      ∃ again, (document.reanalysis settings).outcome = .ok again ∧
        again.dangling.head?.map (·.missing) = some id) ∧
    (∀ fault, document.rebuild.outcome = .error fault →
      (∃ id first second, fault = .duplicate id first second) ∨
        ∃ id, fault = .unknownEndpoint id) ∧
    (∀ fault, (document.reanalysis settings).outcome = .error fault →
      ∃ id first second, fault = .duplicate id first second) ∧
    (∀ result again, document.rebuild.outcome = .ok result →
      (document.reanalysis settings).outcome = .ok again →
        result.graph = again.graph ∧ result.order = again.order ∧
          result.overview = again.overview) ∧
    ∀ other : Document, other.SameSource document →
      other.rebuild.outcome = document.rebuild.outcome := by
  have compared := document.compared settings
  have replaced : ∀ other : Document, other.SameSource document →
      other.rebuild.outcome = document.rebuild.outcome := fun _ same => same.outcome_rebuild
  refine ⟨?_, ?_, ?_, ?_, ?_, ?_, replaced⟩
  all_goals
    clear replaced
    revert compared
    generalize document.rebuild.outcome = rebuilt
    generalize (document.reanalysis settings).outcome = analyzed
    intro compared
  · cases compared <;> simp_all
  · cases compared <;> simp
  · cases compared <;> simp_all
  · cases compared <;> simp
  · cases compared <;> simp
  · cases compared <;> simp_all

end Document

end DepAtlas
