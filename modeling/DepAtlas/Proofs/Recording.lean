import DepAtlas.Proofs.FirstRecords

/-!
# Analyses that can be written down

What an analysis puts into its document goes through the check of the place where it is put.  Stored
components, edges, layers, dangling references and limits always pass.  A rejected record is put
there as it was offered, and passes exactly if it says what its complexity is; a store takes a
record without a complexity, but where it rejects one the analysis has no document.
-/

namespace DepAtlas

/-! ## Rejected records -/

/-- A record in JSON as it was offered.  A complexity that it does not have is `null`. -/
def Symbol.toJson (record : Symbol) : Json :=
  .object [
    ("id", .text record.id),
    ("name", .text record.name),
    ("kind", .text record.kind.name),
    ("visibility", .text record.visibility.name),
    ("file_path", .text record.file),
    ("start_line", .int record.startLine),
    ("end_line", .int record.endLine),
    ("complexity_score", match record.complexity with
      | some complexity => .int complexity
      | none => .null)]

/-- To enter a record among the rejected ones is to read it as an entry. -/
theorem RejectedEntry.read_symbol (record : Symbol) :
    RejectedEntry.read record.toJson = record.toRejectedEntry := by
  cases measured : record.complexity with
  | some complexity =>
      simp [Symbol.toJson, Symbol.toRejectedEntry, measured, RejectedEntry.read, Schema.object,
        Schema.required, Schema.optional, Json.field?]
  | none =>
      simp [Symbol.toJson, Symbol.toRejectedEntry, measured, RejectedEntry.read, Schema.object,
        Schema.required, Schema.optional, Json.field?]
      rfl

namespace Symbol

theorem exists_toRejectedEntry_iff {record : Symbol} :
    (∃ entry, record.toRejectedEntry = .ok entry) ↔ record.complexity.isSome = true := by
  constructor
  · rintro ⟨entry, written⟩
    rw [← toSymbol_of_toRejectedEntry written]
    rfl
  · intro measured
    obtain ⟨complexity, found⟩ := Option.isSome_iff_exists.1 measured
    rw [toRejectedEntry, found]
    exact ⟨_, rfl⟩

end Symbol

/-! ## Documents -/

namespace Checked

variable {α : Type} {values : List (Checked α)}

theorem exists_all_iff :
    (∃ items, all values = .ok items) ↔ ∀ value ∈ values, ∃ item, value = .ok item := by
  induction values with
  | nil => simp [all]
  | cons first rest ih =>
      cases first with
      | bad issues => simp [all]
      | ok item =>
          simp only [List.forall_mem_cons, ← ih]
          cases others : all rest with
          | bad issues => simp [all, others, map]
          | ok items => simp [all, others, map]

/-- What stands in the way of all values stands in the way of one of them. -/
theorem bad_mem_of_all {issues : List Issue} (failed : all values = .bad issues) :
    .bad issues ∈ values := by
  induction values with
  | nil => cases failed
  | cons first rest ih =>
      cases first with
      | bad others =>
          cases failed
          exact List.mem_cons_self
      | ok item =>
          rw [all] at failed
          cases behind : all rest with
          | ok items =>
              rw [behind] at failed
              cases failed
          | bad others =>
              rw [behind] at failed
              cases failed
              exact List.mem_cons_of_mem _ (ih behind)

end Checked

namespace Analysis

/-- What an analysis puts into its document passes the checks there, the rejected records apart. -/
structure Accepted (analysis : Analysis) : Prop where
  components : ∀ component ∈ analysis.graph.store.components,
    Component.read component.toJson = .ok component
  edges : ∀ edge ∈ analysis.graph.edges,
    Schema.object .notObject Reference.readFields (.object edge.toFields) = .ok edge
  layers : ∀ layer ∈ analysis.overview.layers, Layer.read layer.toJson = .ok layer
  dangling : ∀ dangling ∈ analysis.dangling,
    DanglingReference.read dangling.toJson = .ok dangling
  limits : LimitsEntry.read analysis.settings.limits.toJson = .ok analysis.settings.limits

theorem accepted (analysis : Analysis) : analysis.Accepted where
  components := fun component _ => component.read_toJson
  edges := fun edge _ => edge.readFields_toFields
  layers := fun layer _ => layer.read_toJson
  dangling := fun dangling _ => dangling.read_toJson
  limits := analysis.settings.limits.read_toJson

variable {analysis : Analysis}

/-- An analysis has a document exactly if its rejected records pass. -/
theorem exists_document_iff :
    (∃ document, analysis.document = .ok document) ↔
      ∀ record ∈ analysis.rejected, ∃ entry, record.toRejectedEntry = .ok entry := by
  have entered : (∃ entries, Checked.all (analysis.rejected.map Symbol.toRejectedEntry) =
      .ok entries) ↔ ∀ record ∈ analysis.rejected, ∃ entry, record.toRejectedEntry = .ok entry := by
    rw [Checked.exists_all_iff, List.forall_mem_map]
  rw [← entered, document]
  cases Checked.all (analysis.rejected.map Symbol.toRejectedEntry) with
  | ok entries => simp [Checked.map]
  | bad issues => simp [Checked.map]

/-- Nothing but the lack of a complexity keeps an analysis from having a document. -/
theorem issues_of_document {issues : List Issue} (failed : analysis.document = .bad issues) :
    issues = [⟨.notInteger, [.field "complexity_score"]⟩] := by
  rw [document] at failed
  cases entered : Checked.all (analysis.rejected.map Symbol.toRejectedEntry) with
  | ok entries =>
      rw [entered] at failed
      cases failed
  | bad others =>
      rw [entered] at failed
      cases failed
      obtain ⟨record, _, refused⟩ := List.mem_map.1 (Checked.bad_mem_of_all entered)
      rw [Symbol.toRejectedEntry] at refused
      split at refused
      next => cases refused
      next =>
        cases refused
        rfl

end Analysis

/-- What an analysis puts into its document passes the checks there, but for the rejected records,
which are read as entries exactly where they say what their complexity is.  So an analysis has a
document exactly if every record that it was given and that ends before it starts has a complexity,
and then the document is read back from its JSON.  Otherwise the lack of a complexity is all that is
wrong. -/
theorem document_iff_measured {settings : Settings} {records : List Symbol}
    {references : List Reference} {analysis : Analysis}
    (returned : (analyze settings records references).outcome = .ok analysis) :
    analysis.Accepted ∧
      ((∃ document, analysis.document = .ok document) ↔
        ∀ record ∈ analysis.rejected, ∃ entry, RejectedEntry.read record.toJson = .ok entry) ∧
      ((∃ document, analysis.document = .ok document) ↔
        ∀ record ∈ records, record.endLine < record.startLine → record.complexity.isSome = true) ∧
      (∀ document, analysis.document = .ok document →
        Document.ofJson document.toJson = .ok document) ∧
      ∀ issues, analysis.document = .bad issues →
        issues = [⟨.notInteger, [.field "complexity_score"]⟩] := by
  refine ⟨analysis.accepted, ?_, ?_, ?_, fun issues => Analysis.issues_of_document⟩
  · simp only [RejectedEntry.read_symbol]
    exact Analysis.exists_document_iff
  · rw [Analysis.exists_document_iff]
    constructor
    · intro passes record offered ends
      have rejected := (Analysis.mem_rejected_iff returned).2 ⟨offered, ends⟩
      exact Symbol.exists_toRejectedEntry_iff.1 (passes record rejected)
    · intro measured record rejected
      obtain ⟨offered, ends⟩ := (Analysis.mem_rejected_iff returned).1 rejected
      exact Symbol.exists_toRejectedEntry_iff.2 (measured record offered ends)
  · intro document _
    exact document.ofJson_toJson

/-- A record without a complexity that is stored, beside one that ends before it starts. -/
def besideRejected (complexity : Option Int) : List Symbol := [
  { id := "a", name := "a", file := "f", startLine := 1, endLine := 1, complexity := none },
  { id := "x", name := "x", file := "f", startLine := 2, endLine := 1, complexity := complexity }]

theorem document_iff_measured_stored :
    ∃ analysis,
      (analyze {} (besideRejected (some (-3))) [⟨"a", "x", .call⟩]).outcome = .ok analysis ∧
      ∃ document, analysis.document = .ok document ∧
        Document.ofJson document.toJson = .ok document := by
  have unique : (((besideRejected (some (-3))).filter Symbol.hasValidRange).map (·.id)).Nodup := by
    decide
  obtain ⟨analysis, returned, _⟩ :=
    analyze_of_load {} [⟨"a", "x", .call⟩] (Store.load_of_unique unique)
  obtain ⟨_, _, measured, read, _⟩ := document_iff_measured returned
  obtain ⟨document, written⟩ := measured.2 (by decide)
  exact ⟨analysis, returned, document, written, read document written⟩

/-- A store takes a record without a complexity and counts it as zero, but when such a record is
rejected, the analysis has no document. -/
theorem document_unmeasured :
    ∃ analysis, (analyze {} (besideRejected none) []).outcome = .ok analysis ∧
      analysis.graph.store.components.map (fun component => (component.id, component.complexity)) =
        [("a", 0)] ∧
      analysis.document = .bad [⟨.notInteger, [.field "complexity_score"]⟩] := by
  have unique : (((besideRejected none).filter Symbol.hasValidRange).map (·.id)).Nodup := by
    decide
  obtain ⟨analysis, returned, made, _, rejected, _⟩ :=
    analyze_of_load {} [] (Store.load_of_unique unique)
  refine ⟨analysis, returned, ?_, ?_⟩
  · rw [made.graph_components]
    rfl
  · rw [Analysis.document, rejected]
    rfl

end DepAtlas
