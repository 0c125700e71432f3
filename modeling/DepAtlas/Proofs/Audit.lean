import DepAtlas.Proofs.Adjacency
import DepAtlas.Proofs.FirstRecords

/-!
# What the audit lists account for

An analysis lists the references that it put aside and the records that it rejected.  Analysing
fills both lists from what becomes of its input, so that no record disappears and no list
contradicts the graph.

Rebuilding takes both lists over from the document as they stand, and keeps to itself what the new
store rejects.  So they are right where those of the document were, as in every document of an
analysis, but not in every document that is accepted.
-/

namespace DepAtlas

/-- The audit lists of an analysis contradict neither its graph nor the records it was made from. -/
structure Analysis.Accounts (analysis : Analysis) (records : List Symbol) : Prop where
  /-- What is missing of a reference is one of its ends. -/
  missing_end : ∀ dangling ∈ analysis.dangling,
    dangling.missing = dangling.reference.source ∨ dangling.missing = dangling.reference.target
  missing_absent : ∀ dangling ∈ analysis.dangling, dangling.missing ∉ analysis.graph.store.keys
  rejected_invalid : ∀ record ∈ analysis.rejected, record.endLine < record.startLine
  /-- Every record is stored, or repeats a stored id in the same file, or is rejected. -/
  complete : ∀ record ∈ records,
    (∃ component ∈ analysis.graph.store.components, record.StoredAs component) ∨
      (∃ component ∈ analysis.graph.store.components,
        component.id = record.id ∧ component.file = normalPath record.file) ∨
      record ∈ analysis.rejected

/-- The audit lists of a document contradict nothing in the document itself. -/
structure Document.Accountable (document : Document) : Prop where
  missing_end : ∀ dangling ∈ document.dangling,
    dangling.missing = dangling.reference.source ∨ dangling.missing = dangling.reference.target
  missing_absent : ∀ dangling ∈ document.dangling, ∀ component ∈ document.components,
    component.startLine ≤ component.endLine → component.id ≠ dangling.missing
  rejected_invalid : ∀ entry ∈ document.rejected, entry.endLine < entry.startLine
  /-- A component with an invalid range is listed as rejected, or else another one with its id and
  its file has a valid range. -/
  complete : ∀ component ∈ document.components, component.endLine < component.startLine →
    component.toSymbol ∈ document.rejected.map RejectedEntry.toSymbol ∨
      ∃ other ∈ document.components, other.startLine ≤ other.endLine ∧
        other.id = component.id ∧ normalPath other.file = normalPath component.file

/-! ## Records -/

/-- A record with a valid range is stored under its id and its file, itself or an earlier one. -/
theorem Analysis.Of.exists_component {analysis : Analysis} {store : Store}
    {edges : List Reference} {records : List Symbol} (made : analysis.Of store edges)
    (loaded : (Store.load records).outcome = .ok store) {record : Symbol}
    (member : record ∈ records) (valid : record.startLine ≤ record.endLine) :
    ∃ component ∈ analysis.graph.store.components,
      component.id = record.id ∧ component.file = normalPath record.file := by
  obtain ⟨component, found, file⟩ := Store.get?_insertMany_of_ended rfl
    (Store.load_eq_ok_iff.1 loaded).1 member (Symbol.hasValidRange_iff.2 valid)
  rw [← Store.eq_of_load loaded] at found
  obtain ⟨stored, id⟩ := Store.mem_of_get? found
  refine ⟨edges.foldl Component.link component, ?_, ?_, ?_⟩
  · rw [made.graph_components]
    exact List.mem_map_of_mem stored
  · rw [component.id_linked, id]
  · rw [component.file_linked, file]

/-- What is kept is one of the records with a valid range. -/
theorem Analysis.KeepsFirst.exists_record {analysis : Analysis} {records : List Symbol}
    (kept : analysis.KeepsFirst records) {component : Component}
    (stored : component ∈ analysis.graph.store.components) :
    ∃ record ∈ records, record.startLine ≤ record.endLine ∧ record.StoredAs component := by
  obtain ⟨record, first, recorded⟩ := kept.first component stored
  have found := List.find?_some first
  simp only [decide_eq_true_eq] at found
  exact ⟨record, List.mem_of_find?_eq_some first, found.1, recorded⟩

/-! ## Analysing -/

/-- What is missing of a dangling reference is an end that is not stored. -/
theorem Store.missing_of_dangling? {store : Store} {reference : Reference}
    {dangling : DanglingReference} (put : store.dangling? reference = some dangling) :
    (dangling.missing = dangling.reference.source ∨
      dangling.missing = dangling.reference.target) ∧ dangling.missing ∉ store.keys := by
  rw [dangling?_eq] at put
  split at put
  next => cases put
  next outside =>
    cases put
    by_cases source : reference.source ∈ store.keys
    · have target : reference.target ∉ store.keys := fun target => outside ⟨source, target⟩
      simp [source, target]
    · simp [source]

/-- An analysis accounts for its records. -/
theorem accounts_of_analyze {settings : Settings} {records : List Symbol}
    {references : List Reference} {analysis : Analysis}
    (returned : (analyze settings records references).outcome = .ok analysis) :
    analysis.Accounts records := by
  obtain ⟨store, loaded, made, dangling, _⟩ := of_analyze returned
  have put : ∀ missed ∈ analysis.dangling,
      ∃ reference, store.dangling? reference = some missed := by
    intro missed member
    rw [dangling] at member
    obtain ⟨reference, _, found⟩ := List.mem_filterMap.1 member
    exact ⟨reference, found⟩
  constructor
  case missing_end =>
    intro missed member
    obtain ⟨reference, found⟩ := put missed member
    exact (Store.missing_of_dangling? found).1
  case missing_absent =>
    intro missed member
    obtain ⟨reference, found⟩ := put missed member
    rw [made.graph_keys]
    exact (Store.missing_of_dangling? found).2
  case rejected_invalid =>
    exact fun record member => ((Analysis.mem_rejected_iff returned).1 member).2
  case complete =>
    intro record member
    by_cases valid : record.startLine ≤ record.endLine
    · exact .inr (.inl (made.exists_component loaded member valid))
    · exact .inr (.inr ((Analysis.mem_rejected_iff returned).2 ⟨member, by omega⟩))

/-! ## Rebuilding -/

namespace Document

variable {document : Document}

theorem mem_records {record : Symbol} :
    record ∈ document.records ↔ ∃ component ∈ document.components, component.toSymbol = record :=
  List.mem_map

variable {analysis : Analysis}

/-- Lists that account for the entries of a document contradict nothing in it. -/
theorem accountable_of_accounts (rebuilt : document.rebuild.outcome = .ok analysis)
    (accounts : analysis.Accounts document.records) : document.Accountable := by
  obtain ⟨store, loaded, _, made, dangling, rejected, _⟩ := of_rebuild rebuilt
  constructor
  case missing_end => exact dangling ▸ accounts.missing_end
  case missing_absent =>
    intro missed member component inside valid same
    have absent := accounts.missing_absent missed (dangling ▸ member)
    exact absent (((made.keepsFirst loaded).mem_keys_iff _).2
      ⟨component.toSymbol, List.mem_map_of_mem inside, valid, same⟩)
  case rejected_invalid =>
    intro entry member
    exact accounts.rejected_invalid entry.toSymbol (rejected ▸ List.mem_map_of_mem member)
  case complete =>
    intro component inside _
    have entered : ∀ twin ∈ analysis.graph.store.components, twin.id = component.id →
        twin.file = normalPath component.file → ∃ other ∈ document.components,
          other.startLine ≤ other.endLine ∧ other.id = component.id ∧
            normalPath other.file = normalPath component.file := by
      intro twin stored id file
      obtain ⟨record, member, valid, kept⟩ := (made.keepsFirst loaded).exists_record stored
      obtain ⟨other, among, rfl⟩ := mem_records.1 member
      exact ⟨other, among, valid, kept.id.symm.trans id, kept.file.symm.trans file⟩
    rcases accounts.complete component.toSymbol (List.mem_map_of_mem inside) with
      ⟨twin, stored, kept⟩ | ⟨twin, stored, id, file⟩ | listed
    · exact .inr (entered twin stored kept.id kept.file)
    · exact .inr (entered twin stored id file)
    · exact .inl (rejected ▸ listed)

/-- If a document contradicts none of its lists, they account for its entries. -/
theorem Accountable.accounts (accountable : document.Accountable)
    (rebuilt : document.rebuild.outcome = .ok analysis) : analysis.Accounts document.records := by
  obtain ⟨store, loaded, _, made, dangling, rejected, _⟩ := of_rebuild rebuilt
  constructor
  case missing_end => exact dangling ▸ accountable.missing_end
  case missing_absent =>
    intro missed member held
    obtain ⟨record, listed, valid, same⟩ := ((made.keepsFirst loaded).mem_keys_iff _).1 held
    obtain ⟨component, inside, rfl⟩ := mem_records.1 listed
    exact accountable.missing_absent missed (dangling ▸ member) component inside valid same
  case rejected_invalid =>
    intro record member
    rw [rejected] at member
    obtain ⟨entry, inside, rfl⟩ := List.mem_map.1 member
    exact accountable.rejected_invalid entry inside
  case complete =>
    intro record member
    by_cases valid : record.startLine ≤ record.endLine
    · exact .inr (.inl (made.exists_component loaded member valid))
    · obtain ⟨component, inside, rfl⟩ := mem_records.1 member
      rcases accountable.complete component inside (Int.not_le.1 valid) with
        listed | ⟨other, among, otherValid, id, file⟩
      · exact .inr (.inr (rejected ▸ listed))
      · obtain ⟨twin, stored, twinId, twinFile⟩ :=
          made.exists_component loaded (List.mem_map_of_mem among) otherValid
        exact .inr (.inl ⟨twin, stored, twinId.trans id, twinFile.trans file⟩)

/-- The audit lists of what is rebuilt are those of the document, while the store keeps the entries
that it rejects to itself.  Entries with valid ranges are stored or repeat a stored id in the same
file.  So the lists account for the entries exactly if the document contradicts none of them. -/
theorem accounts_iff_of_rebuild (rebuilt : document.rebuild.outcome = .ok analysis) :
    analysis.dangling = document.dangling ∧
      analysis.rejected = document.rejected.map RejectedEntry.toSymbol ∧
      analysis.graph.store.rejected =
        document.records.filter (fun record => record.endLine < record.startLine) ∧
      (∀ record ∈ document.records, record.startLine ≤ record.endLine →
        ∃ component ∈ analysis.graph.store.components,
          component.id = record.id ∧ component.file = normalPath record.file) ∧
      (analysis.Accounts document.records ↔ document.Accountable) := by
  obtain ⟨store, loaded, _, made, dangling, rejected, _⟩ := of_rebuild rebuilt
  refine ⟨dangling, rejected, ?_, fun record member => made.exists_component loaded member,
    accountable_of_accounts rebuilt, fun accountable => accountable.accounts rebuilt⟩
  rw [made.graph_eq, Store.eq_firstRecords_of_load loaded]

/-- A component that comes twice beside one with an invalid range, which is listed as rejected, and
a reference to a component that is missing. -/
def audited : Document where
  totalComponents := 1
  totalFiles := 1
  totalEdges := 0
  components := [
    { id := "a", name := "a", kind := .function, file := "f", startLine := 1, endLine := 1,
      visibility := .pub, complexity := 0, dependencies := [], dependents := [] },
    { id := "x", name := "x", kind := .function, file := "f", startLine := 3, endLine := 2,
      visibility := .pub, complexity := 0, dependencies := [], dependents := [] },
    { id := "a", name := "again", kind := .function, file := "./f", startLine := 4, endLine := 5,
      visibility := .pub, complexity := 0, dependencies := [], dependents := [] }]
  edges := []
  cycles := []
  cyclesPresent := false
  entryPoints := ["a"]
  mostConnected := []
  hotspots := []
  complexFiles := []
  layers := []
  order := ["a"]
  dangling := [⟨⟨"a", "z", .call⟩, "z"⟩]
  rejected := [
    { id := "x", name := "x", kind := .function, visibility := .pub, file := "f", startLine := 3,
      endLine := 2, complexity := 0 }]
  limits := {}

theorem accounts_iff_of_rebuild_audited :
    ∃ analysis : Analysis, audited.rebuild.outcome = .ok analysis ∧
      analysis.graph.store.keys = ["a"] ∧ analysis.graph.store.rejected.map (·.id) = ["x"] ∧
      analysis.Accounts audited.records := by
  have evaluated : audited.rebuild.outcome.toOption.map (·.graph.store.keys) = some ["a"] := by
    cbv
  obtain ⟨analysis, known, keys⟩ := Option.map_eq_some_iff.1 evaluated
  have rebuilt := Traced.outcome_of_toOption known
  obtain ⟨_, _, rejected, _, accounts⟩ := accounts_iff_of_rebuild rebuilt
  have accountable : audited.Accountable :=
    ⟨by decide, by decide, by decide, by decide +kernel⟩
  refine ⟨analysis, rebuilt, keys, ?_, accounts.2 accountable⟩
  rw [rejected]
  rfl

/-- A component with an invalid range that is not listed as rejected, while one with a valid range
is, and a dangling reference that names a stored component as missing. -/
def misreported : Document where
  totalComponents := 1
  totalFiles := 1
  totalEdges := 0
  components := [
    { id := "a", name := "a", kind := .function, file := "f", startLine := 1, endLine := 1,
      visibility := .pub, complexity := 0, dependencies := [], dependents := [] },
    { id := "x", name := "x", kind := .function, file := "f", startLine := 3, endLine := 2,
      visibility := .pub, complexity := 0, dependencies := [], dependents := [] }]
  edges := []
  cycles := []
  cyclesPresent := false
  entryPoints := ["a"]
  mostConnected := []
  hotspots := []
  complexFiles := []
  layers := [⟨"root", ["f"], "1 component(s) in 1 file(s), 0 outgoing cross-layer edge(s)"⟩]
  order := ["a"]
  dangling := [⟨⟨"a", "a", .call⟩, "a"⟩]
  rejected := [
    { id := "y", name := "y", kind := .function, visibility := .pub, file := "f", startLine := 4,
      endLine := 5, complexity := 0 }]
  limits := {}

/-- It is rebuilt without a warning, to an analysis whose lists are wrong in each respect. -/
theorem rebuild_misreported :
    ∃ analysis : Analysis, misreported.rebuild.outcome = .ok analysis ∧
      (∀ names, Notice.outOfDate names ∉ misreported.rebuild.notices) ∧
      (∃ dangling ∈ analysis.dangling, dangling.missing ∈ analysis.graph.store.keys) ∧
      (∃ record ∈ analysis.rejected, record.startLine ≤ record.endLine) ∧
      ∃ record ∈ misreported.records, record.id ∉ analysis.graph.store.keys ∧
        record ∉ analysis.rejected := by
  have evaluated : misreported.rebuild.outcome.toOption.map (fun analysis =>
      (analysis.graph.store.keys, analysis.dangling, analysis.rejected)) =
        some (["a"], misreported.dangling, misreported.rejected.map RejectedEntry.toSymbol) := by
    cbv
  have quiet : misreported.rebuild.notices.filter (fun notice => notice.topic = .documents) =
      [] := by
    cbv
  obtain ⟨analysis, known, values⟩ := Option.map_eq_some_iff.1 evaluated
  obtain ⟨keys, lists⟩ := Prod.mk.inj values
  obtain ⟨dangling, rejected⟩ := Prod.mk.inj lists
  refine ⟨analysis, Traced.outcome_of_toOption known, ?_, ?_, ?_, ?_⟩
  · intro names member
    exact List.filter_eq_nil_iff.1 quiet _ member (decide_eq_true rfl)
  · rw [dangling, keys]
    decide
  · rw [rejected]
    decide
  · rw [rejected, keys]
    decide

/-- The document of an analysis that accounts for its records contradicts none of its lists: it
holds no component with an invalid range. -/
theorem Describes.accountable {store : Store} {edges : List Reference} {records : List Symbol}
    (describes : document.Describes analysis) (made : analysis.Of store edges)
    (wf : store.WellFormed) (accounts : analysis.Accounts records) : document.Accountable := by
  have listed := describes.listed (made.keys_nodup wf)
  constructor
  case missing_end => exact describes.dangling ▸ accounts.missing_end
  case missing_absent =>
    intro missed member component inside _ same
    have absent := accounts.missing_absent missed (describes.dangling ▸ member)
    exact absent (Store.mem_keys.2 ⟨component, listed.mem_iff.1 inside, same⟩)
  case rejected_invalid =>
    intro entry member
    have reported : entry.toSymbol ∈ document.rejected.map RejectedEntry.toSymbol :=
      List.mem_map_of_mem member
    exact accounts.rejected_invalid entry.toSymbol (describes.rejected ▸ reported)
  case complete =>
    intro component inside invalid
    have valid := (made.canonical wf (listed.mem_iff.1 inside)).range
    exact absurd valid (Int.not_le.2 invalid)

/-- What is rebuilt from the document of an analysis accounts for the components in it. -/
theorem accounts_of_rebuild_analyzed {settings : Settings} {records : List Symbol}
    {references : List Reference} {restored : Analysis}
    (returned : (analyze settings records references).outcome = .ok analysis)
    (written : analysis.document = .ok document)
    (rebuilt : document.rebuild.outcome = .ok restored) : restored.Accounts document.records := by
  obtain ⟨store, loaded, made, _⟩ := of_analyze returned
  have describes := Analysis.describes_of_document written
  have accountable := describes.accountable made (Store.of_load loaded).2
    (accounts_of_analyze returned)
  exact accountable.accounts rebuilt

end Document

end DepAtlas
