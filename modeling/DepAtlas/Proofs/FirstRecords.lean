import DepAtlas.Proofs.RoundTrip

/-!
# What becomes of the records

Of the records with a valid range the first one of each id is stored; those with an invalid range
are rejected.  Later records of a stored id are passed over, as long as they name the same file.  A
record that claims a stored id for another file ends the analysis, and nothing else does.

So only the first records count.  Without the others an analysis comes out the same, but for the
records that it rejects.
-/

namespace DepAtlas

namespace Symbol

/-- Two records with valid ranges claim one id for two files. -/
structure Clashes (first second : Symbol) : Prop where
  range : first.startLine ≤ first.endLine
  rangeSecond : second.startLine ≤ second.endLine
  id : first.id = second.id
  file : normalPath first.file ≠ normalPath second.file

/-- How a record is stored: under its own values, with the normal form of its path, and with a
complexity of zero where it has none or a negative one. -/
structure StoredAs (record : Symbol) (component : Component) : Prop where
  id : component.id = record.id
  name : component.name = record.name
  kind : component.kind = record.kind
  file : component.file = normalPath record.file
  startLine : component.startLine = record.startLine
  endLine : component.endLine = record.endLine
  visibility : component.visibility = record.visibility
  complexity : component.complexity =
    match record.complexity with
    | some measured => if measured < 0 then 0 else measured
    | none => 0

theorem hasValidRange_iff {record : Symbol} :
    record.hasValidRange = true ↔ record.startLine ≤ record.endLine :=
  decide_eq_true_iff

theorem not_hasValidRange (record : Symbol) :
    (!record.hasValidRange) = decide (record.endLine < record.startLine) := by
  rw [hasValidRange, ← decide_not]
  simp only [Int.not_le]

/-- Edges change nothing of how a record is stored. -/
theorem storedAs_of_bare {record : Symbol} {component : Component}
    (same : component.bare = record.toComponent) : record.StoredAs component := by
  simp only [Component.bare, toComponent, Component.mk.injEq] at same
  obtain ⟨id, name, kind, file, startLine, endLine, visibility, complexity, _⟩ := same
  refine ⟨id, name, kind, file, startLine, endLine, visibility, ?_⟩
  rw [complexity]
  cases record.complexity with
  | none => rfl
  | some measured =>
      simp only [Option.getD_some]
      omega

end Symbol

/-! ## First records -/

/-- The records that are left without those of an invalid range and those that repeat an id. -/
def firstRecords : List Symbol → List Symbol
  | [] => []
  | record :: records =>
      if record.hasValidRange then
        record :: (firstRecords records).filter fun other => other.id ≠ record.id
      else firstRecords records

theorem firstRecords_of_valid {record : Symbol} (records : List Symbol)
    (valid : record.hasValidRange = true) :
    firstRecords (record :: records) =
      record :: (firstRecords records).filter fun other => other.id ≠ record.id := by
  rw [firstRecords, if_pos valid]

theorem firstRecords_of_invalid {record : Symbol} (records : List Symbol)
    (invalid : record.hasValidRange = false) :
    firstRecords (record :: records) = firstRecords records := by
  rw [firstRecords, if_neg (by simp [invalid])]

theorem nodup_firstRecords (records : List Symbol) :
    ((firstRecords records).map (·.id)).Nodup := by
  fun_induction firstRecords records with
  | case1 => exact List.nodup_nil
  | case2 record records valid ih =>
      rw [List.map_cons, List.nodup_cons]
      refine ⟨?_, ih.sublist (List.filter_sublist.map _)⟩
      intro again
      obtain ⟨other, later, same⟩ := List.mem_map.1 again
      simp [same] at later
  | case3 record records invalid ih => exact ih

/-- Under an id, the first records hold the first record of that id with a valid range. -/
theorem find?_firstRecords (records : List Symbol) (id : ComponentId) :
    (firstRecords records).find? (fun record => record.id = id) =
      records.find? fun record => record.startLine ≤ record.endLine ∧ record.id = id := by
  fun_induction firstRecords records with
  | case1 => rfl
  | case2 record records valid ih =>
      have range := Symbol.hasValidRange_iff.1 valid
      by_cases same : record.id = id
      · rw [List.find?_cons_of_pos (by simpa using same),
          List.find?_cons_of_pos (by simp [range, same])]
      · rw [List.find?_cons_of_neg (by simpa using same),
          List.find?_cons_of_neg (by simp [same]), List.find?_filter, ← ih]
        congr 1
        funext other
        by_cases equal : other.id = id
        · simp [equal, Ne.symm same]
        · simp [equal]
  | case3 record records invalid ih =>
      have outside : ¬(record.startLine ≤ record.endLine ∧ record.id = id) := fun inside =>
        invalid (Symbol.hasValidRange_iff.2 inside.1)
      rw [ih, List.find?_cons_of_neg (by simpa using outside)]

theorem mem_map_firstRecords {records : List Symbol} {id : ComponentId} :
    id ∈ (firstRecords records).map (·.id) ↔
      ∃ record ∈ records, record.startLine ≤ record.endLine ∧ record.id = id := by
  have found := congrArg Option.isSome (find?_firstRecords records id)
  rw [Bool.eq_iff_iff, List.find?_isSome, List.find?_isSome] at found
  simpa using found

theorem find?_of_mem_firstRecords {records : List Symbol} {record : Symbol}
    (member : record ∈ firstRecords records) :
    records.find? (fun other => other.startLine ≤ other.endLine ∧ other.id = record.id) =
      some record := by
  rw [← find?_firstRecords]
  cases found : (firstRecords records).find? fun other => other.id = record.id with
  | none =>
      have absent := List.find?_eq_none.1 found record member
      simp at absent
  | some other =>
      have same : other.id = record.id := by simpa using List.find?_some found
      rw [List.inj_on_of_nodup_map (nodup_firstRecords records)
        (List.mem_of_find?_eq_some found) member same]

/-! ## Loading -/

namespace Store

variable {store : Store} {records : List Symbol}

theorem get?_append_component (store : Store) (component : Component) (id : ComponentId) :
    ({ store with components := store.components ++ [component] } : Store).get? id =
      (store.get? id).or (if component.id = id then some component else none) := by
  rw [get?, List.find?_append, ← get?, List.find?_singleton]
  simp only [decide_eq_true_eq]

/-- A batch that is not ended adds the first records of new ids and rejects those with invalid
ranges. -/
theorem insertMany_of_ended (opened : store.isSealed = false)
    (ended : (store.insertMany records).fault? = none) :
    (store.insertMany records).store = { store with
      components := store.components ++
        ((firstRecords records).filter fun record => record.id ∉ store.keys).map
          Symbol.toComponent
      rejected := store.rejected ++ records.filter fun record => !record.hasValidRange } := by
  induction records generalizing store with
  | nil => simp [insertMany, firstRecords]
  | cons record records ih =>
      have step := store.insertStep record
      rw [insertMany] at ended ⊢
      generalize store.insert record = result at step ended
      cases step with
      | sealed closed => simp [opened] at closed
      | duplicate => simp at ended
      | rejected _ invalid =>
          let next : Store := { store with rejected := store.rejected ++ [record] }
          have filled := @ih next opened ended
          refine filled.trans ?_
          have keys : next.keys = store.keys := rfl
          rw [firstRecords_of_invalid records invalid, keys]
          simp [next, invalid]
      | repeated existing _ valid found _ =>
          have old : record.id ∈ store.keys := mem_keys_of_get? found
          refine (ih opened ended).trans ?_
          have passed : ((firstRecords (record :: records)).filter fun other =>
              other.id ∉ store.keys) =
              (firstRecords records).filter fun other => other.id ∉ store.keys := by
            rw [firstRecords_of_valid records valid, List.filter_cons_of_neg (by simp [old]),
              List.filter_filter]
            apply List.filter_congr
            intro other _
            by_cases same : other.id = record.id
            · simp [same, old]
            · simp [same]
          rw [passed]
          simp [valid]
      | stored _ valid absent =>
          have new : record.id ∉ store.keys := get?_eq_none_iff.1 absent
          let next : Store := { store with components := store.components ++ [record.toComponent] }
          have filled := @ih next opened ended
          refine filled.trans ?_
          have keys : next.keys = store.keys ++ [record.id] := by
            simp [next, Store.keys, Symbol.toComponent]
          have added : ((firstRecords (record :: records)).filter fun other =>
              other.id ∉ store.keys) =
              record :: (firstRecords records).filter fun other => other.id ∉ next.keys := by
            rw [firstRecords_of_valid records valid, List.filter_cons_of_pos (by simpa using new),
              List.filter_filter]
            congr 1
            apply List.filter_congr
            intro other _
            simp [keys, Bool.and_comm]
          rw [added]
          simp [next, valid]

/-- A batch that is not ended leaves every record with a valid range behind under its id and its
file, whether or not it was the first. -/
theorem get?_insertMany_of_ended (opened : store.isSealed = false)
    (ended : (store.insertMany records).fault? = none) {record : Symbol}
    (member : record ∈ records) (valid : record.hasValidRange = true) :
    ∃ component, (store.insertMany records).store.get? record.id = some component ∧
      component.file = normalPath record.file := by
  induction records generalizing store with
  | nil => simp at member
  | cons first records ih =>
      have step := store.insertStep first
      rw [insertMany] at ended ⊢
      generalize store.insert first = result at step ended
      cases step with
      | sealed closed => simp [opened] at closed
      | duplicate => simp at ended
      | rejected _ invalid =>
          rcases List.mem_cons.1 member with rfl | later
          · simp [invalid] at valid
          · exact ih opened ended later
      | repeated existing _ _ found same =>
          rcases List.mem_cons.1 member with rfl | later
          · exact ⟨existing, get?_insertMany records found, same⟩
          · exact ih opened ended later
      | stored _ _ absent =>
          rcases List.mem_cons.1 member with rfl | later
          · refine ⟨record.toComponent, get?_insertMany records ?_, rfl⟩
            rw [get?_append_component, absent]
            exact if_pos rfl
          · exact ih opened ended later

/-- A fault names a record of a list that claims an id for another file than a component of the
store or an earlier record. -/
def Contradicts (store : Store) (records : List Symbol) (fault : Fault) : Prop :=
  ∃ before second after file, records = before ++ second :: after ∧
    second.hasValidRange = true ∧ file ≠ normalPath second.file ∧
    fault = .duplicate second.id file (normalPath second.file) ∧
    ((∃ existing, store.get? second.id = some existing ∧ existing.file = file) ∨
      ∃ first ∈ before, first.hasValidRange = true ∧ first.id = second.id ∧
        normalPath first.file = file)

/-- What is contradicted behind one more record was there before or is that record itself. -/
theorem Contradicts.cons {next : Store} {record : Symbol} {fault : Fault}
    (contradicts : next.Contradicts records fault)
    (origin : ∀ id existing, next.get? id = some existing → store.get? id = some existing ∨
      record.hasValidRange = true ∧ record.id = id ∧ normalPath record.file = existing.file) :
    store.Contradicts (record :: records) fault := by
  obtain ⟨before, second, after, file, split, valid, different, caused, claimed⟩ := contradicts
  refine ⟨record :: before, second, after, file, by rw [split]; rfl, valid, different, caused, ?_⟩
  rcases claimed with ⟨existing, found, same⟩ | ⟨first, member, claim⟩
  · rcases origin second.id existing found with old | ⟨range, id, normal⟩
    · exact .inl ⟨existing, old, same⟩
    · exact .inr ⟨record, .head before, range, id, normal.trans same⟩
  · exact .inr ⟨first, List.mem_cons_of_mem record member, claim⟩

theorem contradicts_of_insertMany (opened : store.isSealed = false) {fault : Fault}
    (failed : (store.insertMany records).fault? = some fault) :
    store.Contradicts records fault := by
  induction records generalizing store with
  | nil => simp [insertMany] at failed
  | cons record records ih =>
      have step := store.insertStep record
      rw [insertMany] at failed
      generalize store.insert record = result at step failed
      cases step with
      | sealed closed => simp [opened] at closed
      | rejected =>
          have behind := @ih { store with rejected := store.rejected ++ [record] } opened failed
          exact behind.cons fun _ _ found => .inl found
      | repeated => exact (ih opened failed).cons fun _ _ found => .inl found
      | duplicate existing _ valid found different =>
          obtain rfl : _ = fault := by simpa using failed
          exact ⟨[], record, records, existing.file, rfl, valid, different, rfl,
            .inl ⟨existing, found, rfl⟩⟩
      | stored _ valid absent =>
          have behind := @ih { store with components := store.components ++ [record.toComponent] }
            opened failed
          refine behind.cons ?_
          intro id existing found
          rw [get?_append_component, Option.or_eq_some_iff] at found
          rcases found with old | ⟨_, new⟩
          · exact .inl old
          · split at new
            next same =>
              cases new
              exact .inr ⟨valid, same, rfl⟩
            next => cases new

/-- A loaded store holds the first records, and the rejected ones. -/
theorem eq_firstRecords_of_load (loaded : (load records).outcome = .ok store) :
    store = {
      components := (firstRecords records).map Symbol.toComponent
      rejected := records.filter fun record => record.endLine < record.startLine } := by
  have filled := insertMany_of_ended rfl (load_eq_ok_iff.1 loaded).1
  have all : ((firstRecords records).filter fun record => record.id ∉ ({} : Store).keys) =
      firstRecords records := List.filter_eq_self.2 fun record _ => by simp [keys]
  rw [eq_of_load loaded, filled, all]
  simp only [List.nil_append, Symbol.not_hasValidRange]

theorem keys_of_load (loaded : (load records).outcome = .ok store) :
    store.keys = (firstRecords records).map (·.id) := by
  rw [eq_firstRecords_of_load loaded, keys, List.map_map]
  rfl

/-- Loading stops at the first record that claims an id for another file than an earlier one. -/
theorem clash_of_load {fault : Fault} (failed : (load records).outcome = .error fault) :
    ∃ before first second after, records = before ++ second :: after ∧ first ∈ before ∧
      first.Clashes second ∧
      fault = .duplicate second.id (normalPath first.file) (normalPath second.file) := by
  obtain ⟨before, second, after, file, split, valid, different, caused, claimed⟩ :=
    contradicts_of_insertMany rfl (load_eq_error_iff.1 failed)
  rcases claimed with ⟨existing, found, _⟩ | ⟨first, member, validFirst, same, rfl⟩
  · simp [get?] at found
  · exact ⟨before, first, second, after, split, member, ⟨Symbol.hasValidRange_iff.1 validFirst,
      Symbol.hasValidRange_iff.1 valid, same, different⟩, caused⟩

end Store

/-! ## Analyses -/

namespace Analysis

namespace Of

variable {analysis again : Analysis} {store other : Store} {edges : List Reference}

theorem graph_eq (made : analysis.Of store edges) :
    analysis.graph = {
      store := {
        components := store.components.map fun component => edges.foldl Component.link component
        rejected := store.rejected
        isSealed := true }
      edges
      cycles := analysis.graph.cycles } := by
  have finished := made.surveyed.finished
  have linked := Graph.store_linked { store } edges
  have entered : (Graph.ofEdges store edges).edges = edges := List.nil_append edges
  rw [← Graph.ofEdges] at linked
  simp only [Graph.sealed, Store.sealed, linked, entered] at finished
  exact finished

end Of

/-- What an analysis keeps of records: every id of a record with a valid range once, as the first
such record. -/
structure KeepsFirst (analysis : Analysis) (records : List Symbol) : Prop where
  unique : analysis.graph.store.keys.Nodup
  mem_keys_iff : ∀ id, id ∈ analysis.graph.store.keys ↔
    ∃ record ∈ records, record.startLine ≤ record.endLine ∧ record.id = id
  first : ∀ component ∈ analysis.graph.store.components, ∃ record,
    records.find? (fun record =>
      record.startLine ≤ record.endLine ∧ record.id = component.id) = some record ∧
    record.StoredAs component

theorem Of.keepsFirst {analysis : Analysis} {store : Store} {edges : List Reference}
    {records : List Symbol} (made : analysis.Of store edges)
    (loaded : (Store.load records).outcome = .ok store) : analysis.KeepsFirst records := by
  have keys : analysis.graph.store.keys = (firstRecords records).map (·.id) := by
    rw [made.graph_keys, Store.keys_of_load loaded]
  constructor
  case unique =>
    rw [keys]
    exact nodup_firstRecords records
  case mem_keys_iff =>
    intro id
    rw [keys, mem_map_firstRecords]
  case first =>
    intro component stored
    rw [made.graph_components, Store.eq_firstRecords_of_load loaded] at stored
    obtain ⟨before, entered, rfl⟩ := List.mem_map.1 stored
    obtain ⟨record, member, rfl⟩ := List.mem_map.1 entered
    have recorded := Symbol.storedAs_of_bare (record.toComponent.bare_linked edges)
    refine ⟨record, ?_, recorded⟩
    rw [recorded.id]
    exact find?_of_mem_firstRecords member

/-- The rejected records of an analysis are those that end before they start. -/
theorem mem_rejected_iff {settings : Settings} {records : List Symbol}
    {references : List Reference} {analysis : Analysis}
    (returned : (analyze settings records references).outcome = .ok analysis) {record : Symbol} :
    record ∈ analysis.rejected ↔ record ∈ records ∧ record.endLine < record.startLine := by
  obtain ⟨store, loaded, _, _, rejected, _⟩ := of_analyze returned
  rw [rejected, Store.eq_firstRecords_of_load loaded]
  simp

end Analysis

end DepAtlas
