import DepAtlas.Input
import DepAtlas.Proofs.FirstRecords
import DepAtlas.Proofs.Spellings

/-!
# Derived ids

A symbol that comes without an id is known by its file and its qualified name.  The file enters the
id in normal form, as it enters the component that is stored.  So symbols that spell one path in
different ways and have one qualified name get one id and one file: each of them repeats the first,
and they cannot contradict each other.

What is stored is settled.  Taken out as a record and entered into an empty store, a component comes
back as it was, without its neighbours.
-/

namespace DepAtlas

/-! ## Entering records -/

/-- In an empty store a record is stored as a component. -/
def Symbol.EntersAs (record : Symbol) (component : Component) : Prop :=
  ({} : Store).insert record = ({ components := [component] }, .ok (.stored component))

namespace Store

variable {store next : Store} {record : Symbol}

theorem entersAs_toComponent (valid : record.hasValidRange = true) :
    record.EntersAs record.toComponent := by
  have step := ({} : Store).insertStep record
  rw [Symbol.EntersAs]
  generalize ({} : Store).insert record = result at step
  cases step with
  | sealed closed => cases closed
  | rejected _ invalid => simp [valid] at invalid
  | repeated existing _ _ found | duplicate existing _ _ found => cases found
  | stored => rfl

/-- A record that repeats a stored id in the same file ends up as the stored component. -/
theorem insert_of_get? {existing : Component} (opened : store.isSealed = false)
    (valid : record.hasValidRange = true) (found : store.get? record.id = some existing)
    (same : existing.file = normalPath record.file) :
    store.insert record = (store, .ok (.repeated existing)) := by
  have step := store.insertStep record
  generalize store.insert record = result at step
  cases step with
  | sealed closed => simp [opened] at closed
  | rejected _ invalid => simp [valid] at invalid
  | repeated again _ _ foundAgain =>
      rw [found] at foundAgain
      cases foundAgain
      rfl
  | duplicate again _ _ foundAgain different =>
      rw [found] at foundAgain
      cases foundAgain
      exact absurd same different
  | stored _ _ absent => simp [found] at absent

/-- The component that a record ends up as is found under the id of the record and has its file. -/
theorem get?_of_insert {insertion : Insertion} {component : Component}
    (inserted : store.insert record = (next, .ok insertion))
    (ended : insertion.component? = some component) :
    next.isSealed = false ∧ next.get? record.id = some component ∧
      component.file = normalPath record.file := by
  have step := store.insertStep record
  rw [inserted] at step
  cases step with
  | rejected => cases ended
  | repeated existing opened _ found same =>
      cases ended
      exact ⟨opened, found, same⟩
  | stored opened _ absent =>
      cases ended
      refine ⟨opened, ?_, rfl⟩
      rw [get?_append_component, absent]
      exact if_pos rfl

end Store

namespace Component

/-- A stored component that is entered anew loses its neighbours and nothing else. -/
theorem Canonical.entersAs_bare {component : Component} (canonical : component.Canonical) :
    component.toSymbol.EntersAs component.bare := by
  rw [← toComponent_toSymbol canonical]
  exact Store.entersAs_toComponent (decide_eq_true canonical.range)

end Component

/-! ## Symbols without ids -/

namespace SymbolEntry

/-- A symbol comes without an id: it has none, or an empty one. -/
def LacksId (entry : SymbolEntry) : Prop :=
  entry.id = none ∨ entry.id = some ""

instance (entry : SymbolEntry) : Decidable entry.LacksId :=
  inferInstanceAs (Decidable (_ ∨ _))

/-- The name that a symbol is known by in its file: its qualified name, or its name where it comes
without a qualified one or with an empty one. -/
inductive KnownAs (entry : SymbolEntry) : String → Prop
  | qualified {name : String} (there : entry.qualifiedName = some name) (some : name ≠ "") :
      KnownAs entry name
  | plain (lacking : entry.qualifiedName = none ∨ entry.qualifiedName = some "") :
      KnownAs entry entry.name

theorem knownAs_iff {entry : SymbolEntry} {name : String} :
    entry.KnownAs name ↔ entry.idName = name := by
  constructor
  · intro known
    cases known with
    | qualified there some =>
        rw [idName, Text.present_eq_some_iff.2 ⟨there, some⟩]
        rfl
    | plain lacking =>
        rw [idName, Text.present_eq_none_iff.2 lacking]
        rfl
  · rintro rfl
    rw [idName]
    cases there : Text.present entry.qualifiedName with
    | some name =>
        obtain ⟨qualified, some⟩ := Text.present_eq_some_iff.1 there
        exact .qualified qualified some
    | none => exact .plain (Text.present_eq_none_iff.1 there)

theorem knownAs_idName (entry : SymbolEntry) : entry.KnownAs entry.idName :=
  knownAs_iff.2 rfl

theorem id_toSymbol {entry : SymbolEntry} (lacksId : entry.LacksId) :
    entry.toSymbol.id = normalPath entry.file ++ "::" ++ entry.idName := by
  have absent : Text.present entry.id = none := Text.present_eq_none_iff.2 lacksId
  rw [toSymbol, absent]
  rfl

/-- Two symbols without ids spell the same path and are known by the same name. -/
structure Restates (second first : SymbolEntry) : Prop where
  lacksId : second.LacksId
  lacksIdFirst : first.LacksId
  path : ∃ path, SourcePath.Spells first.file.toList path ∧
    SourcePath.Spells second.file.toList path
  name : ∃ name, first.KnownAs name ∧ second.KnownAs name

namespace Restates

variable {first second : SymbolEntry}

theorem file_eq (restates : second.Restates first) :
    normalPath first.file = normalPath second.file :=
  normalPath_eq_iff.2 restates.path

theorem id_eq (restates : second.Restates first) : first.toSymbol.id = second.toSymbol.id := by
  obtain ⟨name, known, knownAgain⟩ := restates.name
  rw [id_toSymbol restates.lacksIdFirst, id_toSymbol restates.lacksId, restates.file_eq,
    knownAs_iff.1 known, knownAs_iff.1 knownAgain]

/-- Whatever is entered in between, a symbol that restates another one repeats the component that
this one ended up as. -/
theorem insert_eq (restates : second.Restates first) {store next : Store} {insertion : Insertion}
    {component : Component} (inserted : store.insert first.toSymbol = (next, .ok insertion))
    (ended : insertion.component? = some component) (valid : second.startLine ≤ second.endLine)
    (between : List Symbol) :
    (next.insertMany between).store.insert second.toSymbol =
      ((next.insertMany between).store, .ok (.repeated component)) := by
  obtain ⟨opened, found, file⟩ := Store.get?_of_insert inserted ended
  have still := Store.get?_insertMany between found
  rw [restates.id_eq] at still
  have same : component.file = normalPath second.file := file.trans restates.file_eq
  exact Store.insert_of_get? (Store.insertMany_of_open opened between).1 (decide_eq_true valid)
    still same

theorem not_clashes (restates : second.Restates first) :
    ¬first.toSymbol.Clashes second.toSymbol :=
  fun clash => clash.file restates.file_eq

end Restates

/-- Symbols that restate each other can be loaded, and are stored as one component at most. -/
theorem exists_load {entries : List SymbolEntry}
    (restated : ∀ first ∈ entries, ∀ second ∈ entries, second.Restates first) :
    ∃ store, (Store.load (entries.map toSymbol)).outcome = .ok store ∧
      store.components.length ≤ 1 := by
  cases loaded : (Store.load (entries.map toSymbol)).outcome with
  | error fault =>
      obtain ⟨before, first, second, after, split, member, clash, _⟩ := Store.clash_of_load loaded
      obtain ⟨one, oneMember, rfl⟩ : ∃ entry ∈ entries, entry.toSymbol = first :=
        List.mem_map.1 (by simp [split, member])
      obtain ⟨other, otherMember, rfl⟩ : ∃ entry ∈ entries, entry.toSymbol = second :=
        List.mem_map.1 (by simp [split])
      exact absurd clash (restated one oneMember other otherMember).not_clashes
  | ok store =>
      have same : ∀ id ∈ store.keys, ∀ other ∈ store.keys, id = other := by
        intro id member other otherMember
        rw [Store.keys_of_load loaded, mem_map_firstRecords] at member otherMember
        obtain ⟨_, offered, _, rfl⟩ := member
        obtain ⟨_, otherOffered, _, rfl⟩ := otherMember
        obtain ⟨first, inside, rfl⟩ := List.mem_map.1 offered
        obtain ⟨second, otherInside, rfl⟩ := List.mem_map.1 otherOffered
        exact (restated first inside second otherInside).id_eq
      have unique := (Store.of_load loaded).2.keys_nodup
      refine ⟨store, rfl, ?_⟩
      rw [← List.length_map fun component : Component => component.id, ← Store.keys,
        ← List.toFinset_card_of_nodup unique, Finset.card_le_one]
      simpa only [List.mem_toFinset] using same

end SymbolEntry

/-- Every record with a valid range is stored in an empty store, as a component that comes back as
it was when it is entered anew; so does, without its neighbours, every component of a graph that
comes about by operations.  A symbol without an id gets the file of the component that it ends up as
and the name that it is known by for an id.  If another one spells the same path and is known by the
same name, then it gets the same id and repeats that component, whatever has been entered in
between; and any number of such symbols can be loaded, as one component at most. -/
theorem entered_anew_and_derived_ids :
    (∀ record : Symbol, record.startLine ≤ record.endLine →
      ∃ component, record.EntersAs component ∧ record.StoredAs component ∧
        component.toSymbol.EntersAs component) ∧
    (∀ operations, ∀ component ∈ (Graph.after operations).store.components,
      component.toSymbol.EntersAs component.bare) ∧
    (∀ entry : SymbolEntry, entry.LacksId → ∃ name, entry.KnownAs name ∧
      entry.toSymbol.id = normalPath entry.file ++ "::" ++ name ∧
      ∀ (store next : Store) (insertion : Insertion) (component : Component),
        store.insert entry.toSymbol = (next, .ok insertion) →
        insertion.component? = some component →
        entry.toSymbol.id = component.id ∧ component.id = component.file ++ "::" ++ name) ∧
    (∀ first second : SymbolEntry, second.Restates first →
      first.toSymbol.id = second.toSymbol.id ∧
      ∀ (store next : Store) (insertion : Insertion) (component : Component)
        (between : List Symbol), store.insert first.toSymbol = (next, .ok insertion) →
        insertion.component? = some component → second.startLine ≤ second.endLine →
        (next.insertMany between).store.insert second.toSymbol =
          ((next.insertMany between).store, .ok (.repeated component))) ∧
    ∀ entries : List SymbolEntry,
      (∀ first ∈ entries, ∀ second ∈ entries, second.Restates first) →
      ∃ store, (Store.load (entries.map SymbolEntry.toSymbol)).outcome = .ok store ∧
        store.components.length ≤ 1 := by
  refine ⟨?_, ?_, ?_, ?_, ?_⟩
  · intro record range
    have valid := Symbol.hasValidRange_iff.2 range
    exact ⟨record.toComponent, Store.entersAs_toComponent valid, Symbol.storedAs_of_bare rfl,
      (Store.canonical_toComponent valid).entersAs_bare⟩
  · intro operations component stored
    have wf := (Graph.wellFormed_after operations).store
    exact (wf.canonical component stored).entersAs_bare
  · intro entry lacksId
    have derived := SymbolEntry.id_toSymbol lacksId
    refine ⟨_, entry.knownAs_idName, derived, ?_⟩
    intro store next insertion component inserted ended
    obtain ⟨_, found, file⟩ := Store.get?_of_insert inserted ended
    have id := (Store.mem_of_get? found).2
    refine ⟨id.symm, ?_⟩
    rw [id, derived, file]
    rfl
  · intro first second restates
    refine ⟨restates.id_eq, ?_⟩
    intro store next insertion component between inserted ended range
    exact restates.insert_eq inserted ended range between
  · intro entries restated
    exact SymbolEntry.exists_load restated

/-- One symbol, known by a qualified name in one entry and by its plain name in the other, whose
file is spelled with a dot and a doubled slash first and with a slash at its end then. -/
def respelled : List SymbolEntry := [
  { id := none, name := "App", qualifiedName := some "App.run", kind := .method,
    file := "./src//app.py", startLine := 1, endLine := 4, visibility := .pub,
    complexity := some 2 },
  { id := some "", name := "App.run", qualifiedName := none, kind := .function,
    file := "src/./app.py/", startLine := 7, endLine := 7, visibility := .pub,
    complexity := none }]

theorem entered_anew_and_derived_ids_respelled :
    (∀ first ∈ respelled, ∀ second ∈ respelled, second.Restates first) ∧
      (∀ entry ∈ respelled, entry.toSymbol.id = "src/app.py::App.run") ∧
      ∃ store, (Store.load (respelled.map SymbolEntry.toSymbol)).outcome = .ok store ∧
        store.components.length ≤ 1 := by
  have lacksId : ∀ entry ∈ respelled, entry.LacksId := by decide
  have known : ∀ entry ∈ respelled, entry.KnownAs "App.run" := by
    intro entry member
    rcases List.mem_pair.1 member with rfl | rfl
    · exact .qualified rfl (by decide)
    · exact .plain (.inl rfl)
  have reads : ∀ entry ∈ respelled,
      SourcePath.ofString entry.file = ⟨.relative, ["src", "app.py"]⟩ := by decide +kernel
  have restated : ∀ first ∈ respelled, ∀ second ∈ respelled, second.Restates first := by
    intro first member second memberSecond
    exact ⟨lacksId second memberSecond, lacksId first member,
      ⟨_, SourcePath.spells_iff.2 (reads first member),
        SourcePath.spells_iff.2 (reads second memberSecond)⟩,
      _, known first member, known second memberSecond⟩
  exact ⟨restated, by decide +kernel, entered_anew_and_derived_ids.2.2.2.2 respelled restated⟩

end DepAtlas
