import DepAtlas.Document
import DepAtlas.Proofs.Json.Reading

/-!
# Documents as JSON

A document that is put into JSON is read back as it was: every field is found under its name,
and every part reads as what it was written from.  The same holds for the text of a document,
whatever its indentation, if the reader takes integers of the size that the document has.
-/

namespace DepAtlas

/-! ## Reading parts back -/

namespace Checked

variable {α β : Type}

@[simp] theorem map_ok (f : α → β) (value : α) : f <$> (.ok value : Checked α) = .ok (f value) :=
  rfl

@[simp] theorem seq_ok (f : α → β) (value : α) :
    (.ok f : Checked (α → β)) <*> .ok value = .ok (f value) :=
  rfl

@[simp] theorem under_ok (step : Step) (value : α) :
    (.ok value : Checked α).under step = .ok value :=
  rfl

end Checked

namespace Schema

variable {α : Type}

@[simp] theorem text_text (value : String) : text (.text value) = .ok value := rfl

@[simp] theorem integer_int (value : Int) : integer (.int value) = .ok value := rfl

@[simp] theorem boolean_bool (value : Bool) : boolean (.bool value) = .ok value := rfl

theorem list_map {read : Json → Checked α} {write : α → Json}
    (law : ∀ item, read (write item) = .ok item) (items : List α) :
    list read (.array (items.map write)) = .ok items := by
  have behind : ∀ position, itemsFrom read position (items.map write) = .ok items := by
    induction items with
    | nil => exact fun _ => rfl
    | cons item items ih =>
        intro position
        rw [List.map_cons, itemsFrom, law, ih]
        rfl
  exact behind 0

@[simp] theorem list_texts (items : List String) : list text (Json.texts items) = .ok items :=
  list_map text_text items

theorem positive_int {n : Int} (positive : 1 ≤ n) :
    Schema.positive (.int n) = .ok ⟨n, positive⟩ := by
  simp [Schema.positive, positive]

@[simp] theorem member_kind (kind : ComponentKind) :
    member ComponentKind.family (.text kind.name) = .ok kind := by
  simp [member, ComponentKind.family, ComponentKind.ofName?_name]

@[simp] theorem member_visibility (visibility : Visibility) :
    member Visibility.family (.text visibility.name) = .ok visibility := by
  simp [member, Visibility.family, Visibility.ofName?_name]

@[simp] theorem member_type (type : EdgeType) :
    member EdgeType.family (.text type.name) = .ok type := by
  simp [member, EdgeType.family, EdgeType.ofName?_name]

end Schema

theorem Component.read_toJson (component : Component) :
    Component.read component.toJson = .ok component := by
  simp [Component.toJson, Component.read, Schema.object, Schema.required, Schema.optional,
    Json.field?]

theorem Reference.readFields_toFields (reference : Reference) :
    Reference.readFields reference.toFields = .ok reference := by
  simp [Reference.toFields, Reference.readFields, Schema.required, Json.field?]

theorem Layer.read_toJson (layer : Layer) : Layer.read layer.toJson = .ok layer := by
  simp [Layer.toJson, Layer.read, Schema.object, Schema.required, Schema.optional, Json.field?]

theorem DanglingReference.read_toJson (dangling : DanglingReference) :
    DanglingReference.read dangling.toJson = .ok dangling := by
  simp [DanglingReference.toJson, DanglingReference.read, Reference.toFields,
    Reference.readFields, Schema.object, Schema.required, Json.field?]

theorem RejectedEntry.read_toJson (entry : RejectedEntry) :
    RejectedEntry.read entry.toJson = .ok entry := by
  simp [RejectedEntry.toJson, RejectedEntry.read, Schema.object, Schema.required,
    Schema.optional, Json.field?]

theorem LimitsEntry.read_toJson (limits : LimitsEntry) :
    LimitsEntry.read limits.toJson = .ok limits := by
  simp [LimitsEntry.toJson, LimitsEntry.read, Schema.object, Schema.optional, Json.field?,
    Schema.positive_int limits.one_le_mostConnected, Schema.positive_int limits.one_le_hotspots,
    Schema.positive_int limits.one_le_complexFiles]

namespace Document

/-- A document that is put into JSON is read back. -/
theorem ofJson_toJson (document : Document) : ofJson document.toJson = .ok document := by
  have components := Schema.list_map Component.read_toJson document.components
  have edges : Schema.list (Schema.object .notObject Reference.readFields)
      (.array (document.edges.map fun edge => .object edge.toFields)) = .ok document.edges :=
    Schema.list_map Reference.readFields_toFields document.edges
  have cycles := Schema.list_map Schema.list_texts document.cycles
  have layers := Schema.list_map Layer.read_toJson document.layers
  have dangling := Schema.list_map DanglingReference.read_toJson document.dangling
  have rejected := Schema.list_map RejectedEntry.read_toJson document.rejected
  have limits := LimitsEntry.read_toJson document.limits
  simp [toJson, toFields, ofJson, readFields, Schema.object, Schema.optional, Json.field?,
    components, edges, cycles, layers, dangling, rejected, limits, Checked.toExcept]

end Document

/-! ## Integers -/

/-- The integers that a component is written with. -/
def Component.integers (component : Component) : List Int :=
  [component.startLine, component.endLine, component.complexity]

/-- The integers that a rejected record is written with. -/
def RejectedEntry.integers (entry : RejectedEntry) : List Int :=
  [entry.startLine, entry.endLine, entry.complexity]

/-- The integers that ranking limits are written with. -/
def LimitsEntry.integers (limits : LimitsEntry) : List Int :=
  [limits.mostConnected, limits.hotspots, limits.complexFiles]

/-- The integers that a document is written with. -/
def Document.integers (document : Document) : List Int :=
  [document.totalComponents, document.totalFiles, document.totalEdges] ++
    document.components.flatMap Component.integers ++
    document.rejected.flatMap RejectedEntry.integers ++ document.limits.integers

section Readable

open Json

variable {bounds : Bounds} {levels : Nat}

theorem Component.readable_toJson (room : 2 ≤ levels) {component : Component}
    (taken : ∀ n ∈ component.integers, bounds.takes n) :
    Readable bounds levels component.toJson := by
  have lists : ∀ ids, Readable bounds (levels - 1) (texts ids) := readable_texts (by omega)
  refine readable_object.2 ⟨by omega, ?_⟩
  simpa [lists, integers] using taken

theorem Layer.readable_toJson (room : 2 ≤ levels) (layer : Layer) :
    Readable bounds levels layer.toJson := by
  have lists : ∀ ids, Readable bounds (levels - 1) (texts ids) := readable_texts (by omega)
  refine readable_object.2 ⟨by omega, ?_⟩
  simp [lists]

theorem Reference.readable_toFields (room : 1 ≤ levels) (reference : Reference) :
    Readable bounds levels (.object reference.toFields) := by
  refine readable_object.2 ⟨by omega, ?_⟩
  simp [toFields]

theorem DanglingReference.readable_toJson (room : 1 ≤ levels) (dangling : DanglingReference) :
    Readable bounds levels dangling.toJson := by
  refine readable_object.2 ⟨by omega, ?_⟩
  simp [Reference.toFields]

theorem RejectedEntry.readable_toJson (room : 1 ≤ levels) {entry : RejectedEntry}
    (taken : ∀ n ∈ entry.integers, bounds.takes n) : Readable bounds levels entry.toJson := by
  refine readable_object.2 ⟨by omega, ?_⟩
  simpa [integers] using taken

theorem LimitsEntry.readable_toJson (room : 1 ≤ levels) {limits : LimitsEntry}
    (taken : ∀ n ∈ limits.integers, bounds.takes n) : Readable bounds levels limits.toJson := by
  refine readable_object.2 ⟨by omega, ?_⟩
  simpa [integers] using taken

/-- The JSON of a document is nested four levels deep. -/
theorem Document.readable_toJson (room : 4 ≤ levels) {document : Document}
    (taken : ∀ n ∈ document.integers, bounds.takes n) : Readable bounds levels document.toJson := by
  have lists : ∀ ids, Readable bounds (levels - 1) (texts ids) := readable_texts (by omega)
  have components : Readable bounds (levels - 1)
      (.array (document.components.map Component.toJson)) := by
    apply readable_map (by omega)
    intro component member
    apply Component.readable_toJson (by omega)
    intro n inside
    have listed := List.mem_flatMap_of_mem member inside
    exact taken n (by simp [integers, listed])
  have edges : Readable bounds (levels - 1)
      (.array (document.edges.map fun edge => .object edge.toFields)) :=
    readable_map (by omega) fun edge _ => edge.readable_toFields (by omega)
  have cycles : Readable bounds (levels - 1) (.array (document.cycles.map .texts)) :=
    readable_map (by omega) fun members _ => readable_texts (by omega) members
  have layers : Readable bounds (levels - 1) (.array (document.layers.map Layer.toJson)) :=
    readable_map (by omega) fun layer _ => layer.readable_toJson (by omega)
  have dangling : Readable bounds (levels - 1)
      (.array (document.dangling.map DanglingReference.toJson)) :=
    readable_map (by omega) fun reference _ => reference.readable_toJson (by omega)
  have rejected : Readable bounds (levels - 1)
      (.array (document.rejected.map RejectedEntry.toJson)) := by
    apply readable_map (by omega)
    intro entry member
    apply RejectedEntry.readable_toJson (by omega)
    intro n inside
    have listed := List.mem_flatMap_of_mem member inside
    exact taken n (by simp [integers, listed])
  have limits : Readable bounds (levels - 1) document.limits.toJson := by
    apply LimitsEntry.readable_toJson (by omega)
    intro n inside
    exact taken n (by simp [integers, inside])
  have totals : bounds.takes document.totalComponents ∧ bounds.takes document.totalFiles ∧
      bounds.takes document.totalEdges :=
    ⟨taken _ (by simp [integers]), taken _ (by simp [integers]), taken _ (by simp [integers])⟩
  refine readable_object.2 ⟨by omega, ?_⟩
  simp [toFields, lists, components, edges, cycles, layers, dangling, rejected, limits, totals]

end Readable

namespace Document

/-- A document is read back from its text, if its integers are of a size that is taken. -/
theorem ofTextWithin_toText {bounds : Json.Bounds} (deep : 4 ≤ bounds.depth)
    (even : bounds.unevenTexts = false) {document : Document}
    (taken : ∀ n ∈ document.integers, bounds.takes n) (indent : Option Nat) :
    ofTextWithin bounds (document.toText indent) = .ok document := by
  have whole : Json.read bounds (Text.spelled (document.toText indent)).toList =
      .ok document.toJson :=
    Json.read_write rfl rfl even (readable_toJson deep taken)
  rw [ofTextWithin, Json.ofText?, whole]
  exact ofJson_toJson document

end Document

end DepAtlas
