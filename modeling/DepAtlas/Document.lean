import DepAtlas.Analysis
import DepAtlas.Json.Reader
import DepAtlas.Json.Spelled
import DepAtlas.Json.Writer
import DepAtlas.Schema
import DepAtlas.Text.Quoted

/-!
# Result documents

The written form of an analysis.  A document carries the components, edges, audit lists
and limits of an analysis together with everything that was computed from them.  Reading
a document checks its shape only; whether the computed parts agree with the graph is the
matter of rebuilding it.
-/

namespace DepAtlas

/-- A rejected record as documents write it: its complexity is always a number. -/
structure RejectedEntry where
  id : ComponentId
  name : String
  kind : ComponentKind
  visibility : Visibility
  file : String
  startLine : Int
  endLine : Int
  complexity : Int
  deriving DecidableEq, Repr

/-- The ranking limits that a document was made with. -/
structure LimitsEntry where
  mostConnected : Int := 10
  hotspots : Int := 10
  complexFiles : Int := 10
  one_le_mostConnected : 1 ≤ mostConnected := by exact one_le_ten
  one_le_hotspots : 1 ≤ hotspots := by exact one_le_ten
  one_le_complexFiles : 1 ≤ complexFiles := by exact one_le_ten
  deriving Repr

theorem LimitsEntry.eq_iff {a b : LimitsEntry} :
    a = b ↔ a.mostConnected = b.mostConnected ∧ a.hotspots = b.hotspots ∧
      a.complexFiles = b.complexFiles := by
  cases a
  cases b
  simp

instance : DecidableEq LimitsEntry := fun _ _ => decidable_of_iff _ LimitsEntry.eq_iff.symm

/-- A result document. -/
structure Document where
  totalComponents : Int
  totalFiles : Int
  totalEdges : Int
  components : List Component
  edges : List Reference
  cycles : List (List ComponentId)
  cyclesPresent : Bool
  entryPoints : List ComponentId
  mostConnected : List ComponentId
  hotspots : List ComponentId
  complexFiles : List String
  layers : List Layer
  order : List ComponentId
  dangling : List DanglingReference
  rejected : List RejectedEntry
  limits : LimitsEntry
  deriving DecidableEq, Repr

/-! ## From an analysis -/

/-- A rejected record as it is written; a record without a complexity cannot be. -/
def Symbol.toRejectedEntry (record : Symbol) : Checked RejectedEntry :=
  match record.complexity with
  | some complexity => .ok {
      id := record.id
      name := record.name
      kind := record.kind
      visibility := record.visibility
      file := record.file
      startLine := record.startLine
      endLine := record.endLine
      complexity }
  | none => (Checked.mistake .notInteger).under (.field "complexity_score")

/-- The record that an entry was written from. -/
def RejectedEntry.toSymbol (entry : RejectedEntry) : Symbol where
  id := entry.id
  name := entry.name
  kind := entry.kind
  file := entry.file
  startLine := entry.startLine
  endLine := entry.endLine
  visibility := entry.visibility
  complexity := some entry.complexity

/-- The ranking limits of some settings. -/
def Settings.limits (settings : Settings) : LimitsEntry where
  mostConnected := settings.mostConnected
  hotspots := settings.hotspots
  complexFiles := settings.complexFiles
  one_le_mostConnected := settings.one_le_mostConnected
  one_le_hotspots := settings.one_le_hotspots
  one_le_complexFiles := settings.one_le_complexFiles

/-- The settings with some ranking limits and the usual previews. -/
def LimitsEntry.settings (limits : LimitsEntry) : Settings where
  mostConnected := limits.mostConnected
  hotspots := limits.hotspots
  complexFiles := limits.complexFiles
  one_le_mostConnected := limits.one_le_mostConnected
  one_le_hotspots := limits.one_le_hotspots
  one_le_complexFiles := limits.one_le_complexFiles

/-- The first failure, or all values. -/
def Checked.all {α : Type} : List (Checked α) → Checked (List α)
  | [] => .ok []
  | .ok value :: rest => (Checked.all rest).map (value :: ·)
  | .bad issues :: _ => .bad issues

/-- The document of an analysis.  Its components stand in ascending order of id. -/
def Analysis.document (analysis : Analysis) : Checked Document :=
  (Checked.all (analysis.rejected.map (·.toRejectedEntry))).map fun rejected => {
    totalComponents := analysis.overview.totalComponents
    totalFiles := analysis.overview.totalFiles
    totalEdges := analysis.overview.totalEdges
    components := analysis.graph.store.ids.filterMap analysis.graph.store.get?
    edges := analysis.graph.edges
    cycles := analysis.graph.cycles
    cyclesPresent := analysis.order.cyclesPresent
    entryPoints := analysis.overview.entryPoints
    mostConnected := analysis.overview.mostConnected
    hotspots := analysis.overview.hotspots
    complexFiles := analysis.overview.complexFiles
    layers := analysis.overview.layers
    order := analysis.order.order
    dangling := analysis.dangling
    rejected
    limits := analysis.settings.limits }

/-! ## To JSON -/

/-- A component in JSON. -/
def Component.toJson (component : Component) : Json :=
  .object [
    ("id", .text component.id),
    ("name", .text component.name),
    ("kind", .text component.kind.name),
    ("visibility", .text component.visibility.name),
    ("file_path", .text component.file),
    ("start_line", .int component.startLine),
    ("end_line", .int component.endLine),
    ("complexity_score", .int component.complexity),
    ("dependencies", .texts component.dependencies),
    ("dependents", .texts component.dependents)]

/-- The fields of a reference in JSON. -/
def Reference.toFields (reference : Reference) : List (String × Json) :=
  [ ("from_id", .text reference.source),
    ("to_id", .text reference.target),
    ("edge_type", .text reference.type.name)]

/-- A layer in JSON. -/
def Layer.toJson (layer : Layer) : Json :=
  .object [
    ("name", .text layer.name),
    ("files", .texts layer.files),
    ("description", .text layer.description)]

/-- A dangling reference in JSON. -/
def DanglingReference.toJson (dangling : DanglingReference) : Json :=
  .object (dangling.reference.toFields ++ [("missing_id", .text dangling.missing)])

/-- A rejected record in JSON. -/
def RejectedEntry.toJson (entry : RejectedEntry) : Json :=
  .object [
    ("id", .text entry.id),
    ("name", .text entry.name),
    ("kind", .text entry.kind.name),
    ("visibility", .text entry.visibility.name),
    ("file_path", .text entry.file),
    ("start_line", .int entry.startLine),
    ("end_line", .int entry.endLine),
    ("complexity_score", .int entry.complexity)]

/-- Ranking limits in JSON. -/
def LimitsEntry.toJson (limits : LimitsEntry) : Json :=
  .object [
    ("most_connected", .int limits.mostConnected),
    ("hotspots", .int limits.hotspots),
    ("complex_files", .int limits.complexFiles)]

namespace Document

/-- The fields of a document in JSON. -/
def toFields (document : Document) : List (String × Json) :=
  [ ("total_components", .int document.totalComponents),
    ("total_files", .int document.totalFiles),
    ("total_edges", .int document.totalEdges),
    ("components", .array (document.components.map Component.toJson)),
    ("edges", .array (document.edges.map fun edge => .object edge.toFields)),
    ("cycles", .array (document.cycles.map .texts)),
    ("cycles_present", .bool document.cyclesPresent),
    ("entry_points", .texts document.entryPoints),
    ("most_connected_components", .texts document.mostConnected),
    ("dependency_hotspots", .texts document.hotspots),
    ("most_complex_files", .texts document.complexFiles),
    ("architectural_layers", .array (document.layers.map Layer.toJson)),
    ("processing_order", .texts document.order),
    ("unresolved_references", .array (document.dangling.map DanglingReference.toJson)),
    ("rejected_symbols", .array (document.rejected.map RejectedEntry.toJson)),
    ("limits", document.limits.toJson)]

/-- A document in JSON. -/
def toJson (document : Document) : Json :=
  .object document.toFields

/-- The text of a document, one item a line if an indentation is given. -/
def toText (document : Document) (indent : Option Nat) : String :=
  Json.write { indent } document.toJson

/-- The text of a document whose texts are spelled out, or why there is none: one of them is
uneven. -/
def written (document : Document) (indent : Option Nat) : Except String String :=
  match document.toJson.uneven? with
  | none => .ok (document.toText indent)
  | some text => .error s!"Error serializing to JSON: {Text.encodingMessage text}"

theorem written_eq_ok_iff {document : Document} {indent : Option Nat} {text : String} :
    document.written indent = .ok text ↔
      (∀ inside ∈ document.toJson.textsIn, Text.isUneven inside = false) ∧
        document.toText indent = text := by
  rw [written, ← Json.uneven?_eq_none_iff]
  cases document.toJson.uneven? <;> simp

end Document

/-! ## From JSON -/

/-- Read a component of a document. -/
def Component.read : Json → Checked Component :=
  Schema.object .notObject fun fields =>
    (fun id name kind visibility file startLine endLine complexity dependencies dependents =>
        { id, name, kind, visibility, file, startLine, endLine, complexity, dependencies,
          dependents })
      <$> Schema.required fields "id" Schema.text
      <*> Schema.required fields "name" Schema.text
      <*> Schema.required fields "kind" (Schema.member ComponentKind.family)
      <*> Schema.required fields "visibility" (Schema.member Visibility.family)
      <*> Schema.required fields "file_path" Schema.text
      <*> Schema.required fields "start_line" Schema.integer
      <*> Schema.required fields "end_line" Schema.integer
      <*> Schema.optional fields "complexity_score" 0 Schema.integer
      <*> Schema.optional fields "dependencies" [] (Schema.list Schema.text)
      <*> Schema.optional fields "dependents" [] (Schema.list Schema.text)

/-- Read the fields of an edge of a document. -/
def Reference.readFields (fields : List (String × Json)) : Checked Reference :=
  Reference.mk
    <$> Schema.required fields "from_id" Schema.text
    <*> Schema.required fields "to_id" Schema.text
    <*> Schema.required fields "edge_type" (Schema.member EdgeType.family)

/-- Read a layer of a document. -/
def Layer.read : Json → Checked Layer :=
  Schema.object .notObject fun fields =>
    Layer.mk
      <$> Schema.required fields "name" Schema.text
      <*> Schema.optional fields "files" [] (Schema.list Schema.text)
      <*> Schema.optional fields "description" "" Schema.text

/-- Read a dangling reference of a document. -/
def DanglingReference.read : Json → Checked DanglingReference :=
  Schema.object .notObject fun fields =>
    DanglingReference.mk
      <$> Reference.readFields fields
      <*> Schema.required fields "missing_id" Schema.text

/-- Read a rejected record of a document. -/
def RejectedEntry.read : Json → Checked RejectedEntry :=
  Schema.object .notObject fun fields =>
    RejectedEntry.mk
      <$> Schema.required fields "id" Schema.text
      <*> Schema.required fields "name" Schema.text
      <*> Schema.required fields "kind" (Schema.member ComponentKind.family)
      <*> Schema.required fields "visibility" (Schema.member Visibility.family)
      <*> Schema.required fields "file_path" Schema.text
      <*> Schema.required fields "start_line" Schema.integer
      <*> Schema.required fields "end_line" Schema.integer
      <*> Schema.optional fields "complexity_score" 0 Schema.integer

/-- Read the ranking limits of a document. -/
def LimitsEntry.read : Json → Checked LimitsEntry :=
  Schema.object .notObject fun fields =>
    (fun (mostConnected hotspots complexFiles : { n : Int // 1 ≤ n }) =>
        ⟨mostConnected, hotspots, complexFiles, mostConnected.2, hotspots.2, complexFiles.2⟩)
      <$> Schema.optional fields "most_connected" ⟨10, one_le_ten⟩ Schema.positive
      <*> Schema.optional fields "hotspots" ⟨10, one_le_ten⟩ Schema.positive
      <*> Schema.optional fields "complex_files" ⟨10, one_le_ten⟩ Schema.positive

namespace Document

/-- Read the fields of a document. -/
def readFields (fields : List (String × Json)) : Checked Document :=
  Document.mk
    <$> Schema.optional fields "total_components" 0 Schema.integer
    <*> Schema.optional fields "total_files" 0 Schema.integer
    <*> Schema.optional fields "total_edges" 0 Schema.integer
    <*> Schema.optional fields "components" [] (Schema.list Component.read)
    <*> Schema.optional fields "edges" []
      (Schema.list (Schema.object .notObject Reference.readFields))
    <*> Schema.optional fields "cycles" [] (Schema.list (Schema.list Schema.text))
    <*> Schema.optional fields "cycles_present" false Schema.boolean
    <*> Schema.optional fields "entry_points" [] (Schema.list Schema.text)
    <*> Schema.optional fields "most_connected_components" [] (Schema.list Schema.text)
    <*> Schema.optional fields "dependency_hotspots" [] (Schema.list Schema.text)
    <*> Schema.optional fields "most_complex_files" [] (Schema.list Schema.text)
    <*> Schema.optional fields "architectural_layers" [] (Schema.list Layer.read)
    <*> Schema.optional fields "processing_order" [] (Schema.list Schema.text)
    <*> Schema.optional fields "unresolved_references" [] (Schema.list DanglingReference.read)
    <*> Schema.optional fields "rejected_symbols" [] (Schema.list RejectedEntry.read)
    <*> Schema.optional fields "limits" {} LimitsEntry.read

/-- Read a document. -/
def ofJson (value : Json) : Except (List Issue) Document :=
  (Schema.object .notObject readFields value).toExcept

/-- Read a document from a text within some bounds. -/
def ofTextWithin (bounds : Json.Bounds) (text : String) : Except (List Issue) Document :=
  match Json.ofText? bounds text with
  | some value => ofJson value
  | none => .error [⟨.notJson, []⟩]

/-- Read a document from its text. -/
def ofText (text : String) : Except (List Issue) Document :=
  ofTextWithin Json.documentBounds text

end Document

end DepAtlas
