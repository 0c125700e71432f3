import DepAtlas.Component
import DepAtlas.Json.Reader
import DepAtlas.Schema
import DepAtlas.Text.Present

/-!
# Input documents

What an extractor hands over: symbols and references.  A symbol may come without an id;
its id is then derived from its file and its qualified name, or its name where it has
no qualified one.
-/

namespace DepAtlas

/-- A symbol of an input document. -/
structure SymbolEntry where
  id : Option String
  name : String
  qualifiedName : Option String
  kind : ComponentKind
  file : String
  startLine : Int
  endLine : Int
  visibility : Visibility
  complexity : Option Int
  deriving DecidableEq, Repr

namespace SymbolEntry

/-- The name that a derived id ends in. -/
def idName (entry : SymbolEntry) : String :=
  (Text.present entry.qualifiedName).getD entry.name

/-- The record of a symbol.  Its file is kept as written. -/
def toSymbol (entry : SymbolEntry) : Symbol where
  id := (Text.present entry.id).getD (derivedId entry.file entry.idName)
  name := entry.name
  kind := entry.kind
  file := entry.file
  startLine := entry.startLine
  endLine := entry.endLine
  visibility := entry.visibility
  complexity := some (entry.complexity.getD 0)

/-- Read a symbol; `refusal` is the mistake of a value that is no object. -/
def read (refusal : Mistake) : Json → Checked SymbolEntry :=
  Schema.object refusal fun fields =>
    SymbolEntry.mk
      <$> Schema.optional fields "id" none (Schema.nullable Schema.text)
      <*> Schema.required fields "name" Schema.text
      <*> Schema.optional fields "qualified_name" none (Schema.nullable Schema.text)
      <*> Schema.optional fields "kind" .function (Schema.named ComponentKind.family)
      <*> Schema.required fields "file_path" Schema.text
      <*> Schema.optional fields "start_line" 1 Schema.integer
      <*> Schema.optional fields "end_line" 1 Schema.integer
      <*> Schema.optional fields "visibility" .pub (Schema.named Visibility.family)
      <*> Schema.optional fields "complexity_score" (some 0) (Schema.nullable Schema.integer)

end SymbolEntry

/-- Read a reference of an input document. -/
def Reference.readInput (refusal : Mistake) : Json → Checked Reference :=
  Schema.object refusal fun fields =>
    Reference.mk
      <$> Schema.required fields "from_id" Schema.text
      <*> Schema.required fields "to_id" Schema.text
      <*> Schema.optional fields "edge_type" .call (Schema.named EdgeType.family)

/-- An input document. -/
structure InputDocument where
  symbols : List SymbolEntry
  references : List Reference
  deriving DecidableEq, Repr

namespace InputDocument

/-- The records of all symbols. -/
def records (document : InputDocument) : List Symbol :=
  document.symbols.map SymbolEntry.toSymbol

/-- Read the two lists of a document. -/
def readFields (refusal : Mistake) (fields : List (String × Json)) : Checked InputDocument :=
  InputDocument.mk
    <$> Schema.optional fields "symbols" [] (Schema.list (SymbolEntry.read refusal))
    <*> Schema.optional fields "references" [] (Schema.list (Reference.readInput refusal))

/-- Read a document. -/
def ofJson (value : Json) : Except (List Issue) InputDocument :=
  (Schema.object .notObject (readFields .notObject) value).toExcept

/-- Read a document from its text. -/
def ofText (text : String) : Except (List Issue) InputDocument :=
  match Json.read? text with
  | some value => ofJson value
  | none => .error [⟨.notJson, []⟩]

end InputDocument

/-- Why a file is no input document. -/
inductive FileFault where
  /-- The bytes are not UTF-8. -/
  | notUtf8
  | invalid (issues : List Issue)
  deriving DecidableEq, Repr

/-- Read a document from the bytes of a file. -/
def InputDocument.ofBytes (bytes : ByteArray) : Except FileFault InputDocument :=
  match String.fromUTF8? bytes with
  | none => .error .notUtf8
  | some text =>
      match ofText text with
      | .ok document => .ok document
      | .error issues => .error (.invalid issues)

end DepAtlas
