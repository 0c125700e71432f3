import DepAtlas.Naming
import DepAtlas.SourcePath

/-!
# Components and references

A symbol is a record of what an extractor reports about one part of a code base.  A
component is a symbol taken into a store: its path is in normal form, its complexity is
not negative, and it carries the ids of its neighbours in the dependency graph.  A
reference says that one symbol uses another.
-/

namespace DepAtlas

/-- Components refer to each other by id. -/
abbrev ComponentId := String

/-- What sort of thing a component is. -/
inductive ComponentKind where
  | function
  | method
  | type
  | module
  | interface
  deriving DecidableEq, Repr

/-- Who may use a component. -/
inductive Visibility where
  | pub
  | priv
  | prot
  | internal
  deriving DecidableEq, Repr

/-- How one component uses another. -/
inductive EdgeType where
  | call
  | inheritance
  | importing
  | fieldAccess
  | methodCall
  deriving DecidableEq, Repr

namespace ComponentKind

/-- The name that a kind is written by. -/
def name : ComponentKind → String
  | .function => "function"
  | .method => "method"
  | .type => "type"
  | .module => "module"
  | .interface => "interface"

/-- The kind that a name stands for, in any case.  Extractors name types and interfaces
after the language they read. -/
def ofName? (name : String) : Option ComponentKind :=
  match name.map Char.toLower with
  | "function" => some .function
  | "method" => some .method
  | "type" | "class" | "struct" | "enum" => some .type
  | "module" => some .module
  | "interface" | "trait" | "protocol" => some .interface
  | _ => none

/-- The family of kind names. -/
def family : NameFamily ComponentKind := ⟨"ComponentKind", ofName?⟩

/-- The short tag of a kind in listings. -/
def tag : ComponentKind → String
  | .function | .method => "fn"
  | .type => "type"
  | .module => "mod"
  | .interface => "iface"

end ComponentKind

namespace Visibility

/-- The name that a visibility is written by. -/
def name : Visibility → String
  | .pub => "public"
  | .priv => "private"
  | .prot => "protected"
  | .internal => "internal"

/-- The visibility that a name stands for, in any case. -/
def ofName? (name : String) : Option Visibility :=
  match name.map Char.toLower with
  | "public" => some .pub
  | "private" => some .priv
  | "protected" => some .prot
  | "internal" => some .internal
  | _ => none

/-- The family of visibility names. -/
def family : NameFamily Visibility := ⟨"Visibility", ofName?⟩

end Visibility

namespace EdgeType

/-- The name that an edge type is written by. -/
def name : EdgeType → String
  | .call => "call"
  | .inheritance => "inheritance"
  | .importing => "import"
  | .fieldAccess => "field_access"
  | .methodCall => "method_call"

/-- A name without the differences of spelling: lower case, no underscores, no hyphens. -/
def plain (name : String) : String :=
  String.ofList ((name.toList.map Char.toLower).filter fun c => c != '_' && c != '-')

/-- The edge type that a name stands for, in any of its spellings. -/
def ofName? (name : String) : Option EdgeType :=
  match plain name with
  | "call" | "functioncall" => some .call
  | "inheritance" | "classinheritance" => some .inheritance
  | "import" | "moduleimport" => some .importing
  | "fieldaccess" => some .fieldAccess
  | "methodcall" => some .methodCall
  | _ => none

/-- The family of edge type names. -/
def family : NameFamily EdgeType := ⟨"EdgeType", ofName?⟩

end EdgeType

theorem ComponentKind.ofName?_name (kind : ComponentKind) : ofName? kind.name = some kind := by
  cases kind <;> decide +kernel

theorem Visibility.ofName?_name (visibility : Visibility) :
    ofName? visibility.name = some visibility := by
  cases visibility <;> decide +kernel

theorem EdgeType.ofName?_name (type : EdgeType) : ofName? type.name = some type := by
  cases type <;> decide +kernel

/-- The record of a symbol, as an extractor reports it. -/
structure Symbol where
  id : ComponentId
  name : String
  kind : ComponentKind := .function
  file : String
  startLine : Int
  endLine : Int
  visibility : Visibility := .pub
  /-- The measured complexity, if there is a measurement. -/
  complexity : Option Int := some 0
  deriving DecidableEq, Repr

/-- A use of one symbol by another, as an extractor reports it; between two stored
components it is an edge of the dependency graph. -/
structure Reference where
  source : ComponentId
  target : ComponentId
  type : EdgeType := .call
  deriving DecidableEq, Repr

/-- A stored symbol with its neighbours. -/
structure Component where
  id : ComponentId
  name : String
  kind : ComponentKind
  file : String
  startLine : Int
  endLine : Int
  visibility : Visibility
  complexity : Int
  /-- The ids that this component depends on, in the order in which they came up. -/
  dependencies : List ComponentId
  /-- The ids that depend on this component, in the order in which they came up. -/
  dependents : List ComponentId
  deriving DecidableEq, Repr

/-- The id of a symbol that has none of its own: its file and its qualified name. -/
def derivedId (file qualifiedName : String) : ComponentId :=
  s!"{normalPath file}::{qualifiedName}"

namespace Symbol

/-- A record may be stored when its last line does not precede its first. -/
def hasValidRange (record : Symbol) : Bool :=
  decide (record.startLine ≤ record.endLine)

/-- The component that a record describes, before it has any neighbours.  A missing or
negative complexity counts as zero. -/
def toComponent (record : Symbol) : Component where
  id := record.id
  name := record.name
  kind := record.kind
  file := normalPath record.file
  startLine := record.startLine
  endLine := record.endLine
  visibility := record.visibility
  complexity := max 0 (record.complexity.getD 0)
  dependencies := []
  dependents := []

end Symbol

/-- The record that describes a component. -/
def Component.toSymbol (component : Component) : Symbol where
  id := component.id
  name := component.name
  kind := component.kind
  file := component.file
  startLine := component.startLine
  endLine := component.endLine
  visibility := component.visibility
  complexity := some component.complexity

end DepAtlas
