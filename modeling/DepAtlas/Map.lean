import DepAtlas.Analysis
import DepAtlas.Text.Numeral
import DepAtlas.Text.Present

/-!
# The repository map

A plain text for people: the totals of an analysis, a component in focus, the structure
by files, entry points, key components, cycles and, if wanted, the processing order and
the edges.  Long listings show their beginning and say how much is left out.

A map is a list of lines.  Every line that names a component by id looks the component
up in the store.  Limits may be negative, and have any size; a number of more digits than
are read is not written either.
-/

namespace DepAtlas

/-- What a map shows besides the usual sections. -/
structure MapOptions where
  /-- Where the code base is found. -/
  repository : Option String := none
  /-- The id or name of a component to show in detail. -/
  focus : Option String := none
  showOrder : Bool := false
  showDependencies : Bool := false
  deriving DecidableEq, Repr

/-- The entry of a component in the listing of its file. -/
def Component.listing (component : Component) : String :=
  let visibility := if component.visibility = .pub then "pub " else ""
  let dependencies := component.dependencies.length
  let dependents := component.dependents.length
  s!"{visibility}{component.kind.tag} {component.name} ({dependencies}→{dependents})"

/-- A component with its file. -/
def Component.located (component : Component) : String :=
  s!"{component.name} ({component.file})"

/-- Lines with their numbers, beginning with one. -/
def numbered (lines : List String) : List String :=
  lines.zipIdx.map fun (line, position) => s!"  {position + 1}. {line}"

/-- The line that says how many entries of a listing are left out, if any are. -/
def leftOutLine (count : Nat) (limit : Int) : Except Fault (List String) :=
  if limit < count then
    let leftOut := (count : Int) - limit
    if leftOut < Nat.pow 10 Text.maxDigits then .ok [s!"  ... and {leftOut} more"]
    else .error .oversizedNumber
  else .ok []

namespace Analysis

/-- The names of components that are given by id. -/
def namesOf (analysis : Analysis) (ids : List ComponentId) : Except Fault (List String) :=
  ids.mapM fun id => (analysis.graph.store.get id).map (·.name)

/-- The names and files of components that are given by id. -/
def locatedOf (analysis : Analysis) (ids : List ComponentId) : Except Fault (List String) :=
  ids.mapM fun id => (analysis.graph.store.get id).map (·.located)

/-- The totals of an analysis. -/
def totalLines (analysis : Analysis) : List String :=
  let components := analysis.overview.totalComponents
  let entryPoints := analysis.overview.entryPoints.length
  let cycles := analysis.graph.cycles.length
  [s!"{components} components, {entryPoints} entry points, {cycles} cycles"] ++
    (if analysis.dangling.isEmpty then []
      else [s!"{analysis.dangling.length} unresolved reference(s) dropped"]) ++
    (if analysis.rejected.isEmpty then []
      else [s!"{analysis.rejected.length} symbol(s) rejected for invalid line ranges"]) ++
    [""]

/-- A list of neighbours under a heading; nothing where there are none. -/
def neighbourLines (analysis : Analysis) (heading arrow : String) (ids : List ComponentId) :
    Except Fault (List String) := do
  let neighbours ← analysis.locatedOf ids
  return if ids.isEmpty then []
    else [heading] ++ neighbours.map (fun neighbour => s!"  {arrow} {neighbour}") ++ [""]

/-- The section of the component in focus. -/
def focusLines (analysis : Analysis) (focus : String) : Except Fault (List String) :=
  match analysis.resolve? focus with
  | none => .ok [s!"Component '{focus}' not found", ""]
  | some component => do
      let dependencies ← analysis.neighbourLines "Depends on:" "→" component.dependencies
      let dependents ← analysis.neighbourLines "Used by:" "←" component.dependents
      let dependencyCount := component.dependencies.length
      let dependentCount := component.dependents.length
      return [
        s!"Focus: {component.name}",
        s!"   Type: {component.kind.name} | Visibility: {component.visibility.name}",
        s!"   File: {component.file}",
        s!"   Dependencies: {dependencyCount} | Used by: {dependentCount}",
        ""] ++ dependencies ++ dependents

/-- Components in the order of a file's listing: by first line, then by name. -/
def listedBefore (a b : Component) : Bool :=
  if a.startLine ≠ b.startLine then decide (a.startLine ≤ b.startLine)
  else decide (a.name ≤ b.name)

/-- The components of a file as they are listed; equal ones stay in the order in which they
are given. -/
def fileListing (components : List Component) (file : String) : List Component :=
  (components.filter fun component => component.file = file).mergeSort listedBefore

/-- The stored components by ascending id. -/
def componentsById (analysis : Analysis) : List Component :=
  analysis.graph.store.ids.filterMap analysis.graph.store.get?

/-- The section that lists all components by file. -/
def structureLines (analysis : Analysis) : List String :=
  let components := analysis.componentsById
  "Structure:" ::
    (ascending analysis.graph.store.files).flatMap (fun file =>
      s!"  {file}" :: (fileListing components file).map fun component =>
        s!"    {component.listing}") ++
    [""]

/-- The section of the entry points. -/
def entryPointLines (analysis : Analysis) : Except Fault (List String) := do
  let entryPoints ← analysis.locatedOf analysis.overview.entryPoints
  return if entryPoints.isEmpty then []
    else ["Entry Points:"] ++ entryPoints.map (fun entry => s!"  {entry}") ++ [""]

/-- The section of the best connected components. -/
def keyComponentLines (analysis : Analysis) (settings : Settings) :
    Except Fault (List String) := do
  let ranked := analysis.overview.mostConnected
  let listed ← analysis.locatedOf (shown settings.keyComponents ranked)
  return if ranked.isEmpty then [] else ["Key Components:"] ++ numbered listed ++ [""]

/-- A cycle as a chain of names that ends where it begins. -/
def cycleLine (analysis : Analysis) (members : List ComponentId) : Except Fault String := do
  let names ← analysis.namesOf members
  return "  " ++ " -> ".intercalate (names ++ names.take 1)

/-- The section of the cycles. -/
def cycleLines (analysis : Analysis) : Except Fault (List String) := do
  let lines ← analysis.graph.cycles.mapM analysis.cycleLine
  return if lines.isEmpty then [] else ["Cycles:"] ++ lines ++ [""]

/-- The line that names the components on cycles. -/
def cyclicLine (analysis : Analysis) : Except Fault (List String) := do
  if analysis.order.cyclesPresent then
    let names ← analysis.namesOf (ascending analysis.graph.cycles.flatten)
    return ["  Cyclic components ordered last by id: " ++ ", ".intercalate names]
  else return []

/-- The section of the processing order. -/
def orderLines (analysis : Analysis) (settings : Settings) : Except Fault (List String) := do
  let order := analysis.order.order
  let names ← analysis.namesOf (shown settings.orderPreview order)
  let leftOut ← leftOutLine order.length settings.orderPreview
  let cyclic ← analysis.cyclicLine
  return ["Processing Order (dependencies first):"] ++ numbered names ++ leftOut ++ cyclic ++
    [""]

/-- The line of an edge. -/
def edgeLine (analysis : Analysis) (edge : Reference) : Except Fault String := do
  let source ← analysis.graph.store.get edge.source
  let target ← analysis.graph.store.get edge.target
  return s!"  {source.name} → {target.name} [{edge.type.name}]"

/-- The section of the edges. -/
def edgeLines (analysis : Analysis) (settings : Settings) : Except Fault (List String) := do
  let edges := analysis.graph.edges
  if edges.isEmpty then return []
  else
    let lines ← (shown settings.edgePreview edges).mapM analysis.edgeLine
    let leftOut ← leftOutLine edges.length settings.edgePreview
    return ["Dependencies:"] ++ lines ++ leftOut ++ [""]

/-- The lines of the map. -/
def mapLines (analysis : Analysis) (options : MapOptions) (settings : Settings) :
    Except Fault (List String) := do
  let focus ← match Text.present options.focus with
    | some focus => analysis.focusLines focus
    | none => .ok []
  let entryPoints ← analysis.entryPointLines
  let keyComponents ← analysis.keyComponentLines settings
  let cycles ← analysis.cycleLines
  let order ← if options.showOrder then analysis.orderLines settings else .ok []
  let edges ← if options.showDependencies then analysis.edgeLines settings else .ok []
  let path := match Text.present options.repository with
    | some repository => [s!"Path: {repository}"]
    | none => []
  return ["Repository Map", "==============", ""] ++ path ++ analysis.totalLines ++ focus ++
    analysis.structureLines ++ entryPoints ++ keyComponents ++ cycles ++ order ++ edges

/-- The text of the map. -/
def map (analysis : Analysis) (options : MapOptions) (settings : Settings) :
    Except Fault String :=
  (analysis.mapLines options settings).map ("\n".intercalate ·)

end Analysis

end DepAtlas
