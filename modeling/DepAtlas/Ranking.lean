import DepAtlas.Graph

/-!
# Rankings

The components and files that stand out: those with the most connections, those that
many others lean on, and the files with the highest complexity.  A ranking lists what
is eligible by descending score and breaks ties by ascending name; a limit cuts it off.
-/

namespace DepAtlas

/-- Something with two scores; the second decides where the first ties. -/
structure Scored where
  first : Int
  second : Int
  name : String
  deriving DecidableEq, Repr

/-- Whether one item ranks at least as high as another: higher scores first, then the
smaller name. -/
def Scored.ranksBefore (a b : Scored) : Bool :=
  if a.first ≠ b.first then decide (b.first < a.first)
  else if a.second ≠ b.second then decide (b.second < a.second)
  else decide (a.name ≤ b.name)

namespace Scored

theorem ranksBefore_iff {item other : Scored} :
    item.ranksBefore other = true ↔
      other.first < item.first ∨ item.first = other.first ∧
        (other.second < item.second ∨ item.second = other.second ∧ item.name ≤ other.name) := by
  rw [ranksBefore]
  split
  next different =>
    rw [decide_eq_true_iff]
    omega
  next same =>
    split
    next different =>
      rw [decide_eq_true_iff]
      omega
    next equal =>
      rw [decide_eq_true_iff]
      have sameFirst : item.first = other.first := by omega
      have sameSecond : item.second = other.second := by omega
      simp [sameFirst, sameSecond]

theorem ranksBefore_trans {first second third : Scored} (before : first.ranksBefore second = true)
    (after : second.ranksBefore third = true) : first.ranksBefore third = true := by
  rw [ranksBefore_iff] at before after ⊢
  have names : first.name ≤ second.name → second.name ≤ third.name → first.name ≤ third.name :=
    String.le_trans
  grind

theorem ranksBefore_total (item other : Scored) :
    (item.ranksBefore other || other.ranksBefore item) = true := by
  rw [Bool.or_eq_true, ranksBefore_iff, ranksBefore_iff]
  have names := String.le_total item.name other.name
  grind

/-- No two different items tie. -/
theorem ranksBefore_antisymm {item other : Scored} (before : item.ranksBefore other = true)
    (after : other.ranksBefore item = true) : item = other := by
  rw [ranksBefore_iff] at before after
  have names : item.name ≤ other.name → other.name ≤ item.name → item.name = other.name :=
    String.le_antisymm
  cases item
  cases other
  grind

theorem pairwise_mergeSort_ranksBefore (items : List Scored) :
    (items.mergeSort ranksBefore).Pairwise fun item other => item.ranksBefore other = true := by
  apply List.pairwise_mergeSort
  · intro first second third before after
    exact ranksBefore_trans before after
  · exact ranksBefore_total

end Scored

/-- The names of the highest ranked items. -/
def topNames (limit : Int) (items : List Scored) : List String :=
  (shown limit (items.mergeSort Scored.ranksBefore)).map (·.name)

/-- The number of neighbours of a component, on both sides. -/
def Component.connections (component : Component) : Nat :=
  component.dependencies.length + component.dependents.length

namespace Store

/-- The distinct files of the components. -/
def files (store : Store) : List String :=
  distinct (store.components.map (·.file))

/-- The summed complexity of the components of a file. -/
def fileComplexity (store : Store) (file : String) : Int :=
  total ((store.components.filter fun component => component.file = file).map (·.complexity))

/-- The components that depend on nothing, in ascending order. -/
def entryPoints (store : Store) : List ComponentId :=
  ascending ((store.components.filter fun component => component.dependencies.isEmpty).map
    (·.id))

/-- The components with the most connections; components without any are left out. -/
def mostConnected (store : Store) (limit : Int) : List ComponentId :=
  topNames limit <| (store.components.filter fun component => 0 < component.connections).map
    fun component => ⟨component.connections, 0, component.id⟩

/-- The components that most others depend on; of equally many, the more complex first. -/
def hotspots (store : Store) (limit : Int) : List ComponentId :=
  topNames limit <|
    (store.components.filter fun component => !component.dependents.isEmpty).map
      fun component => ⟨component.dependents.length, component.complexity, component.id⟩

/-- The files with the highest complexity; files without any are left out. -/
def complexFiles (store : Store) (limit : Int) : List String :=
  topNames limit <| (store.files.filter fun file => 0 < store.fileComplexity file).map
    fun file => ⟨store.fileComplexity file, 0, file⟩

end Store

end DepAtlas
