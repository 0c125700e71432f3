import DepAtlas.Proofs.MapSections
import DepAtlas.Proofs.Reloading
import Mathlib.Combinatorics.Enumerative.DoubleCounting

/-!
# The listing by files

A map lists the stored components by files, under a heading.  A reader of the map has nothing but
its text, and finds the listing between the line of the heading and the next empty line.  That is
the listing that was drawn, as long as no name and no file breaks a line.

A file's components are sorted by line and name only.  Ties are in order of id because the sort is
stable and the components come by id.
-/

namespace DepAtlas

/-! ## Lines of a text -/

namespace Text

/-- The lines of a text. -/
def lines (text : String) : List String :=
  (text.toList.splitOn '\n').map String.ofList

/-- The lines below a heading, as far as the next empty line. -/
def paragraph (heading text : String) : List String :=
  (((lines text).dropWhile (· ≠ heading)).drop 1).takeWhile (· ≠ "")

/-- A text without line breaks. -/
def OneLine (text : String) : Prop :=
  '\n' ∉ text.toList

instance : DecidablePred OneLine :=
  fun text => inferInstanceAs (Decidable ('\n' ∉ text.toList))

@[simp] theorem oneLine_append {first second : String} :
    OneLine (first ++ second) ↔ OneLine first ∧ OneLine second := by
  simp [OneLine]

@[simp] theorem toString_text (text : String) : toString text = text := rfl

@[simp] theorem oneLine_repr (number : Nat) : OneLine number.repr := by
  intro member
  rw [Nat.toList_repr] at member
  have digit := Nat.isDigit_of_mem_toDigits (by decide) (by decide) member
  revert digit
  decide

theorem lines_of_oneLine {text : String} (single : OneLine text) : lines text = [text] := by
  rw [lines, List.splitOn_eq_singleton single]
  simp

theorem lines_append_break {text : String} (single : OneLine text) (others : String) :
    lines (text ++ "\n" ++ others) = text :: lines others := by
  have split : (text ++ "\n" ++ others).toList = text.toList ++ '\n' :: others.toList := by simp
  rw [lines, split, List.splitOn_append_cons_self_of_not_mem single]
  simp [lines]

/-- A text begins with the lines that it is made up of, as far as they do not break. -/
theorem exists_lines_intercalate {front : List String} (single : ∀ line ∈ front, OneLine line)
    (back : List String) :
    ∃ others, lines ("\n".intercalate (front ++ back)) = front ++ others := by
  induction front with
  | nil => exact ⟨_, rfl⟩
  | cons line front ih =>
      have ⟨first, rest⟩ := List.forall_mem_cons.1 single
      obtain ⟨others, split⟩ := ih rest
      cases behind : front ++ back with
      | nil =>
          obtain ⟨rfl, rfl⟩ := List.append_eq_nil_iff.1 behind
          exact ⟨[], by simpa using lines_of_oneLine first⟩
      | cons next later =>
          rw [behind] at split
          rw [List.cons_append, behind, String.intercalate_cons_cons, lines_append_break first, split]
          exact ⟨others, rfl⟩

/-- What is written below a heading is found there, if no line before it is the heading. -/
theorem paragraph_intercalate {heading : String} {front entries : List String}
    (before : ∀ line ∈ front, OneLine line ∧ line ≠ heading) (single : OneLine heading)
    (below : ∀ line ∈ entries, OneLine line ∧ line ≠ "") (back : List String) :
    paragraph heading ("\n".intercalate (front ++ (heading :: entries ++ [""]) ++ back)) =
      entries := by
  have all : ∀ line ∈ front ++ (heading :: entries ++ [""]), OneLine line := by
    intro line member
    simp only [List.mem_append, List.mem_cons, List.not_mem_nil, or_false] at member
    rcases member with inFront | (rfl | listed) | rfl
    · exact (before line inFront).1
    · exact single
    · exact (below line listed).1
    · simp [OneLine]
  obtain ⟨others, split⟩ := exists_lines_intercalate all back
  have passed : ∀ line ∈ front, decide (line ≠ heading) = true :=
    fun line member => decide_eq_true (before line member).2
  have taken : ∀ line ∈ entries, decide (line ≠ "") = true :=
    fun line member => decide_eq_true (below line member).2
  rw [paragraph, split, List.append_assoc, List.dropWhile_append_of_pos passed, List.cons_append,
    List.cons_append, List.dropWhile_cons_of_neg (by simp), List.drop_succ_cons, List.drop_zero,
    List.append_assoc, List.takeWhile_append_of_pos taken]
  simp

end Text

/-! ## The order of a file's components -/

theorem listedBefore_iff {a b : Component} :
    Analysis.listedBefore a b = true ↔
      a.startLine < b.startLine ∨ a.startLine = b.startLine ∧ a.name ≤ b.name := by
  rw [Analysis.listedBefore]
  split
  next different =>
    rw [decide_eq_true_iff]
    omega
  next same =>
    rw [decide_eq_true_iff]
    simp [not_not.1 same]

theorem listedBefore_trans (a b c : Component) (first : Analysis.listedBefore a b = true)
    (second : Analysis.listedBefore b c = true) : Analysis.listedBefore a c = true := by
  rw [listedBefore_iff] at first second ⊢
  rcases first with less | ⟨same, least⟩ <;> rcases second with lessNext | ⟨sameNext, leastNext⟩
  · exact .inl (less.trans lessNext)
  · exact .inl (sameNext ▸ less)
  · exact .inl (same ▸ lessNext)
  · exact .inr ⟨same.trans sameNext, String.le_trans least leastNext⟩

theorem listedBefore_total (a b : Component) :
    (Analysis.listedBefore a b || Analysis.listedBefore b a) = true := by
  rw [Bool.or_eq_true, listedBefore_iff, listedBefore_iff]
  rcases lt_trichotomy a.startLine b.startLine with less | same | greater
  · exact .inl (.inl less)
  · rcases String.le_total a.name b.name with least | greatest
    · exact .inl (.inr ⟨same, least⟩)
    · exact .inr (.inr ⟨same.symm, greatest⟩)
  · exact .inr (.inl greater)

/-- A stable sort leaves ties in the order in which they come. -/
theorem pairwise_mergeSort_stable {α : Type} {le : α → α → Bool} {before : α → α → Prop}
    (trans : ∀ a b c, le a b = true → le b c = true → le a c = true)
    (total : ∀ a b, (le a b || le b a) = true) {items : List α} (ordered : items.Pairwise before) :
    (items.mergeSort le).Pairwise fun a b => le b a = true → before a b := by
  induction items with
  | nil => simp
  | cons item items ih =>
      obtain ⟨front, back, whole, rest, above⟩ := List.mergeSort_cons trans total item items
      obtain ⟨first, ordered⟩ := List.pairwise_cons.1 ordered
      have ih := ih ordered
      rw [rest, List.pairwise_append] at ih
      obtain ⟨inFront, inBack, between⟩ := ih
      have later : ∀ other ∈ back, before item other := by
        intro other member
        apply first other
        rw [← List.mem_mergeSort, rest]
        exact List.mem_append_right front member
      rw [whole, List.pairwise_append, List.pairwise_cons]
      refine ⟨inFront, ⟨fun other member _ => later other member, inBack⟩, ?_⟩
      -- What stands in front of the item is strictly less than it.
      intro other member next nextMember tie
      rcases List.mem_cons.1 nextMember with rfl | behind
      · have strict := above other member
        rw [tie] at strict
        cases strict
      · exact between other member next behind tie

/-- One component of a file is listed before another. -/
def Component.Precedes (a b : Component) : Prop :=
  a.startLine < b.startLine ∨ a.startLine = b.startLine ∧
    (a.name < b.name ∨ a.name = b.name ∧ a.id < b.id)

theorem Component.Precedes.ne {a b : Component} (precedes : a.Precedes b) : a ≠ b := by
  rintro rfl
  rcases precedes with less | ⟨_, less | ⟨_, less⟩⟩
  · exact lt_irrefl _ less
  · exact String.lt_irrefl _ less
  · exact String.lt_irrefl _ less

theorem precedes_fileListing {components : List Component}
    (ordered : components.Pairwise fun a b => a.id < b.id) (file : String) :
    (Analysis.fileListing components file).Pairwise Component.Precedes := by
  have kept := ordered.filter fun component => component.file = file
  have sorted := List.pairwise_mergeSort listedBefore_trans listedBefore_total
    (components.filter fun component => component.file = file)
  have stable := pairwise_mergeSort_stable listedBefore_trans listedBefore_total kept
  rw [Analysis.fileListing]
  refine (sorted.and stable).imp ?_
  rintro a b ⟨least, tied⟩
  rcases listedBefore_iff.1 least with less | ⟨same, leastName⟩
  · exact .inl less
  · refine .inr ⟨same, ?_⟩
    by_cases greatest : b.name ≤ a.name
    · exact .inr ⟨String.le_antisymm leastName greatest,
        tied (listedBefore_iff.2 (.inr ⟨same.symm, greatest⟩))⟩
    · exact .inl (String.not_le.1 greatest)

/-! ## The listing -/

/-- A file with its components. -/
structure FileBlock where
  file : String
  components : List Component

/-- The lines of a file in a listing. -/
def FileBlock.lines (block : FileBlock) : List String :=
  s!"  {block.file}" :: block.components.map fun component => s!"    {component.listing}"

/-- The tag that a kind is shown by. -/
inductive ComponentKind.ShownAs : ComponentKind → String → Prop
  | function : ShownAs .function "fn"
  | method : ShownAs .method "fn"
  | type : ShownAs .type "type"
  | module : ShownAs .module "mod"
  | interface : ShownAs .interface "iface"

theorem ComponentKind.shownAs_tag (kind : ComponentKind) : kind.ShownAs kind.tag := by
  cases kind <;> constructor

/-- What shows a visibility in front of a tag. -/
inductive Visibility.ShownAs : Visibility → String → Prop
  | pub : ShownAs .pub "pub "
  | priv : ShownAs .priv ""
  | prot : ShownAs .prot ""
  | internal : ShownAs .internal ""

theorem Visibility.shownAs_mark (visibility : Visibility) :
    visibility.ShownAs (if visibility = .pub then "pub " else "") := by
  cases visibility <;> constructor

/-- A line shows the visibility of a component, its tag and name, and how many dependencies and
dependents it has. -/
def Component.ShownBy (component : Component) (line : String) : Prop :=
  ∃ mark tag, component.visibility.ShownAs mark ∧ component.kind.ShownAs tag ∧
    line = "    " ++ mark ++ tag ++ " " ++ component.name ++ " (" ++
      toString component.dependencies.length ++ "→" ++ toString component.dependents.length ++ ")"

theorem Component.shownBy_listing (component : Component) :
    component.ShownBy s!"    {component.listing}" := by
  refine ⟨_, _, component.visibility.shownAs_mark, component.kind.shownAs_tag, ?_⟩
  simp only [listing, Text.toString_text, String.append_assoc]

/-- Lines show a file: its path, and below it each of its components. -/
inductive FileBlock.ShownBy (block : FileBlock) : List String → Prop
  | lines {entries : List String}
      (shown : List.Forall₂ Component.ShownBy block.components entries) :
      ShownBy block (("  " ++ block.file) :: entries)

theorem FileBlock.shownBy_lines (block : FileBlock) : block.ShownBy block.lines := by
  refine .lines (List.forall₂_map_right_iff.2 ?_)
  exact List.forall₂_same.2 fun component _ => component.shownBy_listing

/-- A listing of the components of a store by files. -/
structure Store.IsFileListing (store : Store) (blocks : List FileBlock) : Prop where
  files_strict : (blocks.map (·.file)).Pairwise (· < ·)
  mem_files_iff : ∀ file, file ∈ blocks.map (·.file) ↔
    ∃ component ∈ store.components, component.file = file
  mem_components_iff : ∀ block ∈ blocks, ∀ component, component ∈ block.components ↔
    component ∈ store.components ∧ component.file = block.file
  components_strict : ∀ block ∈ blocks, block.components.Pairwise Component.Precedes
  /-- Each component is listed once. -/
  perm : (blocks.flatMap (·.components)).Perm store.components

namespace Store

variable {store : Store}

theorem listed_strict (store : Store) (unique : store.keys.Nodup) :
    (store.ids.filterMap store.get?).Pairwise fun a b => a.id < b.id := by
  rw [List.pairwise_filterMap]
  refine (ascending_strict unique).imp ?_
  intro id other less component found next foundNext
  rwa [(mem_of_get? found).2, (mem_of_get? foundNext).2]

/-- The blocks that a map draws. -/
def fileBlocks (store : Store) : List FileBlock :=
  (ascending store.files).map fun file =>
    ⟨file, Analysis.fileListing (store.ids.filterMap store.get?) file⟩

theorem mem_fileListing (unique : store.keys.Nodup) {file : String} {component : Component} :
    component ∈ Analysis.fileListing (store.ids.filterMap store.get?) file ↔
      component ∈ store.components ∧ component.file = file := by
  rw [Analysis.fileListing, List.mem_mergeSort, List.mem_filter, decide_eq_true_iff,
    (listed_perm unique).mem_iff]

theorem isFileListing_fileBlocks (unique : store.keys.Nodup) :
    store.IsFileListing store.fileBlocks := by
  have files : store.fileBlocks.map (·.file) = ascending store.files := by
    simp [fileBlocks, Function.comp_def]
  have ordered := listed_strict store unique
  have strict : (store.fileBlocks.map (·.file)).Pairwise (· < ·) := by
    rw [files]
    exact ascending_strict (nodup_distinct _)
  have mem_files : ∀ file, file ∈ store.fileBlocks.map (·.file) ↔
      ∃ component ∈ store.components, component.file = file := by
    intro file
    rw [files, mem_ascending, Store.files, mem_distinct, List.mem_map]
  have mem_components : ∀ block ∈ store.fileBlocks, ∀ component, component ∈ block.components ↔
      component ∈ store.components ∧ component.file = block.file := by
    intro block member component
    obtain ⟨file, _, rfl⟩ := List.mem_map.1 member
    exact mem_fileListing unique
  have components : ∀ block ∈ store.fileBlocks, block.components.Pairwise Component.Precedes := by
    intro block member
    obtain ⟨file, _, rfl⟩ := List.mem_map.1 member
    exact precedes_fileListing ordered file
  refine ⟨strict, mem_files, mem_components, components, ?_⟩
  have once : (store.fileBlocks.flatMap (·.components)).Nodup := by
    refine List.nodup_flatMap.2 ⟨fun block member => (components block member).imp (·.ne), ?_⟩
    refine (List.pairwise_map.1 strict).imp_of_mem ?_
    intro block other member otherMember less component inside insideOther
    have file := ((mem_components block member component).1 inside).2
    have fileOther := ((mem_components other otherMember component).1 insideOther).2
    rw [← file, ← fileOther] at less
    exact String.lt_irrefl _ less
  refine (List.perm_ext_iff_of_nodup once (unique.of_map _)).2 ?_
  intro component
  rw [List.mem_flatMap]
  constructor
  · rintro ⟨block, member, inside⟩
    exact ((mem_components block member component).1 inside).1
  · intro stored
    obtain ⟨block, member, file⟩ := List.mem_map.1 ((mem_files _).2 ⟨component, stored, rfl⟩)
    exact ⟨block, member, (mem_components block member component).2 ⟨stored, file.symm⟩⟩

/-- A listing has a line for each file and for each component. -/
theorem length_fileBlocks (unique : store.keys.Nodup) :
    (store.fileBlocks.flatMap FileBlock.lines).length = store.files.length + store.size := by
  have split : ∀ blocks : List FileBlock, (blocks.flatMap FileBlock.lines).length =
      blocks.length + (blocks.flatMap (·.components)).length := by
    intro blocks
    induction blocks with
    | nil => rfl
    | cons block blocks ih =>
        simp only [List.flatMap_cons, List.length_append, List.length_cons, FileBlock.lines,
          List.length_map, ih]
        omega
  rw [split, (isFileListing_fileBlocks unique).perm.length_eq, fileBlocks, List.length_map,
    (ascending_perm store.files).length_eq, size]

/-- Lists of neighbours are as long together as the sets that they list. -/
theorem sum_length_eq {neighbours : Component → List ComponentId}
    {listed : ComponentId → Finset ComponentId} (unique : store.keys.Nodup)
    (each : ∀ component ∈ store.components, (neighbours component).Nodup ∧
      ∀ id, id ∈ neighbours component ↔ id ∈ listed component.id) :
    (store.components.map fun component => (neighbours component).length).sum =
      ∑ id ∈ store.keys.toFinset, (listed id).card := by
  rw [List.sum_toFinset _ unique, keys, List.map_map]
  apply congrArg List.sum
  apply List.map_congr_left
  intro component stored
  obtain ⟨nodup, same⟩ := each component stored
  have set : (neighbours component).toFinset = listed component.id := by
    ext id
    rw [List.mem_toFinset, same id]
  rw [Function.comp_apply, ← set, List.toFinset_card_of_nodup nodup]

/-- The dependencies of all components are as many as the dependents. -/
theorem WellFormed.sum_neighbours (wf : store.WellFormed) :
    (store.components.map (·.dependencies.length)).sum =
      (store.components.map (·.dependents.length)).sum := by
  classical
  have unique := wf.keys_nodup
  have forwards : (store.components.map (·.dependencies.length)).sum =
      ∑ id ∈ store.keys.toFinset,
        (store.keys.toFinset.bipartiteAbove store.DependsOn id).card := by
    refine sum_length_eq unique fun component stored =>
      ⟨wf.dependencies_nodup component stored, fun id => ?_⟩
    rw [Finset.mem_bipartiteAbove, List.mem_toFinset,
      ← dependsOn_iff (get?_of_mem unique stored)]
    exact ⟨fun depends => ⟨wf.target_mem depends, depends⟩, And.right⟩
  have backwards : (store.components.map (·.dependents.length)).sum =
      ∑ id ∈ store.keys.toFinset,
        (store.keys.toFinset.bipartiteBelow store.DependsOn id).card := by
    refine sum_length_eq unique fun component stored =>
      ⟨wf.dependents_nodup component stored, fun id => ?_⟩
    rw [Finset.mem_bipartiteBelow, List.mem_toFinset,
      wf.mem_dependents_iff (get?_of_mem unique stored)]
    exact ⟨fun depends => ⟨depends.source_mem, depends⟩, And.right⟩
  rw [forwards, backwards]
  exact Finset.sum_card_bipartiteAbove_eq_sum_card_bipartiteBelow store.DependsOn

end Store

/-! ## The listing on a map -/

theorem ComponentKind.oneLine_name (kind : ComponentKind) : Text.OneLine kind.name := by
  cases kind <;> decide

theorem ComponentKind.oneLine_tag (kind : ComponentKind) : Text.OneLine kind.tag := by
  cases kind <;> decide

theorem Visibility.oneLine_name (visibility : Visibility) : Text.OneLine visibility.name := by
  cases visibility <;> decide

namespace Analysis

/-- Names and files that do not break a line. -/
def OneLined (analysis : Analysis) : Prop :=
  ∀ component ∈ analysis.graph.store.components,
    Text.OneLine component.name ∧ Text.OneLine component.file

/-- A line that is not taken for the heading of the listing. -/
def IsFront (line : String) : Prop :=
  Text.OneLine line ∧ line ≠ "Structure:"

theorem isFront_of_blank {line : String} (single : Text.OneLine line) (blank : ' ' ∈ line.toList) :
    IsFront line := by
  refine ⟨single, ?_⟩
  rintro rfl
  revert blank
  decide

theorem isFront_empty : IsFront "" := by
  simp [IsFront, Text.OneLine]

variable {analysis : Analysis}

theorem isFront_totalLines : ∀ line ∈ analysis.totalLines, IsFront line := by
  intro line member
  simp only [totalLines, List.mem_append, List.mem_singleton, List.mem_ite_nil_left] at member
  rcases member with ((rfl | ⟨_, rfl⟩) | ⟨_, rfl⟩) | rfl
  · exact isFront_of_blank (by simp +decide) (by simp)
  · exact isFront_of_blank (by simp +decide) (by simp)
  · exact isFront_of_blank (by simp +decide) (by simp)
  · exact isFront_empty

theorem oneLine_locatedOf (single : analysis.OneLined) {ids : List ComponentId}
    {located : List String} (drawn : analysis.locatedOf ids = .ok located) :
    ∀ line ∈ located, Text.OneLine line := by
  refine forall_of_mapM ?_ drawn
  intro id _ line shown
  obtain ⟨component, found, rfl⟩ := Store.exists_of_view shown
  obtain ⟨oneName, oneFile⟩ := single component (Store.mem_of_get? found).1
  simpa [Text.OneLine, Component.located] using ⟨oneName, oneFile⟩

theorem isFront_neighbourLines (single : analysis.OneLined) {heading arrow : String}
    (head : IsFront heading) (oneArrow : Text.OneLine arrow) {ids : List ComponentId}
    {lines : List String} (drawn : analysis.neighbourLines heading arrow ids = .ok lines) :
    ∀ line ∈ lines, IsFront line := by
  obtain ⟨located, shown, ended⟩ := exists_of_bind drawn
  cases ended
  intro line member
  simp only [List.mem_ite_nil_left, List.mem_append, List.mem_singleton, List.mem_map] at member
  rcases member with ⟨_, (rfl | ⟨neighbour, listed, rfl⟩) | rfl⟩
  · exact head
  · have oneNeighbour := oneLine_locatedOf single shown neighbour listed
    exact isFront_of_blank (by simp +decide [oneArrow, oneNeighbour]) (by simp)
  · exact isFront_empty

theorem isFront_focusLines (single : analysis.OneLined) {focus : String}
    (oneFocus : Text.OneLine focus) {lines : List String}
    (drawn : analysis.focusLines focus = .ok lines) : ∀ line ∈ lines, IsFront line := by
  rw [focusLines] at drawn
  split at drawn
  next unknown =>
    cases drawn
    intro line member
    simp only [List.mem_cons, List.not_mem_nil, or_false] at member
    rcases member with rfl | rfl
    · exact isFront_of_blank (by simp +decide [oneFocus]) (by simp)
    · exact isFront_empty
  next component resolved =>
    obtain ⟨dependencies, dependenciesDrawn, drawn⟩ := exists_of_bind drawn
    obtain ⟨dependents, dependentsDrawn, drawn⟩ := exists_of_bind drawn
    cases drawn
    obtain ⟨oneName, oneFile⟩ := single component (mem_components_of_resolve? resolved)
    intro line member
    simp only [List.mem_append, List.mem_cons, List.not_mem_nil, or_false] at member
    rcases member with ((rfl | rfl | rfl | rfl | rfl) | inDependencies) | inDependents
    · exact isFront_of_blank (by simp +decide [oneName]) (by simp)
    · have oneKind := component.kind.oneLine_name
      have oneVisibility := component.visibility.oneLine_name
      exact isFront_of_blank (by simp +decide [oneKind, oneVisibility]) (by simp)
    · exact isFront_of_blank (by simp +decide [oneFile]) (by simp)
    · exact isFront_of_blank (by simp +decide) (by simp)
    · exact isFront_empty
    · exact isFront_neighbourLines single
        (isFront_of_blank (by decide) (by simp)) (by decide)
        dependenciesDrawn line inDependencies
    · exact isFront_neighbourLines single
        (isFront_of_blank (by decide) (by simp)) (by decide)
        dependentsDrawn line inDependents

theorem oneLine_listing {component : Component} (single : Text.OneLine component.name) :
    Text.OneLine component.listing := by
  have oneTag := component.kind.oneLine_tag
  have oneVisibility : Text.OneLine (if component.visibility = .pub then "pub " else "") := by
    split <;> decide
  simp +decide [Component.listing, single, oneTag, oneVisibility]

theorem of_mem_fileBlocks (unique : analysis.graph.store.keys.Nodup) (single : analysis.OneLined) :
    ∀ line ∈ analysis.graph.store.fileBlocks.flatMap FileBlock.lines,
      Text.OneLine line ∧ line ≠ "" := by
  have blocks := Store.isFileListing_fileBlocks unique
  intro line member
  obtain ⟨block, listed, inside⟩ := List.mem_flatMap.1 member
  rw [FileBlock.lines, List.mem_cons, List.mem_map] at inside
  rcases inside with rfl | ⟨component, inBlock, rfl⟩
  · obtain ⟨component, stored, file⟩ :=
      (blocks.mem_files_iff block.file).1 (List.mem_map_of_mem listed)
    have oneFile := (single component stored).2
    rw [file] at oneFile
    exact ⟨by simp +decide [oneFile], by simp [← String.toList_inj]⟩
  · have stored := ((blocks.mem_components_iff block listed component).1 inBlock).1
    have one := oneLine_listing (single component stored).1
    exact ⟨by simp +decide [one], by simp [← String.toList_inj]⟩

theorem structureLines_eq (analysis : Analysis) :
    analysis.structureLines =
      "Structure:" :: analysis.graph.store.fileBlocks.flatMap FileBlock.lines ++ [""] := by
  rw [structureLines, Store.fileBlocks, List.flatMap_map]
  rfl

end Analysis

/-- Options that do not break a line. -/
structure MapOptions.OneLined (options : MapOptions) : Prop where
  repository : ∀ repository, options.repository = some repository → Text.OneLine repository
  focus : ∀ focus, options.focus = some focus → Text.OneLine focus

/-- The line that says where the code base is found, or nothing. -/
def MapOptions.pathLines (options : MapOptions) : List String :=
  match Text.present options.repository with
  | some repository => [s!"Path: {repository}"]
  | none => []

namespace Analysis

variable {analysis : Analysis} {options : MapOptions}

theorem isFront_pathLines (single : options.OneLined) :
    ∀ line ∈ options.pathLines, IsFront line := by
  rw [MapOptions.pathLines]
  split
  next repository there =>
    have oneRepository := single.repository repository (Text.present_eq_some_iff.1 there).1
    intro line member
    rw [List.mem_singleton.1 member]
    exact isFront_of_blank (by simp +decide [oneRepository]) (by simp)
  next => simp

theorem isFront_focusSection (single : analysis.OneLined) (oneOptions : options.OneLined)
    {lines : List String} (drawn : analysis.focusSection options = .ok lines) :
    ∀ line ∈ lines, IsFront line := by
  rw [focusSection] at drawn
  split at drawn
  next focus there =>
    exact isFront_focusLines single
      (oneOptions.focus focus (Text.present_eq_some_iff.1 there).1) drawn
  next =>
    cases drawn
    simp

/-- Nothing in front of the listing is taken for its heading. -/
theorem exists_front (single : analysis.OneLined) (oneOptions : options.OneLined)
    {settings : Settings} {lines : List String}
    (drawn : analysis.mapLines options settings = .ok lines) :
    ∃ front back, (∀ line ∈ front, IsFront line) ∧
      lines = front ++ analysis.structureLines ++ back := by
  obtain ⟨sections, draws, rfl⟩ := exists_draws drawn
  refine ⟨["Repository Map", "==============", ""] ++ options.pathLines ++ analysis.totalLines ++
    sections.focus, sections.entryPoints ++ sections.keyComponents ++ sections.cycles ++
    sections.order ++ sections.edges, ?_, ?_⟩
  · intro line member
    simp only [List.mem_append, List.mem_cons, List.not_mem_nil, or_false] at member
    rcases member with (((rfl | rfl | rfl) | inPath) | inTotals) | inFocus
    · exact isFront_of_blank (by decide) (by simp)
    · exact ⟨by decide, by simp⟩
    · exact isFront_empty
    · exact isFront_pathLines oneOptions line inPath
    · exact isFront_totalLines line inTotals
    · exact isFront_focusSection single oneOptions draws.focus line inFocus
  · simp only [laidOut, List.append_assoc]
    rfl

end Analysis

/-- A map lists each stored component once, under its file, and has a line for each file and for
each component, which shows the component.  Whatever else it shows, the listing is what stands below
its heading. -/
theorem fileListing_of_map {origin : Origin} {analysis : Analysis}
    (returned : origin.trace.outcome = .ok analysis) (single : analysis.OneLined) :
    ∃ blocks listed, analysis.graph.store.IsFileListing blocks ∧
      List.Forall₂ FileBlock.ShownBy blocks listed ∧
      listed.flatten.length =
        analysis.overview.totalFiles + analysis.overview.totalComponents ∧
      ((blocks.flatMap (·.components)).map (·.dependencies.length)).sum =
        ((blocks.flatMap (·.components)).map (·.dependents.length)).sum ∧
      ∀ options settings, options.OneLined →
        Writes (analysis.PreviewsFit options settings) (analysis.map options settings) ∧
        ∀ text, analysis.map options settings = .ok text →
          Text.paragraph "Structure:" text = listed.flatten := by
  have wf := (Origin.sound returned).wellFormed.store
  have listing := Store.isFileListing_fileBlocks wf.keys_nodup
  refine ⟨_, analysis.graph.store.fileBlocks.map FileBlock.lines, listing, ?_, ?_, ?_, ?_⟩
  · refine List.forall₂_map_right_iff.2 (List.forall₂_same.2 ?_)
    exact fun block _ => block.shownBy_lines
  · rw [← List.flatMap_def, Store.length_fileBlocks wf.keys_nodup, Origin.overview_eq returned]
  · rw [(listing.perm.map _).sum_eq, (listing.perm.map _).sum_eq, wf.sum_neighbours]
  · intro options settings oneOptions
    refine ⟨(Origin.idsStored returned).writes_map options settings, ?_⟩
    intro text drawn
    obtain ⟨lines, linesDrawn, rfl⟩ := Analysis.map_eq_ok_iff.1 drawn
    obtain ⟨front, back, before, rfl⟩ := Analysis.exists_front single oneOptions linesDrawn
    rw [Analysis.structureLines_eq, ← List.flatMap_def]
    exact Text.paragraph_intercalate before (by decide)
      (Analysis.of_mem_fileBlocks wf.keys_nodup single) back

/-- Two files, and in one of them a function and a private type of the same name on the same line.
-/
theorem fileListing_of_map_tied :
    ∃ analysis text blocks listed,
      (analyze {} [{ id := "c", name := "x", file := "g", startLine := 1, endLine := 1 },
        { id := "b", name := "x", kind := .type, file := "g", startLine := 1, endLine := 2,
          visibility := .priv },
        { id := "a", name := "y", file := "f", startLine := 4, endLine := 4 }]
        [⟨"a", "c", .call⟩]).outcome = .ok analysis ∧
      analysis.OneLined ∧ analysis.map { focus := some "b" } {} = .ok text ∧
      analysis.graph.store.IsFileListing blocks ∧
      List.Forall₂ FileBlock.ShownBy blocks listed ∧
      Text.paragraph "Structure:" text = listed.flatten ∧
      Text.paragraph "Structure:" text =
        ["  f", "    pub fn y (1→0)", "  g", "    type x (0→0)", "    pub fn x (0→1)"] := by
  have evaluated : (analyze {}
      [{ id := "c", name := "x", file := "g", startLine := 1, endLine := 1 },
        { id := "b", name := "x", kind := .type, file := "g", startLine := 1, endLine := 2,
          visibility := .priv },
        { id := "a", name := "y", file := "f", startLine := 4, endLine := 4 }]
      [⟨"a", "c", .call⟩]).outcome.toOption.map
        (fun analysis => (analysis.graph.store.components.map fun component =>
          (component.name, component.file), analysis.mapLines { focus := some "b" } {})) =
      some ([("x", "g"), ("x", "g"), ("y", "f")], .ok (["Repository Map", "==============", "",
        "3 components, 2 entry points, 0 cycles", "", "Focus: x",
        "   Type: type | Visibility: private", "   File: g",
        "   Dependencies: 0 | Used by: 0", ""] ++ ("Structure:" :: ["  f", "    pub fn y (1→0)",
        "  g", "    type x (0→0)", "    pub fn x (0→1)"] ++ [""]) ++ ["Entry Points:", "  x (g)",
        "  x (g)", "", "Key Components:", "  1. y (f)", "  2. x (g)", ""])) := by
    cbv
  obtain ⟨analysis, known, values⟩ := Option.map_eq_some_iff.1 evaluated
  obtain ⟨names, lines⟩ := Prod.mk.inj values
  have returned := Traced.outcome_of_toOption known
  have single : analysis.OneLined := by
    intro component stored
    have named : (component.name, component.file) ∈ analysis.graph.store.components.map
        fun component => (component.name, component.file) := List.mem_map_of_mem stored
    have all : ∀ entry ∈ [("x", "g"), ("x", "g"), ("y", "f")],
        Text.OneLine entry.1 ∧ Text.OneLine entry.2 := by decide
    rw [names] at named
    exact all _ named
  have drawn := Analysis.map_eq_ok_iff.2 ⟨_, lines, rfl⟩
  obtain ⟨blocks, listed, listing, showing, _, _, shown⟩ :=
    @fileListing_of_map (.analyzed _ _ _) analysis returned single
  have oneOptions : MapOptions.OneLined { focus := some "b" } := by
    constructor
    · intro repository there
      cases there
    · intro focus there
      cases there
      decide
  have found := (shown _ {} oneOptions).2 _ drawn
  exact ⟨analysis, _, blocks, listed, returned, single, drawn, listing, showing, found,
    Text.paragraph_intercalate (by decide) (by decide) (by decide) _⟩

end DepAtlas
