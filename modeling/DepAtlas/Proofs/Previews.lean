import DepAtlas.Proofs.MapSections

/-!
# Previews of long listings

A map shows the beginning of the processing order and of the edges, and says how many entries
follow. How many entries stand on the map is up to the length of the listing and the preview length.
The number left out is the difference of these two, also where the preview length is negative and
takes entries away from the end.  So what is said to be left out is what is not shown for preview
lengths that are not negative, and for no other.
-/

namespace DepAtlas

/-- What is shown of a listing and what is said to be left out make up the listing. -/
structure AddsUp (count printed : Nat) (leftOut : Option Int) : Prop where
  total : printed + leftOut.getD 0 = (count : Int)
  eq_none_iff : leftOut = none ↔ printed = count

/-- The line about entries that are left out. -/
def moreLines : Option Int → List String
  | none => []
  | some leftOut => [s!"  ... and {leftOut} more"]

/-- What a map shows of a listing under a limit. -/
structure IsPreview {α : Type} (shows : α → String → Prop) (items : List α) (limit : Int)
    (entries : List String) (leftOut : Option Int) : Prop where
  /-- The entries show items from the first one on. -/
  begins : List.Forall₂ shows (items.take entries.length) entries
  length : (entries.length : Int) =
    if 0 ≤ limit then min limit items.length else max 0 (items.length + limit)
  leftOut : leftOut = if limit < items.length then some (items.length - limit) else none

theorem length_shown {α : Type} (limit : Int) (items : List α) :
    ((shown limit items).length : Int) =
      if 0 ≤ limit then min limit items.length else max 0 (items.length + limit) := by
  rw [shown]
  split <;> rw [List.length_take] <;> omega

theorem take_length_shown {α : Type} (limit : Int) (items : List α) :
    items.take (shown limit items).length = shown limit items := by
  rw [shown]
  split <;> rw [List.length_take, List.take_eq_take_iff] <;> omega

variable {α : Type} {shows : α → String → Prop} {items : List α} {limit : Int}
  {entries : List String}

theorem IsPreview.addsUp_iff {leftOut : Option Int}
    (preview : IsPreview shows items limit entries leftOut) :
    AddsUp items.length entries.length leftOut ↔ 0 ≤ limit := by
  have length := preview.length
  constructor
  · intro adds
    by_contra negative
    -- The number left out is more than the length of the whole listing.
    have more : leftOut = some (items.length - limit) := by
      rw [preview.leftOut, if_pos (by omega)]
    have sum := adds.total
    rw [more, Option.getD_some] at sum
    rw [if_neg negative] at length
    omega
  · intro notNegative
    rw [if_pos notNegative] at length
    rw [preview.leftOut]
    split
    next some =>
      refine ⟨?_, ?_⟩
      · rw [Option.getD_some]
        omega
      · simp only [reduceCtorEq, false_iff]
        omega
    next all =>
      refine ⟨?_, ?_⟩
      · rw [Option.getD_none]
        omega
      · simp only [true_iff]
        omega

theorem isPreview_of_mapM {draw : α → Except Fault String}
    (sound : ∀ item entry, draw item = .ok entry → shows item entry)
    (drawn : (shown limit items).mapM draw = .ok entries) {lines : List String}
    (counted : leftOutLine items.length limit = .ok lines) :
    ∃ leftOut, IsPreview shows items limit entries leftOut ∧ lines = moreLines leftOut := by
  have each : List.Forall₂ shows (shown limit items) entries :=
    forall₂_of_mapM (fun item _ => sound item) drawn
  have same := each.length_eq
  have taken : List.Forall₂ shows (items.take entries.length) entries := by
    rwa [← same, take_length_shown]
  have length := length_shown limit items
  rw [same] at length
  refine ⟨_, ⟨taken, length, rfl⟩, ?_⟩
  rw [leftOutLine] at counted
  split at counted
  next more =>
    simp only at counted
    split at counted
    next => rw [if_pos more, ← Except.ok.inj counted, moreLines]
    next => cases counted
  next all => rw [if_neg all, ← Except.ok.inj counted, moreLines]

/-- Each line begins with its number, counted from one. -/
structure IsNumbered (lines entries : List String) : Prop where
  length : entries.length = lines.length
  entry : ∀ position line, lines[position]? = some line →
    entries[position]? = some ("  " ++ toString (position + 1) ++ ". " ++ line)

theorem isNumbered_numbered (lines : List String) : IsNumbered lines (numbered lines) := by
  constructor
  case length => simp [numbered]
  case entry =>
    intro position line there
    simp [numbered, there, toString, String.append_assoc]

namespace Analysis

/-- An id is shown by the name of its component. -/
def ShowsName (analysis : Analysis) (id : ComponentId) (name : String) : Prop :=
  ∃ component, analysis.graph.store.get? id = some component ∧ name = component.name

/-- An edge is shown by the names of its ends and its type. -/
def ShowsEdge (analysis : Analysis) (edge : Reference) (line : String) : Prop :=
  ∃ source target, analysis.ShowsName edge.source source ∧ analysis.ShowsName edge.target target ∧
    line = s!"  {source} → {target} [{edge.type.name}]"

/-- The section of the processing order. -/
def ShowsOrder (analysis : Analysis) (limit : Int) (lines : List String) : Prop :=
  ∃ names entries leftOut cyclic,
    lines = ["Processing Order (dependencies first):"] ++ entries ++ moreLines leftOut ++
      cyclic ++ [""] ∧
    IsNumbered names entries ∧
    analysis.cyclicLine = .ok cyclic ∧
    IsPreview analysis.ShowsName analysis.order.order limit names leftOut ∧
    (AddsUp analysis.order.order.length names.length leftOut ↔ 0 ≤ limit)

/-- The section of the edges, of which there are some. -/
def ShowsEdges (analysis : Analysis) (limit : Int) (lines : List String) : Prop :=
  ∃ entries leftOut,
    lines = ["Dependencies:"] ++ entries ++ moreLines leftOut ++ [""] ∧
    IsPreview analysis.ShowsEdge analysis.graph.edges limit entries leftOut ∧
    (AddsUp analysis.graph.edges.length entries.length leftOut ↔ 0 ≤ limit)

variable {analysis : Analysis} {settings : Settings} {lines : List String}

theorem showsOrder (drawn : analysis.orderLines settings = .ok lines) :
    analysis.ShowsOrder settings.orderPreview lines := by
  obtain ⟨names, named, drawn⟩ := exists_of_bind drawn
  obtain ⟨more, counted, drawn⟩ := exists_of_bind drawn
  obtain ⟨cyclic, cyclicDrawn, drawn⟩ := exists_of_bind drawn
  cases drawn
  have sound : ∀ id name, (analysis.graph.store.get id).map (·.name) = .ok name →
      analysis.ShowsName id name := fun id name shown => Store.exists_of_view shown
  obtain ⟨leftOut, preview, rfl⟩ := isPreview_of_mapM sound named counted
  exact ⟨names, _, leftOut, cyclic, rfl, isNumbered_numbered names, cyclicDrawn, preview,
    preview.addsUp_iff⟩

theorem showsEdge {edge : Reference} {line : String} (drawn : analysis.edgeLine edge = .ok line) :
    analysis.ShowsEdge edge line := by
  obtain ⟨source, sourceGot, drawn⟩ := exists_of_bind drawn
  obtain ⟨target, targetGot, drawn⟩ := exists_of_bind drawn
  cases drawn
  exact ⟨source.name, target.name, ⟨source, Store.get?_of_get sourceGot, rfl⟩,
    ⟨target, Store.get?_of_get targetGot, rfl⟩, rfl⟩

theorem showsEdges (some : analysis.graph.edges ≠ [])
    (drawn : analysis.edgeLines settings = .ok lines) :
    analysis.ShowsEdges settings.edgePreview lines := by
  rw [edgeLines] at drawn
  simp only [List.isEmpty_iff, if_neg some] at drawn
  obtain ⟨entries, shown, drawn⟩ := exists_of_bind drawn
  obtain ⟨more, counted, drawn⟩ := exists_of_bind drawn
  cases drawn
  obtain ⟨leftOut, preview, rfl⟩ := isPreview_of_mapM (fun edge line => showsEdge) shown counted
  exact ⟨entries, leftOut, rfl, preview, preview.addsUp_iff⟩

end Analysis

/-- A map ends with its two long listings, the order and the edges.  Each begins with the first
entries, as many as the preview length lets through, and says how many it leaves out.  This adds up
exactly for preview lengths that are not negative. -/
theorem previews_of_map {origin : Origin} {analysis : Analysis}
    (returned : origin.trace.outcome = .ok analysis) (options : MapOptions) (settings : Settings) :
    Writes (analysis.PreviewsFit options settings) (analysis.mapLines options settings) ∧
    ∀ lines, analysis.mapLines options settings = .ok lines →
      ∃ front order edges, lines = front ++ order ++ edges ∧
        (options.showOrder = false → order = []) ∧
        (options.showOrder = true → analysis.ShowsOrder settings.orderPreview order) ∧
        (options.showDependencies = false ∨ analysis.graph.edges = [] → edges = []) ∧
        (options.showDependencies = true → analysis.graph.edges ≠ [] →
          analysis.ShowsEdges settings.edgePreview edges) := by
  refine ⟨(Origin.idsStored returned).writes_mapLines options settings, ?_⟩
  intro lines drawn
  obtain ⟨sections, draws, rfl⟩ := Analysis.exists_draws drawn
  have order := draws.order
  have edges := draws.edges
  rw [Analysis.orderSection] at order
  rw [Analysis.edgeSection] at edges
  refine ⟨_, sections.order, sections.edges, rfl, ?_, ?_, ?_, ?_⟩
  · intro unwanted
    rw [unwanted] at order
    exact (Except.ok.inj order).symm
  · intro wanted
    rw [if_pos wanted] at order
    exact Analysis.showsOrder order
  · intro nothing
    rcases nothing with unwanted | none
    · rw [unwanted] at edges
      exact (Except.ok.inj edges).symm
    · split at edges
      next =>
        rw [Analysis.edgeLines] at edges
        simp only [none, List.isEmpty_nil, if_true] at edges
        exact (Except.ok.inj edges).symm
      next => exact (Except.ok.inj edges).symm
  · intro wanted some
    rw [if_pos wanted] at edges
    exact Analysis.showsEdges some edges

/-- Two of three components and one of two edges are shown. -/
theorem previews_of_map_shortened :
    ∃ analysis lines front order edges,
      (analyze {} [{ id := "a", name := "a", file := "f", startLine := 1, endLine := 1 },
        { id := "b", name := "b", file := "f", startLine := 2, endLine := 2 },
        { id := "c", name := "c", file := "g", startLine := 1, endLine := 1 }]
        [⟨"a", "b", .call⟩, ⟨"b", "c", .importing⟩]).outcome = .ok analysis ∧
      analysis.order.order = ["c", "b", "a"] ∧
      analysis.graph.edges = [⟨"a", "b", .call⟩, ⟨"b", "c", .importing⟩] ∧
      analysis.mapLines { showOrder := true, showDependencies := true }
        { orderPreview := 2, edgePreview := 1 } = .ok lines ∧
      lines = front ++ order ++ edges ∧
      analysis.ShowsOrder 2 order ∧ analysis.ShowsEdges 1 edges := by
  have evaluated : (analyze {}
      [{ id := "a", name := "a", file := "f", startLine := 1, endLine := 1 },
        { id := "b", name := "b", file := "f", startLine := 2, endLine := 2 },
        { id := "c", name := "c", file := "g", startLine := 1, endLine := 1 }]
      [⟨"a", "b", .call⟩, ⟨"b", "c", .importing⟩]).outcome.toOption.map
        (fun analysis => (analysis.order.order, analysis.graph.edges)) =
      some (["c", "b", "a"], [⟨"a", "b", .call⟩, ⟨"b", "c", .importing⟩]) := by
    cbv
  obtain ⟨analysis, known, values⟩ := Option.map_eq_some_iff.1 evaluated
  obtain ⟨orderKnown, edgesKnown⟩ := Prod.mk.inj values
  have returned := Traced.outcome_of_toOption known
  obtain ⟨writes, each⟩ := @previews_of_map (.analyzed _ _ _) analysis returned
    { showOrder := true, showDependencies := true } { orderPreview := 2, edgePreview := 1 }
  obtain ⟨lines, drawn⟩ := writes.gives (by
    constructor
    · intro _
      rw [orderKnown, LeftOutFits]
      decide +kernel
    · intro _ _
      rw [edgesKnown, LeftOutFits]
      decide +kernel)
  obtain ⟨front, order, edges, split, _, inOrder, _, inEdges⟩ := each lines drawn
  have some : analysis.graph.edges ≠ [] := by simp [edgesKnown]
  exact ⟨analysis, lines, front, order, edges, returned, orderKnown, edgesKnown, drawn, split,
    inOrder rfl, inEdges rfl some⟩

/-- A preview length that takes one of two components away, and says that three are left out. -/
theorem previews_negative :
    ∃ analysis,
      (analyze {} [{ id := "a", name := "a", file := "f", startLine := 1, endLine := 1 },
        { id := "b", name := "b", file := "f", startLine := 2, endLine := 2 }]
        []).outcome = .ok analysis ∧
      analysis.order.order = ["a", "b"] ∧
      analysis.orderLines { orderPreview := -1 } =
        .ok ["Processing Order (dependencies first):", "  1. a", "  ... and 3 more", ""] ∧
      ¬AddsUp 2 1 (some 3) := by
  have evaluated : (analyze {}
      [{ id := "a", name := "a", file := "f", startLine := 1, endLine := 1 },
        { id := "b", name := "b", file := "f", startLine := 2, endLine := 2 }]
      []).outcome.toOption.map
        (fun analysis => (analysis.order.order, analysis.namesOf ["a"], analysis.cyclicLine)) =
      some (["a", "b"], .ok ["a"], .ok []) := by
    cbv
  obtain ⟨analysis, known, values⟩ := Option.map_eq_some_iff.1 evaluated
  simp only [Prod.mk.injEq] at values
  obtain ⟨order, names, cyclic⟩ := values
  have counted : leftOutLine 2 (-1) = .ok ["  ... and 3 more"] := by decide +kernel
  have first : shown (-1) ["a", "b"] = ["a"] := by decide
  refine ⟨analysis, Traced.outcome_of_toOption known, order, ?_, ?_⟩
  · rw [Analysis.orderLines]
    simp only [order, first, names, cyclic, List.length_cons, List.length_nil, Nat.reduceAdd,
      counted]
    rfl
  · intro adds
    exact absurd adds.total (by decide)

end DepAtlas
